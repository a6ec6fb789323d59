import Mathlib
import Microclimate.Config
import Microclimate.Proofs.Columns
import Microclimate.Proofs.Filling

/-!
# Which settings are accepted

A configuration is written as a mapping, and the mapping is looked at twice. The first look is at
its entries, in the order of the mapping: what is given for a setting has to be an integer. The
second look is at the settings, in their own order: each of them, given or not, has to be positive.
So it takes two orders to say which of several things that are wrong is complained of. An entry that
names no setting is not looked at, and the order of the others matters to the first look alone, so
it can be told from the outcome only if something is no integer.

* `Microclimate.Config.given` – what a mapping gives for a setting;
* `Microclimate.Config.Takes` – values for the settings that are those of a mapping, or the
  standard;
* `Microclimate.Config.Wrong` – **what is wrong with a mapping, and is complained of first**;
* `Microclimate.Config.draft_of_integral`, `Microclimate.Config.draft_of_first` – the first look;
* `Microclimate.Config.check_eq_ok`, `Microclimate.Config.check_eq_error` – the second look;
* `Microclimate.Config.ofEntries_decides` – **when a mapping is accepted, with which values, what is
  said if it is not, and what does not matter to that.**
-/

namespace Microclimate

/-- A setting stands first in the list of all, or second after the first. -/
theorem Setting.all_split {earlier later : List Setting} {s : Setting}
    (order : Setting.all = earlier ++ s :: later) :
    (earlier = [] ∧ s = .changeInterval) ∨ (earlier = [.changeInterval] ∧ s = .tps) := by
  match earlier, order with
  | [], order =>
    cases order
    exact .inl ⟨rfl, rfl⟩
  | [_], order =>
    cases order
    exact .inr ⟨rfl, rfl⟩
  | _ :: _ :: _, order =>
    have short := congrArg List.length order
    simp [Setting.all] at short

namespace Config

variable {entries entries' : List (Value × Value)} {s : Setting} {d : Draft} {c : Config}
  {f : Fault}

/-! ### Settings by name -/

/-- The value of a setting in a draft. -/
def Draft.get (d : Draft) : Setting → Int
  | .changeInterval => d.changeInterval
  | .tps => d.tps

/-- The value of a setting in a configuration. -/
def get (c : Config) : Setting → Int
  | .changeInterval => c.changeInterval
  | .tps => c.tps

theorem get_pos (c : Config) (s : Setting) : 0 < c.get s := by
  cases s with
  | changeInterval => exact c.changeInterval_pos
  | tps => exact c.tps_pos

theorem Draft.get_set (d : Draft) (s : Setting) (n : Int) (s' : Setting) :
    (d.set s n).get s' = if s = s' then n else d.get s' := by
  cases s <;> cases s' <;> rfl

theorem Draft.get_inj {d d' : Draft} (h : d.get = d'.get) : d = d' := by
  have interval : d.changeInterval = d'.changeInterval := congrFun h .changeInterval
  have rate : d.tps = d'.tps := congrFun h .tps
  cases d
  cases d'
  simp_all

/-- Where no value is given, the value is positive. -/
theorem Draft.get_standard_pos (s : Setting) : 0 < ({} : Draft).get s := by
  cases s <;> decide

theorem sameKey_name {s s' : Setting} :
    (Value.text s.name).sameKey (.text s'.name) = true ↔ s = s' := by
  cases s <;> cases s' <;> decide

theorem setting?_eq_some {key : Value} : setting? key = some s ↔ key = .text s.name := by
  constructor
  · intro named
    rw [setting?] at named
    have text := List.find?_some named
    cases key with
    | text t => simpa [Value.isText] using text
    | _ => cases text
  · rintro rfl
    cases s <;> rfl

/-- What a mapping gives for a setting. -/
def given (entries : List (Value × Value)) (s : Setting) : Option Value :=
  (⟨entries⟩ : Table Value).find? (.text s.name)

/-- The entry names a setting. -/
def isKnown (e : Value × Value) : Bool := (setting? e.1).isSome

/-- **An entry is integral** if what it gives for a setting is an integer. -/
def Integral (e : Value × Value) : Prop := ∀ s : Setting, e.1 = .text s.name → ∃ n, e.2 = .int n

theorem given_cons (e : Value × Value) (rest : List (Value × Value)) (s : Setting) :
    given (e :: rest) s = if e.1.sameKey (.text s.name) then some e.2 else given rest s :=
  Table.find?_cons e.1 e.2 rest _

theorem given_eq_some (distinct : (⟨entries⟩ : Table Value).Distinct) {v : Value} :
    given entries s = some v ↔ (.text s.name, v) ∈ entries := by
  rw [given, distinct.find?_eq_some]
  constructor
  · rintro ⟨k, mem, same⟩
    exact Value.sameKey_text.1 same ▸ mem
  · exact fun mem => ⟨_, mem, Value.sameKey_text.2 rfl⟩

/-- What is given for the settings is integral if the entries are. -/
theorem integral_iff (distinct : (⟨entries⟩ : Table Value).Distinct) :
    (∀ e ∈ entries, Integral e) ↔ ∀ s v, given entries s = some v → ∃ n, v = .int n := by
  simp only [given_eq_some distinct]
  constructor
  · exact fun h s v mem => h _ mem s rfl
  · rintro h ⟨_, v⟩ mem s rfl
    exact h s v mem

/-- **Values for the settings that are taken** from a mapping, and from a draft where the mapping
gives none. -/
def Takes (entries : List (Value × Value)) (d : Draft) (values : Setting → Int) : Prop :=
  ∀ s, given entries s = some (.int (values s)) ∨ given entries s = none ∧ values s = d.get s

theorem Takes.eq_of_given {values : Setting → Int} (h : Takes entries d values) {n : Int}
    (found : given entries s = some (.int n)) : values s = n := by
  rcases h s with taken | ⟨missing, -⟩
  · exact Value.int.inj (Option.some.inj (taken.symm.trans found))
  · cases missing.symm.trans found

theorem Takes.unique {values values' : Setting → Int} (h : Takes entries d values)
    (h' : Takes entries d values') : values = values' := by
  funext s
  rcases h s with taken | ⟨missing, standard⟩
  · exact (h'.eq_of_given taken).symm
  · rcases h' s with taken | ⟨-, standard'⟩
    · cases missing.symm.trans taken
    · exact standard.trans standard'.symm

/-- An entry that names no setting gives nothing. -/
theorem Takes.cons_of_unknown {e : Value × Value} {values : Setting → Int}
    (h : Takes entries d values) (unknown : setting? e.1 = none) :
    Takes (e :: entries) d values := by
  intro s
  have apart : ¬e.1.sameKey (.text s.name) = true := by
    rw [Value.sameKey_text, ← setting?_eq_some, unknown]
    simp
  rw [given_cons, if_neg apart]
  exact h s

/-- An entry that gives an integer for a setting replaces the value in the draft, which is then kept
since no other entry names the setting. -/
theorem Takes.cons_int {s : Setting} {n : Int} {values : Setting → Int}
    (h : Takes entries (d.set s n) values)
    (distinct : (⟨(.text s.name, .int n) :: entries⟩ : Table Value).Distinct) :
    Takes ((.text s.name, .int n) :: entries) d values := by
  intro s'
  have later := h s'
  rw [Draft.get_set] at later
  rw [given_cons]
  by_cases same : s = s'
  · subst same
    have gone : given entries s = none := distinct.find?_tail (Value.sameKey_text.2 rfl)
    have kept : values s = n := by simpa [gone] using later
    rw [if_pos (sameKey_name.2 rfl), kept]
    exact .inl rfl
  · rw [if_neg same] at later
    rwa [if_neg (mt sameKey_name.1 same)]

/-- **What is wrong with a mapping** and is complained of first. -/
inductive Wrong (entries : List (Value × Value)) : Fault → Prop
  /-- In the order of the mapping, this is the first setting for which no integer is given. -/
  | kind {before after : List (Value × Value)} {s : Setting} {v : Value}
      (split : entries = before ++ (.text s.name, v) :: after)
      (earlier : ∀ e ∈ before, Integral e) (bad : ∀ n, v ≠ .int n) : Wrong entries (.notInteger s v)
  /-- What is given for settings are integers, and in the order of the settings this is the first
  one that is not positive. -/
  | range {earlier later : List Setting} {s : Setting} {n : Int}
      (integral : ∀ e ∈ entries, Integral e) (order : Setting.all = earlier ++ s :: later)
      (fine : ∀ s' ∈ earlier, ∀ m, given entries s' = some (.int m) → 0 < m)
      (found : given entries s = some (.int n)) (low : n ≤ 0) : Wrong entries (.notPositive s)

/-! ### The first look -/

theorem draft_cons_of_unknown {e : Value × Value} (h : setting? e.1 = none) (d : Draft)
    (rest : List (Value × Value)) : draft d (e :: rest) = draft d rest := by
  simp only [draft, h]

theorem draft_cons_int (d : Draft) (s : Setting) (n : Int) (rest : List (Value × Value)) :
    draft d ((.text s.name, .int n) :: rest) = draft (d.set s n) rest := by
  simp only [draft, setting?_eq_some.2 rfl]

theorem draft_cons_of_not_int {v : Value} (h : ∀ n, v ≠ .int n) (d : Draft) (s : Setting)
    (rest : List (Value × Value)) :
    draft d ((.text s.name, v) :: rest) = .error (.notInteger s v) := by
  simp only [draft, setting?_eq_some.2 rfl]

/-- An integral entry names no setting, or gives an integer for one. -/
theorem Integral.cases {e : Value × Value} (h : Integral e) :
    setting? e.1 = none ∨ ∃ (s : Setting) (n : Int), e = (.text s.name, .int n) := by
  obtain ⟨key, v⟩ := e
  cases named : setting? key with
  | none => exact .inl rfl
  | some s =>
    obtain rfl := setting?_eq_some.1 named
    obtain ⟨n, rfl⟩ := h s rfl
    exact .inr ⟨s, n, rfl⟩

/-- **The first setting for which no integer is given** ends the first look. -/
theorem draft_of_first {before : List (Value × Value)} (h : ∀ e ∈ before, Integral e) {v : Value}
    (bad : ∀ n, v ≠ .int n) (d : Draft) (s : Setting) (after : List (Value × Value)) :
    draft d (before ++ (.text s.name, v) :: after) = .error (.notInteger s v) := by
  -- over the entries that are passed, the draft being filled on the way
  induction before generalizing d with
  | nil => exact draft_cons_of_not_int bad d s after
  | cons e rest ih =>
    obtain ⟨first, others⟩ := List.forall_mem_cons.1 h
    rw [List.cons_append]
    rcases first.cases with unknown | ⟨s', n, rfl⟩
    · rw [draft_cons_of_unknown unknown, ih others]
    · rw [draft_cons_int, ih others]

/-- **Where all entries are integral** the first look gives a draft with the values taken. -/
theorem draft_of_integral (distinct : (⟨entries⟩ : Table Value).Distinct)
    (h : ∀ e ∈ entries, Integral e) (d : Draft) :
    ∃ d', draft d entries = .ok d' ∧ Takes entries d d'.get := by
  induction entries generalizing d with
  | nil => exact ⟨d, rfl, fun _ => .inr ⟨rfl, rfl⟩⟩
  | cons e rest ih =>
    obtain ⟨first, others⟩ := List.forall_mem_cons.1 h
    have separate : (⟨rest⟩ : Table Value).Distinct := (List.pairwise_cons.1 distinct).2
    rcases first.cases with unknown | ⟨s, n, rfl⟩
    · obtain ⟨d', made, takes⟩ := ih separate others d
      exact ⟨d', (draft_cons_of_unknown unknown d rest).trans made, takes.cons_of_unknown unknown⟩
    · obtain ⟨d', made, takes⟩ := ih separate others (d.set s n)
      exact ⟨d', (draft_cons_int d s n rest).trans made, takes.cons_int distinct⟩

/-! ### The second look -/

theorem check_eq_ok : check d = .ok c ↔ d.get = c.get := by
  constructor
  · intro accepted
    unfold check at accepted
    split_ifs at accepted
    obtain rfl := Except.ok.inj accepted
    funext s
    cases s <;> rfl
  · intro same
    have values : (Draft.mk c.changeInterval c.tps).get = c.get := by
      funext s
      cases s <;> rfl
    obtain rfl := Draft.get_inj (same.trans values.symm)
    exact (dif_pos c.changeInterval_pos).trans (dif_pos c.tps_pos)

/-- **The first setting that is not positive** ends the second look. -/
theorem check_eq_error : check d = .error f ↔
    ∃ earlier s later, Setting.all = earlier ++ s :: later ∧ (∀ s' ∈ earlier, 0 < d.get s') ∧
      d.get s ≤ 0 ∧ f = .notPositive s := by
  unfold check
  constructor
  · intro refused
    split_ifs at refused with interval rate
    · cases refused
      exact ⟨[.changeInterval], .tps, [], rfl, by simpa [Draft.get] using interval,
        not_lt.1 rate, rfl⟩
    · cases refused
      exact ⟨[], .changeInterval, [.tps], rfl, by simp, not_lt.1 interval, rfl⟩
  · rintro ⟨earlier, s, later, order, fine, low, rfl⟩
    rcases Setting.all_split order with ⟨rfl, rfl⟩ | ⟨rfl, rfl⟩
    · exact dif_neg (not_lt.2 low)
    · exact (dif_pos (fine _ (List.mem_singleton_self _))).trans (dif_neg (not_lt.2 low))

/-! ### Both looks -/

/-- **Integral entries** come to a draft, which is then checked. -/
theorem ofEntries_of_integral (distinct : (⟨entries⟩ : Table Value).Distinct)
    (h : ∀ e ∈ entries, Integral e) :
    ∃ d, ofEntries entries = check d ∧ Takes entries {} d.get := by
  obtain ⟨d, made, takes⟩ := draft_of_integral distinct h {}
  refine ⟨d, ?_, takes⟩
  rw [ofEntries, made]
  rfl

/-- An entry that is not integral gives something else than an integer for a setting. -/
theorem exists_of_not_integral {e : Value × Value} (h : ¬Integral e) :
    ∃ (s : Setting) (v : Value), e = (.text s.name, v) ∧ ∀ n, v ≠ .int n := by
  obtain ⟨key, v⟩ := e
  simp only [Integral, not_forall, not_exists] at h
  obtain ⟨s, rfl, bad⟩ := h
  exact ⟨s, v, rfl, bad⟩

theorem ofEntries_of_first {before after : List (Value × Value)}
    (h : ∀ e ∈ before, Integral e) {v : Value} (bad : ∀ n, v ≠ .int n) :
    ofEntries (before ++ (.text s.name, v) :: after) = .error (.notInteger s v) := by
  rw [ofEntries, draft_of_first h bad]
  rfl

/-- Either all entries are integral, or the first one that is not is complained of. -/
theorem integral_or_refused (entries : List (Value × Value)) :
    (∀ e ∈ entries, Integral e) ∨
      ∃ s v, Wrong entries (.notInteger s v) ∧ ofEntries entries = .error (.notInteger s v) := by
  rcases Rows.all_or_first_not Integral entries with h | ⟨before, e, after, split, earlier, bad⟩
  · exact .inl h
  · obtain ⟨s, v, rfl, other⟩ := exists_of_not_integral bad
    exact .inr ⟨s, v, .kind split earlier other, split ▸ ofEntries_of_first earlier other⟩

/-- **What is wrong with a mapping is what is complained of.** -/
theorem ofEntries_eq_error (distinct : (⟨entries⟩ : Table Value).Distinct) :
    ofEntries entries = .error f ↔ Wrong entries f := by
  constructor
  · intro refused
    rcases integral_or_refused entries with integral | ⟨s, v, wrong, refused'⟩
    · obtain ⟨d, made, takes⟩ := ofEntries_of_integral distinct integral
      obtain ⟨earlier, s, later, order, fine, low, rfl⟩ :=
        check_eq_error.1 (made.symm.trans refused)
      rcases takes s with found | ⟨-, standard⟩
      · exact .range integral order (fun s' mem m found' => takes.eq_of_given found' ▸ fine s' mem)
          found low
      · exact absurd (standard ▸ Draft.get_standard_pos s) (not_lt.2 low)
    · obtain rfl := Except.error.inj (refused.symm.trans refused')
      exact wrong
  · -- an integer in every entry takes the mapping past the first look, whatever its range
    rintro (⟨rfl, earlier, bad⟩ | ⟨integral, order, fine, found, low⟩)
    · exact ofEntries_of_first earlier bad
    · obtain ⟨d, made, takes⟩ := ofEntries_of_integral distinct integral
      refine made.trans (check_eq_error.2 ⟨_, _, _, order, fun s' mem => ?_, ?_, rfl⟩)
      · rcases takes s' with found' | ⟨-, standard⟩
        · exact fine s' mem _ found'
        · exact standard ▸ Draft.get_standard_pos s'
      · rwa [takes.eq_of_given found]

/-- **The configuration has the values of the mapping**, and the standard where it gives none. -/
theorem ofEntries_eq_ok (distinct : (⟨entries⟩ : Table Value).Distinct) :
    ofEntries entries = .ok c ↔ Takes entries {} c.get := by
  constructor
  · intro accepted
    rcases integral_or_refused entries with integral | ⟨s, v, -, refused⟩
    · obtain ⟨d, made, takes⟩ := ofEntries_of_integral distinct integral
      exact check_eq_ok.1 (made.symm.trans accepted) ▸ takes
    · cases accepted.symm.trans refused
  · intro takes
    have integral : ∀ e ∈ entries, Integral e := by
      refine (integral_iff distinct).2 fun s v found => ?_
      rcases takes s with taken | ⟨missing, -⟩
      · exact ⟨_, Option.some.inj (found.symm.trans taken)⟩
      · cases missing.symm.trans found
    obtain ⟨d, made, takes'⟩ := ofEntries_of_integral distinct integral
    exact made.trans (check_eq_ok.2 (takes'.unique takes))

/-- **A mapping is accepted** if what it gives for settings are positive integers. -/
theorem ofEntries_isOk_iff (distinct : (⟨entries⟩ : Table Value).Distinct) :
    (∃ c, ofEntries entries = .ok c) ↔
      ∀ s v, given entries s = some v → ∃ n, v = .int n ∧ 0 < n := by
  constructor
  · rintro ⟨c, accepted⟩ s v found
    rcases (ofEntries_eq_ok distinct).1 accepted s with taken | ⟨missing, -⟩
    · exact ⟨c.get s, Option.some.inj (found.symm.trans taken), c.get_pos s⟩
    · cases missing.symm.trans found
  · intro positive
    cases outcome : ofEntries entries with
    | ok c => exact ⟨c, rfl⟩
    | error f =>
      rcases (ofEntries_eq_error distinct).1 outcome with ⟨split, -, bad⟩ | ⟨-, -, -, found, low⟩
      · have found :=
          (given_eq_some distinct).2 (split ▸ List.mem_append_right _ List.mem_cons_self)
        obtain ⟨n, rfl, -⟩ := positive _ _ found
        exact absurd rfl (bad n)
      · obtain ⟨n, same, above⟩ := positive _ _ found
        exact absurd (Value.int.inj same ▸ above) (not_lt.2 low)

/-- **It is the configuration that is at fault**, unless a value in it cannot be written down. -/
theorem Wrong.isConfig (h : Wrong entries f) :
    f.isConfig = true ∨
      f.isWritable = false ∧ ∃ e ∈ entries, e.2.isWritable = false := by
  cases h with
  | @kind _ _ s v split _ _ =>
    cases short : v.isWritable with
    | true => exact .inl short
    | false => exact .inr ⟨short, (.text s.name, v), by simp [split], short⟩
  | range => exact .inl rfl

/-! ### What does not matter -/

/-- The first look is at the entries that name a setting. -/
theorem draft_filter (d : Draft) (entries : List (Value × Value)) :
    draft d (entries.filter isKnown) = draft d entries := by
  induction entries generalizing d with
  | nil => rfl
  | cons e rest ih =>
    obtain ⟨key, v⟩ := e
    cases named : setting? key with
    | none =>
      rw [List.filter_cons_of_neg (by simp [isKnown, named]), ih, draft_cons_of_unknown named]
    | some s =>
      rw [List.filter_cons_of_pos (by simp [isKnown, named])]
      cases v with
      | int n => simp only [draft, named, ih]
      | _ => simp only [draft, named]

theorem ofEntries_filter (entries : List (Value × Value)) :
    ofEntries (entries.filter isKnown) = ofEntries entries := by
  rw [ofEntries, draft_filter, ofEntries]

/-- **The order of a mapping** tells only which of several settings is complained of for not being
integers. -/
theorem ofEntries_of_perm (distinct : (⟨entries⟩ : Table Value).Distinct)
    (perm : entries'.Perm entries) :
    ofEntries entries' = ofEntries entries ∨
      (∃ s v, ofEntries entries = .error (.notInteger s v)) ∧
        ∃ s v, ofEntries entries' = .error (.notInteger s v) := by
  have distinct' : (⟨entries'⟩ : Table Value).Distinct := distinct.of_perm perm
  -- the second look does not see the order, and the first one only looks for the first fault in it
  by_cases integral : ∀ e ∈ entries, Integral e
  · obtain ⟨d, made, takes⟩ := ofEntries_of_integral distinct integral
    obtain ⟨d', made', takes'⟩ :=
      ofEntries_of_integral distinct' fun e mem => integral e (perm.mem_iff.1 mem)
    have same : given entries' = given entries :=
      funext fun s => distinct.find?_of_perm perm _
    have values : d'.get = d.get := by
      refine Takes.unique ?_ takes
      rwa [Takes, same] at takes'
    rw [made, made', Draft.get_inj values]
    exact .inl rfl
  · have integral' : ¬∀ e ∈ entries', Integral e :=
      mt (fun h e mem => h e (perm.mem_iff.2 mem)) integral
    obtain ⟨s, v, -, refused⟩ := (integral_or_refused entries).resolve_left integral
    obtain ⟨s', v', -, refused'⟩ := (integral_or_refused entries').resolve_left integral'
    exact .inr ⟨⟨s, v, refused⟩, s', v', refused'⟩

/-- **Which mappings are accepted, and what is said of the others.** A mapping is accepted if what
it gives for settings are positive integers, and then these are the values, with the standard ones
for what is not given. Else the fault is one of the configuration, unless a value is too long to be
written down: the first setting in the order of
the mapping for which no integer is given, and if there is none, the first setting in the order of
the settings that is not positive. Entries that name no setting do not matter, nor does the order of
the others, unless something is no integer before and after. -/
theorem ofEntries_decides (distinct : (⟨entries⟩ : Table Value).Distinct) :
    ((∃ c, ofEntries entries = .ok c) ↔
        ∀ s v, given entries s = some v → ∃ n, v = .int n ∧ 0 < n) ∧
      (∀ c, ofEntries entries = .ok c ↔ Takes entries {} c.get) ∧
      (∀ f, ofEntries entries = .error f ↔ Wrong entries f) ∧
      (∀ f, ofEntries entries = .error f → f.isConfig = true ∨
        f.isWritable = false ∧ ∃ e ∈ entries, e.2.isWritable = false) ∧
      (∀ entries', entries'.filter isKnown = entries.filter isKnown →
        ofEntries entries' = ofEntries entries) ∧
      ∀ entries', (entries'.filter isKnown).Perm (entries.filter isKnown) →
        ofEntries entries' = ofEntries entries ∨
          (∃ s v, ofEntries entries = .error (.notInteger s v)) ∧
            ∃ s v, ofEntries entries' = .error (.notInteger s v) := by
  refine ⟨ofEntries_isOk_iff distinct, fun _ => ofEntries_eq_ok distinct,
    fun _ => ofEntries_eq_error distinct,
    fun _ refused => ((ofEntries_eq_error distinct).1 refused).isConfig, ?_, ?_⟩
  · intro entries' same
    rw [← ofEntries_filter entries', same, ofEntries_filter]
  · intro entries' perm
    have known : (⟨entries.filter isKnown⟩ : Table Value).Distinct := distinct.filter _
    rw [← ofEntries_filter entries', ← ofEntries_filter entries]
    exact ofEntries_of_perm known perm

/-- A mapping without an integer for either setting. -/
def muddled : List (Value × Value) :=
  [(.text "tps", .text "fast"), (.text "motd", .text "hello"),
    (.text "change_interval_ms", .bool true)]

/-- The rate is complained of, and the interval if the mapping is turned around. -/
theorem ofEntries_decides_muddled :
    ofEntries muddled = .error (.notInteger .tps (.text "fast")) ∧
      ofEntries muddled.reverse = .error (.notInteger .changeInterval (.bool true)) ∧
      ¬∃ c, ofEntries muddled = .ok c := by
  have distinct : (⟨muddled⟩ : Table Value).Distinct := by
    unfold Table.Distinct
    decide +kernel
  have turned : (⟨muddled.reverse⟩ : Table Value).Distinct := by
    unfold Table.Distinct
    decide +kernel
  have rate : Wrong muddled (.notInteger .tps (.text "fast")) :=
    .kind (show muddled = [] ++ _ :: _ from rfl) (by simp) (by simp)
  have interval : Wrong muddled.reverse (.notInteger .changeInterval (.bool true)) :=
    .kind (show muddled.reverse = [] ++ _ :: _ from rfl) (by simp) (by simp)
  have refused := ((ofEntries_decides distinct).2.2.1 _).2 rate
  refine ⟨refused, ((ofEntries_decides turned).2.2.1 _).2 interval, ?_⟩
  rintro ⟨c, accepted⟩
  cases accepted.symm.trans refused

end Config

end Microclimate
