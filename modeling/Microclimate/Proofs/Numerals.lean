import Mathlib
import Microclimate.Proofs.Cells

/-!
# Chances that are written out

A chance may be given as a text instead of a number. The text is then read as a numeral, and a
numeral is said here to be what one would write down: blanks, a sign or none, digits with leading
zeros or without, an underscore between two neighbours here and there, blanks again. The reading
walks over the text from its start and trims, splits and drops as it goes; that it **accepts just
these texts, and gives the integer that the digits stand for**, is what has to be shown. The rest
follows, for a row is read by the integers in it.

* `Microclimate.Numeral.Spells`, `Microclimate.Numeral.Writes` – what it is to be a numeral;
* `Microclimate.Numeral.digits?_eq_some_iff` – the digits, with underscores or without;
* `Microclimate.Text.trim_of_edges`, `Microclimate.Text.exists_trim` – the blanks at both ends;
* `Microclimate.Numeral.read?_eq_some_iff` – **a text is read as the integer that it writes, and no
  other text is read;**
* `Microclimate.Rows.seasonTable_written` – **a chance that is written out is read like the
  number.**
-/

namespace Microclimate

/-! ### Blanks at both ends -/

/-- The blanks at both ends of a text are trimmed, if what is between them does not begin or end
with one. -/
theorem Text.trim_of_edges {before core after : List CodePoint}
    (blankBefore : ∀ c ∈ before, c.isBlank = true) (blankAfter : ∀ c ∈ after, c.isBlank = true)
    (first : ∀ c ∈ core.head?, c.isBlank = false) (last : ∀ c ∈ core.getLast?, c.isBlank = false) :
    Text.trim ⟨before ++ core ++ after⟩ = ⟨core⟩ := by
  have stops (cs : List CodePoint) (h : ∀ c ∈ cs.head?, c.isBlank = false) :
      cs.dropWhile CodePoint.isBlank = cs := by
    cases cs with
    | nil => rfl
    | cons c rest => exact List.dropWhile_cons_of_neg (by simp [h c rfl])
  rcases eq_or_ne core [] with rfl | nonempty
  · have all : ∀ c ∈ before ++ after, c.isBlank = true := by
      simpa [or_imp, forall_and] using ⟨blankBefore, blankAfter⟩
    have gone : (before ++ after).dropWhile CodePoint.isBlank = [] := by simpa using all
    simp [Text.trim, gone]
  · have front : (before ++ core ++ after).dropWhile CodePoint.isBlank = core ++ after := by
      rw [List.append_assoc, List.dropWhile_append_of_pos blankBefore]
      refine stops _ fun c mem => first c ?_
      rwa [List.head?_append_of_ne_nil _ nonempty] at mem
    have back : (core ++ after).reverse.dropWhile CodePoint.isBlank = core.reverse := by
      rw [List.reverse_append, List.dropWhile_append_of_pos (by simpa using blankAfter)]
      refine stops _ fun c mem => last c ?_
      rwa [List.head?_reverse] at mem
    simp only [Text.trim, front, back, List.reverse_reverse]

/-- What is trimmed off a text is blank. -/
theorem Text.exists_trim (t : Text) : ∃ before after : List CodePoint,
    (∀ c ∈ before, c.isBlank = true) ∧ (∀ c ∈ after, c.isBlank = true) ∧
      t.points = before ++ t.trim.points ++ after := by
  have blank (cs : List CodePoint) : ∀ c ∈ cs.takeWhile CodePoint.isBlank, c.isBlank = true :=
    fun _ mem => List.mem_takeWhile_imp mem
  have front := List.takeWhile_append_dropWhile (p := CodePoint.isBlank) (l := t.points)
  have back := List.takeWhile_append_dropWhile (p := CodePoint.isBlank)
    (l := (t.points.dropWhile CodePoint.isBlank).reverse)
  refine ⟨t.points.takeWhile CodePoint.isBlank,
    ((t.points.dropWhile CodePoint.isBlank).reverse.takeWhile CodePoint.isBlank).reverse,
    blank _, ?_, ?_⟩
  · intro c mem
    exact blank _ c (List.mem_reverse.1 mem)
  · have whole := congrArg List.reverse back
    rw [List.reverse_append, List.reverse_reverse] at whole
    rw [Text.trim, List.append_assoc, whole, front]

/-- No digit is a blank. -/
theorem CodePoint.isBlank_of_digit {c : CodePoint} {d : ℕ} (h : c.digit? = some d) :
    c.isBlank = false := by
  have apart : ∀ first ∈ Digit.zeros, ∀ k < 10,
      CodePoint.isBlank (Fin.ofNat 0x110000 (first + k)) = false := by decide +kernel
  obtain ⟨first, found, -⟩ := Option.map_eq_some_iff.1 h
  have between := List.find?_some found
  simp only [Bool.and_eq_true, decide_eq_true_eq] at between
  have same : Fin.ofNat 0x110000 (first + (c.val - first)) = c := by
    apply Fin.ext
    rw [Fin.val_ofNat, Nat.add_sub_cancel' between.1, Nat.mod_eq_of_lt c.isLt]
  exact same ▸ apart first (List.mem_of_find?_eq_some found) (c.val - first) (by omega)

namespace Numeral

/-! ### What a numeral is -/

/-- **Digits in writing**, with an underscore between two neighbours or none; and the digits. -/
inductive Spells : List CodePoint → List ℕ → Prop
  /-- The last digit. -/
  | last {c : CodePoint} {d : ℕ} (digit : c.digit? = some d) : Spells [c] [d]
  /-- A digit right before the next one. -/
  | next {c : CodePoint} {d : ℕ} {cs : List CodePoint} {ds : List ℕ} (digit : c.digit? = some d)
      (rest : Spells cs ds) : Spells (c :: cs) (d :: ds)
  /-- A digit and an underscore before the next one. -/
  | apart {c : CodePoint} {d : ℕ} {cs : List CodePoint} {ds : List ℕ} (digit : c.digit? = some d)
      (rest : Spells cs ds) : Spells (c :: CodePoint.ofChar '_' :: cs) (d :: ds)

/-- A sign or none, and whether it is a minus. -/
inductive Signs : List CodePoint → Bool → Prop
  | bare : Signs [] false
  | plus : Signs [CodePoint.ofChar '+'] false
  | minus : Signs [CodePoint.ofChar '-'] true

/-- An integer by its sign and its decimal digits, most significant first. -/
def ofSignDigits (negative : Bool) (digits : List ℕ) : ℤ :=
  let size : ℕ := Nat.ofDigits 10 digits.reverse
  if negative then -size else size

/-- **A text writes an integer**: blanks, a sign or none, at most 4300 digits, blanks. -/
inductive Writes : Text → ℤ → Prop
  | mk {before sign body after : List CodePoint} {negative : Bool} {digits : List ℕ}
      (blankBefore : ∀ c ∈ before, c.isBlank = true) (signed : Signs sign negative)
      (spelt : Spells body digits) (short : digits.length ≤ 4300)
      (blankAfter : ∀ c ∈ after, c.isBlank = true) :
      Writes ⟨before ++ (sign ++ body) ++ after⟩ (ofSignDigits negative digits)

/-! ### Reading digits -/

theorem digit?_underscore : (CodePoint.ofChar '_').digit? = none := by decide

/-- What may follow a digit, and the digits in it: nothing, or more digits, after an underscore or
right away. -/
def Continues (cs : List CodePoint) (ds : List ℕ) : Prop :=
  cs = [] ∧ ds = [] ∨ Spells cs ds ∨ ∃ rest, cs = CodePoint.ofChar '_' :: rest ∧ Spells rest ds

theorem spells_cons_iff {c : CodePoint} {cs : List CodePoint} {ds : List ℕ} :
    Spells (c :: cs) ds ↔ ∃ d, c.digit? = some d ∧ ∃ ds', Continues cs ds' ∧ d :: ds' = ds := by
  constructor
  · intro spelt
    cases spelt with
    | last digit => exact ⟨_, digit, [], .inl ⟨rfl, rfl⟩, rfl⟩
    | next digit spelt => exact ⟨_, digit, _, .inr (.inl spelt), rfl⟩
    | apart digit spelt => exact ⟨_, digit, _, .inr (.inr ⟨_, rfl, spelt⟩), rfl⟩
  · rintro ⟨d, digit, ds', ⟨rfl, rfl⟩ | spelt | ⟨rest, rfl, spelt⟩, rfl⟩
    · exact .last digit
    · exact .next digit spelt
    · exact .apart digit spelt

/-- **The digits of a text are read** if it spells them; and after a digit, if it continues with
them. -/
theorem digits?_eq_some_iff (cs : List CodePoint) (ds : List ℕ) :
    (digits? false cs = some ds ↔ Spells cs ds) ∧
      (digits? true cs = some ds ↔ Continues cs ds) := by
  induction cs generalizing ds with
  | nil =>
    refine ⟨iff_of_false nofun nofun, ?_⟩
    constructor
    · rintro ⟨⟩
      exact .inl ⟨rfl, rfl⟩
    · rintro (⟨-, rfl⟩ | spelt | ⟨rest, none, -⟩)
      · rfl
      · cases spelt
      · cases none
  | cons c rest ih =>
    rw [digits?, digits?, spells_cons_iff]
    cases digit : c.digit? with
    | some d =>
      have other : c ≠ CodePoint.ofChar '_' := by
        rintro rfl
        cases digit?_underscore.symm.trans digit
      simp [Option.map_eq_some_iff, (ih _).2, Continues, spells_cons_iff, digit, other]
    | none => simp [(ih _).1, Continues, spells_cons_iff, digit]

/-- Digits in writing begin with a digit. -/
theorem Spells.first {cs : List CodePoint} {ds : List ℕ} (h : Spells cs ds) :
    ∃ c rest, cs = c :: rest ∧ ∃ d, c.digit? = some d := by
  cases h with
  | last digit => exact ⟨_, _, rfl, _, digit⟩
  | next digit => exact ⟨_, _, rfl, _, digit⟩
  | apart digit => exact ⟨_, _, rfl, _, digit⟩

/-- Digits in writing end with a digit. -/
theorem Spells.final {cs : List CodePoint} {ds : List ℕ} (h : Spells cs ds) :
    ∀ c ∈ cs.getLast?, ∃ d, c.digit? = some d := by
  induction h with
  | last digit =>
    rintro _ ⟨⟩
    exact ⟨_, digit⟩
  | next digit spelt ih =>
    obtain ⟨c, rest, rfl, -⟩ := spelt.first
    rwa [List.getLast?_cons_cons]
  | apart digit spelt ih =>
    obtain ⟨c, rest, rfl, -⟩ := spelt.first
    rwa [List.getLast?_cons_cons, List.getLast?_cons_cons]

/-! ### Reading signs -/

/-- No sign is a digit or a blank. -/
theorem Signs.plain {sign : List CodePoint} {negative : Bool} (h : Signs sign negative) :
    ∀ c ∈ sign, c.digit? = none ∧ c.isBlank = false := by
  cases h with
  | bare => exact fun _ mem => absurd mem List.not_mem_nil
  | plus => exact List.forall_mem_singleton.2 (by decide)
  | minus => exact List.forall_mem_singleton.2 (by decide)

/-- A sign is told from the digits after it. -/
theorem splitSign_of_signs {sign body : List CodePoint} {negative : Bool} {digits : List ℕ}
    (signed : Signs sign negative) (spelt : Spells body digits) :
    splitSign (sign ++ body) = (negative, body) := by
  obtain ⟨c, rest, rfl, d, digit⟩ := spelt.first
  have other {s : CodePoint} (h : s.digit? = none) : c ≠ s := by
    rintro rfl
    cases h.symm.trans digit
  cases signed with
  | bare => rw [List.nil_append, splitSign, if_neg (other (by decide)), if_neg (other (by decide))]
  | plus => rfl
  | minus => rfl

/-- Whatever comes first in a text, there is a sign or none before the rest. -/
theorem exists_signs (cs : List CodePoint) :
    ∃ sign, Signs sign (splitSign cs).1 ∧ cs = sign ++ (splitSign cs).2 := by
  cases cs with
  | nil => exact ⟨[], .bare, rfl⟩
  | cons c rest =>
    rw [splitSign]
    split
    next same => exact ⟨_, .minus, by simp [same]⟩
    next =>
      split
      next same => exact ⟨_, .plus, by simp [same]⟩
      next => exact ⟨[], .bare, rfl⟩

/-! ### Reading numerals -/

/-- A text is read by its sign and its digits, once it is trimmed. -/
theorem read?_eq (t : Text) :
    read? t = ((digits? false (splitSign t.trim.points).2).filter (·.length ≤ 4300)).map
      (ofSignDigits (splitSign t.trim.points).1) := by
  rw [read?]
  dsimp only
  cases digits? false (splitSign t.trim.points).2 with
  | none => rfl
  | some ds =>
    by_cases short : ds.length ≤ 4300
    · simp [ofSignDigits, value_eq, maxDigits, short]
    · simp [maxDigits, short, Nat.lt_of_not_le short]

/-- **What is written is read.** -/
theorem read?_of_writes {t : Text} {n : ℤ} (h : Writes t n) : read? t = some n := by
  obtain @⟨before, sign, body, after, negative, digits, blankBefore, signed, spelt, short,
    blankAfter⟩ := h
  obtain ⟨c, rest, begins, d, digit⟩ := spelt.first
  have first : ∀ c ∈ (sign ++ body).head?, c.isBlank = false := by
    cases sign with
    | nil =>
      rw [List.nil_append, begins]
      rintro _ ⟨⟩
      exact CodePoint.isBlank_of_digit digit
    | cons s _ =>
      rintro _ ⟨⟩
      exact (signed.plain s List.mem_cons_self).2
  have last : ∀ c ∈ (sign ++ body).getLast?, c.isBlank = false := by
    intro z mem
    rw [List.getLast?_append_of_ne_nil _ (by simp [begins])] at mem
    obtain ⟨e, digit⟩ := spelt.final z mem
    exact CodePoint.isBlank_of_digit digit
  have trimmed := Text.trim_of_edges blankBefore blankAfter first last
  rw [read?_eq, trimmed, splitSign_of_signs signed spelt,
    (digits?_eq_some_iff body digits).1.2 spelt]
  simp [short]

/-- **What is read is written.** -/
theorem writes_of_read? {t : Text} {n : ℤ} (h : read? t = some n) : Writes t n := by
  obtain ⟨before, after, blankBefore, blankAfter, points⟩ := t.exists_trim
  obtain ⟨sign, signed, whole⟩ := exists_signs t.trim.points
  rw [read?_eq] at h
  obtain ⟨digits, found, rfl⟩ := Option.map_eq_some_iff.1 h
  obtain ⟨found, short⟩ := Option.filter_eq_some_iff.1 found
  have spelt := (digits?_eq_some_iff _ _).1.1 found
  have same : t = ⟨before ++ (sign ++ (splitSign t.trim.points).2) ++ after⟩ :=
    congrArg Text.mk (by rw [← whole, ← points])
  have written := Writes.mk blankBefore signed spelt (by simpa using short) blankAfter
  rwa [← same] at written

/-- **A text is read as the integer that it writes**, and no other text is read. -/
theorem read?_eq_some_iff {t : Text} {n : ℤ} : read? t = some n ↔ Writes t n :=
  ⟨writes_of_read?, read?_of_writes⟩

end Numeral

namespace Rows

/-- **A chance that is written out is read like the number**: whatever the other columns hold, the
row gives the same chances with the same records, or the same complaint. -/
theorem seasonTable_written {t : Text} {n : ℤ} (written : Numeral.Writes t n)
    {row : List (Value × Value)} {c : Column} (found : lookup row c.name = some (.int n)) :
    seasonTable (.dict (withCell row c (.text t))) = seasonTable (.dict row) := by
  refine seasonTable_withCell found rfl ?_
  rw [Value.whole, Numeral.read?_of_writes written]

/-- A row with a chance above a hundred. -/
def excessive : List (Value × Value) :=
  (.text zoneName, .text "a") :: Column.all.map fun c =>
    (.text c.name, .int (if c = ⟨.summer, .snow⟩ then 150 else 30))

/-- The chance may be written out at length; it is reset, and there is a record of it. -/
theorem seasonTable_written_excessive :
    Numeral.Writes "\t +0_01_50 " 150 ∧
      lookup excessive (Column.mk .summer .snow).name = some (.int 150) ∧
      seasonTable (.dict (withCell excessive ⟨.summer, .snow⟩ (.text "\t +0_01_50 "))) #[] =
        .ok ⟨⟨30, 30, 30⟩, ⟨30, 25, 30⟩, ⟨30, 30, 30⟩, ⟨30, 30, 30⟩⟩
          #[.reset (.text "a") ⟨.summer, .snow⟩] := by
  have written : Numeral.Writes "\t +0_01_50 " 150 := Numeral.writes_of_read? (by decide +kernel)
  have found : lookup excessive (Column.mk .summer .snow).name = some (.int 150) := rfl
  refine ⟨written, found, ?_⟩
  rw [seasonTable_written written found]
  rfl

end Rows

end Microclimate
