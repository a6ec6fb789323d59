import Microclimate.Proofs.Columns

/-!
# Rows that go astray

Whatever is wrong with the rows of a data file should come out as one kind of fault, which says that
the data are bad. A column that is missing, unreadable or negative comes out so, and so does a row
that names no zone. But the rows come from a file and may be anything that a file can hold, and not
everything was thought of:

* a column can hold an infinity, which no integer comes near;
* a zone can be a list or a dictionary, and those are no keys;
* a row can be no dictionary at all. An empty list and an empty text pass for rows that name no
  zone, and so does a list of keys with their values; everything else goes astray;
* what is wrong can be too long to be put into words.

Such a row **strays**: it fails in some other way. The rows are read in order, so what matters is
whether a row strays to which reading comes at all.

* `Microclimate.Rows.Loads`, `Microclimate.Rows.Strays` – a row is taken into the table, or it
  strays;
* `Microclimate.Rows.readRow_of_loads`, `Microclimate.Rows.readRow_of_strays`,
  `Microclimate.Rows.readRow_of_neither` – **what one row comes to**;
* `Microclimate.Rows.fill_of_loads`, `Microclimate.Rows.fill_of_first` – what many rows come to;
* `Microclimate.Rows.IsReading` – rows are read as they are, or from a file that holds them;
* `Microclimate.Rows.table_faults` – **when rows are read, and when it is the data that are bad.**
-/

namespace Microclimate

namespace Rows

/-- A row is taken into the table: it names a zone that can be a key, and all its columns are
good. -/
inductive Loads : Value → Prop
  | mk {row : List (Value × Value)} {zone : Value} (names : lookup row zoneName = some zone)
      (good : ∀ c, Good row c) (key : zone.isKey = true) : Loads (.dict row)

/-- An item is a key with its value. -/
def IsPair (item : Value) : Prop := ∃ key value, parts? item = some [key, value] ∧ key.isKey = true

/-- **A row strays**: it is at fault, but not in a way that is put down to the data. Which keys are
the same matters only for a list, which is made into a dictionary. -/
inductive Strays (same : Value → Value → Bool) : Value → Prop
  /-- The first bad column holds an infinity. -/
  | infinite {row : List (Value × Value)} {zone cell : Value} {before after : List Column}
      {c : Column} (names : lookup row zoneName = some zone)
      (columns : Column.all = before ++ c :: after) (good : ∀ b ∈ before, Good row b)
      (found : lookup row c.name = some cell) (read : cell.whole = .infinite) :
      Strays same (.dict row)
  /-- What is wrong with the first bad column cannot be put into words. -/
  | unsaid {row : List (Value × Value)} {zone : Value} {before after : List Column} {c : Column}
      {f : Fault} (names : lookup row zoneName = some zone)
      (columns : Column.all = before ++ c :: after) (good : ∀ b ∈ before, Good row b)
      (blames : Blames row zone c f) (long : f.isWritable = false) : Strays same (.dict row)
  /-- The row names no zone, and it cannot be written down. -/
  | unwritable {row : List (Value × Value)} (unnamed : lookup row zoneName = none)
      (long : (Value.dict row).isWritable = false) : Strays same (.dict row)
  /-- The zone can be no key. -/
  | noKey {row : List (Value × Value)} {zone : Value} (names : lookup row zoneName = some zone)
      (good : ∀ c, Good row c) (noKey : zone.isKey = false) : Strays same (.dict row)
  /-- The row has no parts: it is nothing, a truth value or a number. -/
  | plain {row : Value} (plain : parts? row = none) : Strays same row
  /-- The row is a text. -/
  | text {t : Text} (nonempty : t.points ≠ []) : Strays same (.text t)
  /-- The row is a list in which the word for a zone is an item. -/
  | named {items : List Value} {item : Value} (mem : item ∈ items)
      (zone : item.isText zoneName = true) : Strays same (.list items)
  /-- The row is a list of items that are not all keys with their values. -/
  | unpaired {items : List Value} {item : Value} (mem : item ∈ items) (odd : ¬IsPair item) :
      Strays same (.list items)
  /-- The row is a list of keys with their values, and the dictionary of them cannot be written
  down. -/
  | unwritableItems {items : List Value} {entries : List (Value × Value)}
      (unnamed : ∀ item ∈ items, item.isText zoneName = false)
      (made : pairs same 0 [] items = .ok (.dict entries))
      (long : (Value.dict entries).isWritable = false) : Strays same (.list items)

/-! ### Items as keys with their values -/

/-- Items that are keys with their values make a dictionary. -/
theorem pairs_of_all (same : Value → Value → Bool) (index : Nat) (before : List (Value × Value))
    {items : List Value} (h : ∀ item ∈ items, IsPair item) :
    ∃ entries, pairs same index before items = .ok (.dict entries) := by
  induction items generalizing index before with
  | nil => exact ⟨before, rfl⟩
  | cons item rest ih =>
    obtain ⟨⟨key, value, parts, isKey⟩, others⟩ := List.forall_mem_cons.1 h
    obtain ⟨entries, made⟩ := ih (index + 1) (Table.put same key value before) others
    refine ⟨entries, ?_⟩
    rw [pairs, parts]
    simp only [isKey, if_true]
    exact made

/-- An item that is no key with its value is at fault, and not by the data. -/
theorem pairs_of_not (same : Value → Value → Bool) (index : Nat) (before : List (Value × Value))
    {items : List Value} {item : Value} (mem : item ∈ items) (odd : ¬IsPair item) :
    ∃ f, pairs same index before items = .error f ∧ f.isData = false := by
  induction items generalizing index before with
  | nil => exact absurd mem List.not_mem_nil
  | cons first rest ih =>
    rw [pairs]
    split
    next => exact ⟨_, rfl, rfl⟩
    next key value parts =>
      split
      next isKey =>
        rcases List.mem_cons.1 mem with rfl | later
        · exact absurd ⟨key, value, parts, isKey⟩ odd
        · exact ih _ _ later
      next => exact ⟨_, rfl, rfl⟩
    next => exact ⟨_, rfl, rfl⟩

/-- A text that is not empty is no sequence of keys with their values. -/
theorem exists_odd_of_text {t : Text} (nonempty : t.points ≠ []) :
    ∃ item ∈ (parts? (.text t)).getD [], ¬IsPair item := by
  obtain ⟨c, rest, points⟩ := List.exists_cons_of_ne_nil nonempty
  refine ⟨.text (Text.ofPoint c), ?_, ?_⟩
  · simp [parts?, points]
  · rintro ⟨key, value, parts, -⟩
    cases parts

/-! ### One row -/

/-- Reads one row for its zone and its chances. -/
def readRow (same : Value → Value → Bool) (row : Value) : Reading (Value × SeasonTable) := do
  let zone ← lift (zone same row)
  let chances ← seasonTable row
  if zone.isKey then return (zone, chances) else throw (.notAKey zone)

/-- Rows are read one after the other. -/
theorem fill_cons (same : Value → Value → Bool) (t : Table SeasonTable) (row : Value)
    (rest : List Value) :
    fill same t (row :: rest) =
      readRow same row >>= fun e => fill same (t.insertBy same e.1 e.2) rest := by
  rw [fill, readRow]
  simp only [bind_assoc]
  refine bind_congr fun zone => bind_congr fun chances => ?_
  split
  · rw [pure_bind]
  · rfl

/-- Where the zone is known, the chances are read next. -/
theorem readRow_of_names {row : List (Value × Value)} {z : Value}
    (names : lookup row zoneName = some z) (same : Value → Value → Bool) :
    readRow same (.dict row) =
      seasonTable (.dict row) >>= fun chances =>
        if z.isKey then pure (z, chances) else throw (.notAKey z) := by
  have found : zone same (.dict row) = .ok z := by rw [zone, names]
  rw [readRow, found]
  rfl

/-- A row of good columns is read for its zone, if that can be a key. -/
theorem readRow_of_good {row : List (Value × Value)} {z : Value}
    (names : lookup row zoneName = some z) (good : ∀ c, Good row c) (same : Value → Value → Bool)
    (log : Array Record) :
    readRow same (.dict row) log =
      if z.isKey then
        .ok (z, SeasonTable.ofColumns (chanceOf row)) (log ++ resets row (zoneOf row) Column.all)
      else .error (.notAKey z) (log ++ resets row (zoneOf row) Column.all) := by
  rw [readRow_of_names names, Reading.bind_of_ok (seasonTable_of_good good log)]
  split
  · rfl
  · rfl

/-- A row with a bad column fails by what is said about that. -/
theorem readRow_of_bad {row : List (Value × Value)} {z : Value} {before after : List Column}
    {c : Column} (names : lookup row zoneName = some z)
    (columns : Column.all = before ++ c :: after) (good : ∀ b ∈ before, Good row b)
    (bad : ¬Good row c) (same : Value → Value → Bool) (log : Array Record) :
    ∃ f, Blames row (zoneOf row) c f ∧
      readRow same (.dict row) log = .error f (log ++ resets row (zoneOf row) before) := by
  obtain ⟨f, blamed, ends⟩ := seasonTable_of_bad columns good bad log
  refine ⟨f, blamed, ?_⟩
  rw [readRow_of_names names, Reading.bind_of_error ends]

/-- A row without a zone fails by what is said about that. -/
theorem readRow_of_error {row : Value} {same : Value → Value → Bool} {f : Fault}
    (h : zone same row = .error f) (log : Array Record) :
    readRow same row log = .error f log := by
  rw [readRow, h]
  rfl

theorem readRow_of_loads {row : Value} (h : Loads row) (same : Value → Value → Bool)
    (log : Array Record) : ∃ e log', readRow same row log = .ok e log' := by
  obtain ⟨names, good, key⟩ := h
  exact ⟨_, _, (readRow_of_good names good same log).trans (if_pos key)⟩

/-- Where a zone is looked for among items that are not all keys with their values, whether or not
it is named there. -/
theorem search_of_odd (named : Bool) (row : Value) (same : Value → Value → Bool)
    {items : List Value} {item : Value} (mem : item ∈ items) (odd : ¬IsPair item) :
    ∃ f, (if named then .error (.noColumns row)
      else do throw (.zoneMissing (← pairs same 0 [] items)) : Except Fault Value) = .error f ∧
        f.isData = false := by
  obtain ⟨f, made, stray⟩ := pairs_of_not same 0 [] mem odd
  rcases named with _ | _
  · refine ⟨f, ?_, stray⟩
    rw [made]
    rfl
  · exact ⟨_, rfl, rfl⟩

/-- A fault that cannot be put into words is not put down to the data. -/
theorem isData_of_unwritable {f : Fault} (long : f.isWritable = false) : f.isData = false := by
  rw [Fault.isData, long, Bool.and_false]

/-- A row that names no zone fails by what is said about that. -/
theorem readRow_of_unnamed {row : List (Value × Value)} (unnamed : lookup row zoneName = none)
    (same : Value → Value → Bool) (log : Array Record) :
    readRow same (.dict row) log = .error (.zoneMissing (.dict row)) log :=
  readRow_of_error (by rw [zone, unnamed]) log

/-- So does a list of keys with their values. -/
theorem readRow_of_paired {items : List Value} {entries : List (Value × Value)}
    {same : Value → Value → Bool} (unnamed : ∀ item ∈ items, item.isText zoneName = false)
    (made : pairs same 0 [] items = .ok (.dict entries)) (log : Array Record) :
    readRow same (.list items) log = .error (.zoneMissing (.dict entries)) log := by
  have nowhere : items.any (·.isText zoneName) = false :=
    List.any_eq_false.2 fun item mem => by simp [unnamed item mem]
  refine readRow_of_error ?_ log
  rw [zone, nowhere, made]
  rfl

/-- **A row that strays** fails, and not by the data. -/
theorem readRow_of_strays {row : Value} {same : Value → Value → Bool} (h : Strays same row)
    (log : Array Record) :
    ∃ f log', readRow same row log = .error f log' ∧ f.isData = false := by
  rcases h with @⟨row, _, _, _, _, c, names, columns, good, found, read⟩ |
    @⟨row, z, _, _, c, g, names, columns, good, blame, long⟩ | ⟨unnamed, long⟩ |
    @⟨row, z, names, good, noKey⟩ | ⟨plain⟩ | @⟨t, nonempty⟩ | @⟨items, item, mem, named⟩ |
    @⟨items, item, mem, odd⟩ | ⟨unnamed, made, long⟩
  · have blame : Blames row (zoneOf row) c .infiniteCell := .infinite found read
    obtain ⟨f, blamed, ends⟩ := readRow_of_bad names columns good blame.not_good same log
    obtain rfl := blamed.unique blame
    exact ⟨_, _, ends, rfl⟩
  · have zone : zoneOf row = z := by rw [zoneOf, names, Option.getD_some]
    obtain ⟨f, blamed, ends⟩ := readRow_of_bad names columns good blame.not_good same log
    obtain rfl := blamed.unique (zone ▸ blame)
    exact ⟨_, _, ends, isData_of_unwritable long⟩
  · exact ⟨_, _, readRow_of_unnamed unnamed same log, isData_of_unwritable long⟩
  · exact ⟨_, _, (readRow_of_good names good same log).trans (if_neg (by simp [noKey])), rfl⟩
  · have unsearchable : zone same row = .error (.notSearchable row) := by
      rcases row with _ | _ | _ | _ | _ | _ | _
      all_goals first | rfl | cases plain
    exact ⟨_, _, readRow_of_error unsearchable log, rfl⟩
  · obtain ⟨item, mem, odd⟩ := exists_odd_of_text nonempty
    obtain ⟨f, asked, stray⟩ := search_of_odd (t.contains zoneName) (.text t) same mem odd
    exact ⟨f, log, @readRow_of_error (.text t) same f asked log, stray⟩
  · have asked : zone same (.list items) = .error (.noColumns (.list items)) :=
      if_pos (List.any_eq_true.2 ⟨_, mem, named⟩)
    exact ⟨_, _, readRow_of_error asked log, rfl⟩
  · obtain ⟨f, asked, stray⟩ :=
      search_of_odd (items.any (·.isText zoneName)) (.list items) same mem odd
    exact ⟨f, log, @readRow_of_error (.list items) same f asked log, stray⟩
  · exact ⟨_, _, readRow_of_paired unnamed made log, isData_of_unwritable long⟩

/-- **Any other row that is not taken into the table** fails by the data. -/
theorem readRow_of_neither {row : Value} {same : Value → Value → Bool} (h : ¬Loads row)
    (h' : ¬Strays same row) (log : Array Record) :
    ∃ f log', readRow same row log = .error f log' ∧ f.isData = true := by
  rcases row with _ | _ | _ | _ | t | items | row
  · exact absurd (.plain rfl) h'
  · exact absurd (.plain rfl) h'
  · exact absurd (.plain rfl) h'
  · exact absurd (.plain rfl) h'
  · -- only the empty text is left, which is no longer than the empty dictionary
    have empty : t = ⟨[]⟩ := Decidable.byContradiction fun nonempty =>
      h' (.text fun points => nonempty (congrArg Text.mk points))
    subst empty
    have asked : zone same (.text ⟨[]⟩) = .error (.zoneMissing (.dict [])) := rfl
    exact ⟨_, _, readRow_of_error asked log, rfl⟩
  · have unnamed : ∀ item ∈ items, item.isText zoneName = false := fun item mem =>
      Bool.eq_false_iff.2 fun named => h' (.named mem named)
    have paired : ∀ item ∈ items, IsPair item := fun item mem =>
      Classical.byContradiction fun odd => h' (.unpaired mem odd)
    obtain ⟨entries, made⟩ := pairs_of_all same 0 [] paired
    have short : (Value.dict entries).isWritable = true := by
      by_contra long
      exact h' (.unwritableItems unnamed made (Bool.eq_false_iff.2 long))
    exact ⟨_, _, readRow_of_paired unnamed made log, short⟩
  · rcases names : lookup row zoneName with _ | z
    · have short : (Value.dict row).isWritable = true := by
        by_contra long
        exact h' (.unwritable names (Bool.eq_false_iff.2 long))
      exact ⟨_, _, readRow_of_unnamed names same log, short⟩
    rcases all_or_first_not (Good row) Column.all with good | ⟨before, c, after, columns, good, bad⟩
    · have every (c : Column) : Good row c := good c c.mem_all
      rcases key : z.isKey with _ | _
      · exact absurd (.noKey names every key) h'
      · exact absurd (.mk names every key) h
    · obtain ⟨f, blamed, ends⟩ := readRow_of_bad names columns good bad same log
      have zone : zoneOf row = z := by rw [zoneOf, names, Option.getD_some]
      rcases blamed.names with ⟨data, -⟩ | ⟨-, cell, found, read⟩ | ⟨long, -⟩
      · exact ⟨f, _, ends, data⟩
      · exact absurd (.infinite names columns good found read) h'
      · exact absurd (.unsaid names columns good (zone ▸ blamed) long) h'

/-! ### All rows -/

/-- A row that is taken into the table does not stray. -/
theorem Loads.not_strays {row : Value} (h : Loads row) (same : Value → Value → Bool) :
    ¬Strays same row := by
  intro h'
  obtain ⟨e, log, read⟩ := readRow_of_loads h same #[]
  obtain ⟨f, log', fails, -⟩ := readRow_of_strays h' #[]
  cases read.symm.trans fails

/-- What becomes of a row that is not taken into the table. -/
theorem readRow_of_not_loads {row : Value} (h : ¬Loads row) (same : Value → Value → Bool)
    (log : Array Record) :
    ∃ f log', readRow same row log = .error f log' ∧ (f.isData = false ↔ Strays same row) := by
  by_cases strays : Strays same row
  · obtain ⟨f, log', fails, stray⟩ := readRow_of_strays strays log
    exact ⟨f, log', fails, iff_of_true stray strays⟩
  · obtain ⟨f, log', fails, data⟩ := readRow_of_neither h strays log
    exact ⟨f, log', fails, iff_of_false (by simp [data]) strays⟩

/-- A row that is taken into the table, before others. -/
theorem fill_cons_of_loads {row : Value} (h : Loads row) (same : Value → Value → Bool)
    (t : Table SeasonTable) (rest : List Value) (log : Array Record) :
    ∃ t' log', fill same t (row :: rest) log = fill same t' rest log' := by
  obtain ⟨e, log', read⟩ := readRow_of_loads h same log
  refine ⟨t.insertBy same e.1 e.2, log', ?_⟩
  rw [fill_cons, Reading.bind_of_ok read]

/-- **Rows that are all taken into the table** fill it. -/
theorem fill_of_loads {rows : List Value} (h : ∀ row ∈ rows, Loads row)
    (same : Value → Value → Bool) (t : Table SeasonTable) (log : Array Record) :
    ∃ t' log', fill same t rows log = .ok t' log' := by
  induction rows generalizing t log with
  | nil => exact ⟨t, log, rfl⟩
  | cons row rest ih =>
    obtain ⟨first, others⟩ := List.forall_mem_cons.1 h
    obtain ⟨t', log', later⟩ := fill_cons_of_loads first same t rest log
    rw [later]
    exact ih others t' log'

/-- **The first row that is not taken into the table** decides what goes wrong. -/
theorem fill_of_first {before after : List Value} {row : Value} (h : ∀ b ∈ before, Loads b)
    (bad : ¬Loads row) (same : Value → Value → Bool) (t : Table SeasonTable) (log : Array Record) :
    ∃ f log', fill same t (before ++ row :: after) log = .error f log' ∧
      (f.isData = false ↔ Strays same row) := by
  induction before generalizing t log with
  | nil =>
    obtain ⟨f, log', fails, kind⟩ := readRow_of_not_loads bad same log
    refine ⟨f, log', ?_, kind⟩
    rw [List.nil_append, fill_cons, Reading.bind_of_error fails]
  | cons b rest ih =>
    obtain ⟨first, others⟩ := List.forall_mem_cons.1 h
    obtain ⟨t', log', later⟩ := fill_cons_of_loads first same t (rest ++ row :: after) log
    rw [List.cons_append, later]
    exact ih others t' log'

/-! ### Rows from anywhere -/

/-- **Rows are read** as they are, or from a file that holds them. What differs is which keys are
the same. -/
inductive IsReading (rows : List Value) :
    (Value → Value → Bool) → Reading (Table SeasonTable) → Prop
  | rows : IsReading rows Value.sameKey (table rows)
  | file {name : Text} {bytes : ByteArray} (holds : Json.readBytes bytes = .ok (.list rows)) :
      IsReading rows Value.sameConstant (ofFile name (some bytes))

/-- Either way they are read one after the other. -/
theorem IsReading.eq_fill {rows : List Value} {same : Value → Value → Bool}
    {read : Reading (Table SeasonTable)} (h : IsReading rows same read) :
    read = fill same .empty rows := by
  cases h with
  | rows => rfl
  | file holds =>
    rw [ofFile, holds]
    rfl

/-- **When rows are read, and when it is the data that are bad**: the rows are read if all of them
are taken into the table; and else it is the data that are bad, unless the first row that is not
taken strays. -/
theorem table_faults {rows : List Value} {same : Value → Value → Bool}
    {read : Reading (Table SeasonTable)} (h : IsReading rows same read) (log : Array Record) :
    ((∃ t log', read log = .ok t log') ↔ ∀ row ∈ rows, Loads row) ∧
      (((∃ t log', read log = .ok t log') ∨
          ∃ f log', read log = .error f log' ∧ f.isData = true) ↔
        ¬∃ before row after, rows = before ++ row :: after ∧ (∀ b ∈ before, Loads b) ∧
          Strays same row) := by
  obtain rfl := h.eq_fill
  have split := all_or_first_not Loads rows
  constructor
  · refine ⟨?_, fun all => fill_of_loads all same .empty log⟩
    rintro ⟨t, log', made⟩
    rcases split with all | ⟨before, row, after, rfl, good, bad⟩
    · exact all
    · obtain ⟨f, log'', fails, -⟩ := fill_of_first good bad same .empty log
      cases made.symm.trans fails
  constructor
  · rintro fine ⟨before, row, after, rfl, good, strays⟩
    have bad : ¬Loads row := fun loads => loads.not_strays same strays
    obtain ⟨f, log', fails, kind⟩ := fill_of_first good bad same .empty log
    rcases fine with ⟨t, log'', made⟩ | ⟨g, log'', fails', data⟩
    · cases made.symm.trans fails
    · obtain ⟨rfl, -⟩ := EStateM.Result.error.inj (fails'.symm.trans fails)
      simp [kind.2 strays] at data
  · intro none
    rcases split with all | ⟨before, row, after, rfl, good, bad⟩
    · exact .inl (fill_of_loads all same .empty log)
    · obtain ⟨f, log', fails, kind⟩ := fill_of_first good bad same .empty log
      have tame : ¬Strays same row := fun strays => none ⟨before, row, after, rfl, good, strays⟩
      exact .inr ⟨f, log', fails, by simpa using mt kind.1 tame⟩

/-- A row with an infinite chance of rain in spring. -/
def boundless : Value :=
  .dict [(.text zoneName, .int 1),
    (.text (Column.mk .spring .rain).name, .float (1.0 / 0.0))]

/-- The row strays: it is not read, and it is not the data that are found to be bad. -/
theorem table_faults_boundless :
    Strays Value.sameKey boundless ∧ table [boundless] #[] = .error .infiniteCell #[] ∧
      ¬((∃ t log', table [boundless] #[] = .ok t log') ∨
        ∃ f log', table [boundless] #[] = .error f log' ∧ f.isData = true) := by
  have infinite : (Value.float (1.0 / 0.0)).whole = .infinite := by decide +kernel
  have strays : Strays Value.sameKey boundless :=
    @Strays.infinite _ _ (.int 1) _ [] _ ⟨.spring, .rain⟩ rfl rfl
      (fun _ mem => absurd mem List.not_mem_nil) rfl infinite
  refine ⟨strays, rfl, fun fine => (table_faults .rows #[]).2.1 fine ?_⟩
  exact ⟨[], boundless, [], rfl, fun _ mem => absurd mem List.not_mem_nil, strays⟩

end Rows

end Microclimate
