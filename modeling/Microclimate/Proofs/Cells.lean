import Mathlib
import Microclimate.Proofs.Columns

/-!
# Fractions go unseen

What is in a cell is taken for an integer first, and only that integer is looked at afterwards. So a
cell may be exchanged for any other one with the same integer, and nobody will notice. That is no
harm where the same integer is written in another way. But a number with a fraction is taken for an
integer too, **the one without the fraction**, and so the chance that is read need not be the one
that was written: a little less than nothing passes for nothing, a little more than a hundred for a
hundred, and every other fraction is dropped without a word.

* `Microclimate.Rows.withCell`, `Microclimate.Rows.seasonTable_withCell` – **a cell may be exchanged
  for another one of the same integer**;
* `Microclimate.truncate_neg_iff`, `Microclimate.lt_truncate_iff` – where a number without its
  fraction lies;
* `Microclimate.Rows.AsWritten` – a chance is the number that was written;
* `Microclimate.Rows.seasonTable_fractions` – **which rows of numbers are read, and which chances
  are the numbers that were written.**
-/

namespace Microclimate

/-! ### Numbers without their fraction -/

section Truncate

variable {q : ℚ}

/-- Only what is below zero by one at least stays below zero. -/
theorem truncate_neg_iff : truncate q < 0 ↔ q ≤ -1 := by
  rw [truncate]
  split
  next below =>
    have ceil : q.ceil < 0 ↔ q ≤ ((-1 : ℤ) : ℚ) := Int.lt_iff_add_one_le.trans (by
      rw [← Rat.ceil_le_iff]
      omega)
    rw [ceil]
    norm_num
  next least =>
    have whole : ¬q.floor < 0 := by
      rw [Int.not_lt, Rat.le_floor_iff]
      simpa using least
    refine iff_of_false whole fun most => least ?_
    linarith

/-- A bound that is whole and not negative is exceeded by one at least, if it is exceeded without
the fraction. -/
theorem lt_truncate_iff {n : ℕ} : (n : ℤ) < truncate q ↔ (n : ℚ) + 1 ≤ q := by
  rw [truncate]
  split
  next below =>
    have positive : (0 : ℚ) ≤ n := n.cast_nonneg
    refine iff_of_false ?_ fun most => by linarith
    rw [Int.not_lt, Rat.ceil_le_iff]
    push_cast
    linarith
  next least =>
    rw [Int.lt_iff_add_one_le, Rat.le_floor_iff]
    push_cast
    rfl

theorem truncate_intCast (n : ℤ) : truncate n = n := by
  rw [truncate, Rat.ceil_intCast, Rat.floor_intCast, ite_self]

/-- A number is the same without its fraction just if it has none. -/
theorem cast_truncate_eq_iff : (truncate q : ℚ) = q ↔ ∃ n : ℤ, q = n :=
  ⟨fun same => ⟨_, same.symm⟩, by
    rintro ⟨n, rfl⟩
    rw [truncate_intCast]⟩

end Truncate

/-- The number in a cell: a truth value counts as zero or one, and an infinity is no number. -/
def Value.amount? : Value → Option ℚ
  | .bool b => some (if b then 1 else 0)
  | .int n => some n
  | .float x =>
    match Exact.ofFloat x with
    | .real q => some q
    | _ => none
  | _ => none

/-- **A number is taken for the integer without its fraction.** -/
theorem Value.whole_of_amount {v : Value} {q : ℚ} (h : v.amount? = some q) :
    v.whole = .number (truncate q) := by
  rcases v with _ | b | n | x | _ | _ | _
  · cases h
  · rcases b with _ | _ <;> cases h <;> rfl
  · cases h
    rw [whole, truncate_intCast]
  · rw [whole]
    rw [amount?] at h
    split at h
    next exact =>
      cases h
      rw [exact]
    next => cases h
  · cases h
  · cases h
  · cases h

namespace Rows

variable {row : List (Value × Value)} {c : Column}

/-! ### Cells that are exchanged -/

/-- A row with another cell in a column. -/
def withCell (row : List (Value × Value)) (c : Column) (cell : Value) : List (Value × Value) :=
  Table.put Value.sameKey (.text c.name) cell row

theorem lookup_withCell (row : List (Value × Value)) (c : Column) (cell : Value) (name : Text) :
    lookup (withCell row c cell) name = if c.name = name then some cell else lookup row name := by
  change ((⟨row⟩ : Table Value).insert (.text c.name) cell).find? (.text name) = _
  simp only [Table.find?_insert, Value.sameKey_text, Value.text.injEq]
  rfl

/-- No column is the one of the zone. -/
theorem name_ne_zoneName (c : Column) : c.name ≠ zoneName := by
  have all : ∀ c ∈ Column.all, c.name ≠ zoneName := by decide
  exact all c c.mem_all

theorem zoneOf_withCell (row : List (Value × Value)) (c : Column) (cell : Value) :
    zoneOf (withCell row c cell) = zoneOf row := by
  rw [zoneOf, lookup_withCell, if_neg (name_ne_zoneName c), zoneOf]

/-- All that is seen of a row is what becomes of its columns. -/
theorem seasonTable_congr {row row' : List (Value × Value)} (zone : zoneOf row' = zoneOf row)
    (same : ∀ c, chance row' (zoneOf row) c = chance row (zoneOf row) c) :
    seasonTable (.dict row') = seasonTable (.dict row) := by
  have seasons (s : Season) : season row' (zoneOf row) s = season row (zoneOf row) s := by
    simp only [season, same]
  have read (row : List (Value × Value)) : seasonTable (.dict row) = do
      let spring ← season row (zoneOf row) .spring
      let summer ← season row (zoneOf row) .summer
      let fall ← season row (zoneOf row) .fall
      let winter ← season row (zoneOf row) .winter
      return (⟨spring, summer, fall, winter⟩ : SeasonTable) := rfl
  rw [read, read, zone]
  simp only [seasons]

/-- **A cell may be exchanged for another one of the same integer**: the row is read as before, to
the last record and the last word of a complaint. -/
theorem seasonTable_withCell {cell cell' : Value} {n : ℤ} (found : lookup row c.name = some cell)
    (read : cell.whole = .number n) (read' : cell'.whole = .number n) :
    seasonTable (.dict (withCell row c cell')) = seasonTable (.dict row) := by
  refine seasonTable_congr (zoneOf_withCell row c cell') fun d => ?_
  rw [chance, chance, lookup_withCell]
  by_cases here : c.name = d.name
  · rw [if_pos here, ← here, found]
    simp only [read, read']
  · rw [if_neg here]

/-! ### Numbers in cells -/

/-- The number in a column of a row, if there is one. -/
def amount? (row : List (Value × Value)) (c : Column) : Option ℚ :=
  (lookup row c.name).bind Value.amount?

/-- **A chance is the number that was written.** A number above a hundred is reset, every other one
is kept. -/
structure AsWritten (q : ℚ) (chance : ℤ) : Prop where
  /-- The number is not negative. -/
  least : 0 ≤ q
  /-- A number above a hundred is reset. -/
  reset : 100 < q → chance = 25
  /-- Every other number is the chance. -/
  kept : q ≤ 100 → (chance : ℚ) = q

/-- The chance that comes of a number is the one that was written if there is no fraction to lose,
or if the number is above a hundred even without it. -/
theorem asWritten_iff {q : ℚ} (above : -1 < q) :
    AsWritten q (if q < 101 then truncate q else 25) ↔ (∃ n : ℤ, q = n) ∨ 101 ≤ q := by
  rcases lt_or_ge q 101 with small | large
  · rw [if_pos small]
    constructor
    · rintro ⟨-, reset, kept⟩
      rcases le_or_gt q 100 with most | above'
      · exact .inl (cast_truncate_eq_iff.1 (kept most))
      · -- between a hundred and a hundred and one the number is not reset
        have hundred : (24 : ℕ) < truncate q ∧ (99 : ℕ) < truncate q := by
          rw [lt_truncate_iff, lt_truncate_iff]
          norm_num
          constructor <;> linarith
        have := reset above'
        omega
    · rintro (⟨n, rfl⟩ | large)
      · have least : -1 < n := by exact_mod_cast above
        have most : n < 101 := by exact_mod_cast small
        rw [truncate_intCast]
        refine ⟨by exact_mod_cast Int.lt_iff_add_one_le.1 least, fun large => ?_, fun _ => rfl⟩
        have : 100 < n := by exact_mod_cast large
        omega
      · exact absurd large (not_le.2 small)
  · rw [if_neg (not_lt.2 large)]
    refine iff_of_true ⟨?_, fun _ => rfl, fun most => ?_⟩ (.inr large)
    · linarith
    · linarith

section Amount

variable {q : ℚ} (h : amount? row c = some q)

include h

theorem number?_of_amount : number? row c = some (truncate q) := by
  obtain ⟨cell, found, amount⟩ := Option.bind_eq_some_iff.1 h
  exact (number?_eq_some found _).2 (Value.whole_of_amount amount)

/-- **A number makes a good column** unless it is below zero by one at least. -/
theorem good_iff_of_amount : Good row c ↔ -1 < q := by
  have known := number?_of_amount h
  rw [← not_le, ← truncate_neg_iff, not_lt]
  constructor
  · rintro ⟨n, known', least⟩
    rw [known, Option.some.injEq] at known'
    rwa [known']
  · exact fun least => ⟨_, known, least⟩

theorem chanceOf_of_amount : chanceOf row c = if q < 101 then truncate q else 25 := by
  have reset : 100 < truncate q ↔ 101 ≤ q := by
    have bound := @lt_truncate_iff q 100
    norm_num at bound
    exact bound
  rw [chanceOf, number?_of_amount h, Option.getD_some, chanceFor]
  rcases lt_or_ge q 101 with small | large
  · rw [if_pos small, if_pos (Int.not_lt.1 fun most => absurd (reset.1 most) (not_le.2 small))]
  · rw [if_neg (not_lt.2 large), if_neg (Int.not_le.2 (reset.2 large))]
    rfl

/-- The fraction of a number may be dropped before the row is read. -/
theorem seasonTable_of_whole :
    seasonTable (.dict (withCell row c (.int (truncate q)))) = seasonTable (.dict row) := by
  obtain ⟨cell, found, amount⟩ := Option.bind_eq_some_iff.1 h
  exact seasonTable_withCell found (Value.whole_of_amount amount) rfl

end Amount

/-- A row with a bad column is refused, and it is the data that are bad unless there is an infinity
in a column, or the row is too long to be complained about. -/
theorem refused_of_not_good (bad : ¬Good row c) (log : Array Record) :
    ∃ f log', seasonTable (.dict row) log = .error f log' ∧
      (f.isData = true ∨
        (f = .infiniteCell ∧
          ∃ b cell, lookup row (Column.name b) = some cell ∧ cell.whole = .infinite) ∨
        f.isWritable = false ∧ (Value.dict row).isWritable = false) := by
  rcases all_or_first_not (Good row) Column.all with good | ⟨before, b, after, columns, good, bad'⟩
  · exact absurd (good c c.mem_all) bad
  · obtain ⟨f, blamed, ends⟩ := seasonTable_of_bad columns good bad' log
    refine ⟨f, _, ends, ?_⟩
    rcases blamed.names with ⟨data, -⟩ | ⟨rfl, cell, found, read⟩ | long
    · exact .inl data
    · exact .inr (.inl ⟨rfl, b, cell, found, read⟩)
    · exact .inr (.inr long)

/-- **What becomes of the numbers in a row.** A number that is read has lost its fraction, and
unless it is 101 at least, the chance is the number that was written just if there was no fraction
to lose. A number is refused from minus one downward, and it is said that the data are bad unless
there is an infinity in a column or **what is to be said has an integer of too many digits in it**.
Whatever else becomes of a row would become of it without the fraction, and a row of numbers is read
if all of them are above minus one. -/
theorem seasonTable_fractions (row : List (Value × Value)) (log : Array Record) :
    (∀ t log', seasonTable (.dict row) log = .ok t log' → ∀ c q, amount? row c = some q →
      -1 < q ∧ t.at c = (if q < 101 then truncate q else 25) ∧
        (AsWritten q (t.at c) ↔ (∃ n : ℤ, q = n) ∨ 101 ≤ q)) ∧
      (∀ c q, amount? row c = some q → q ≤ -1 →
        ∃ f log', seasonTable (.dict row) log = .error f log' ∧
          (f.isData = true ∨
            (f = .infiniteCell ∧
              ∃ b cell, lookup row (Column.name b) = some cell ∧ cell.whole = .infinite) ∨
            f.isWritable = false ∧ (Value.dict row).isWritable = false)) ∧
      (∀ c q, amount? row c = some q →
        seasonTable (.dict (withCell row c (.int (truncate q)))) = seasonTable (.dict row)) ∧
      ((∀ c, ∃ q, amount? row c = some q) →
        ((∃ t log', seasonTable (.dict row) log = .ok t log') ↔
          ∀ c q, amount? row c = some q → -1 < q)) := by
  refine ⟨?_, ?_, fun c q h => seasonTable_of_whole h, ?_⟩
  · intro t log' read c q h
    have good := good_of_seasonTable read
    have above := (good_iff_of_amount h).1 (good c)
    obtain ⟨rfl, -⟩ := EStateM.Result.ok.inj (read.symm.trans (seasonTable_of_good good log))
    rw [SeasonTable.at_ofColumns, chanceOf_of_amount h]
    exact ⟨above, rfl, asWritten_iff above⟩
  · intro c q h below
    exact refused_of_not_good (mt (good_iff_of_amount h).1 (not_lt.2 below)) log
  · intro numbers
    constructor
    · rintro ⟨t, log', read⟩ c q h
      exact (good_iff_of_amount h).1 (good_of_seasonTable read c)
    · intro above
      have good (c : Column) : Good row c := by
        obtain ⟨q, h⟩ := numbers c
        exact (good_iff_of_amount h).2 (above c q h)
      exact ⟨_, _, seasonTable_of_good good log⟩

/-- A row with a chance of rain in spring of a half below zero, one of snow of a half above a
hundred, and one of a storm of a half. -/
def halves : List (Value × Value) :=
  (.text zoneName, .int 1) :: Column.all.map fun c =>
    (.text c.name,
      if c = ⟨.spring, .rain⟩ then .float (-0.5)
      else if c = ⟨.spring, .snow⟩ then .float 100.5
      else if c = ⟨.spring, .storm⟩ then .float 0.5
      else .int 30)

/-- The row is read, without a record; and none of the three chances is the number written. -/
theorem seasonTable_fractions_halves :
    seasonTable (.dict halves) #[] =
        .ok ⟨⟨0, 100, 0⟩, ⟨30, 30, 30⟩, ⟨30, 30, 30⟩, ⟨30, 30, 30⟩⟩ #[] ∧
      amount? halves ⟨.spring, .rain⟩ = some (-1 / 2) ∧ ¬AsWritten (-1 / 2) 0 ∧
      amount? halves ⟨.spring, .snow⟩ = some (201 / 2) ∧ ¬AsWritten (201 / 2) 100 ∧
      amount? halves ⟨.spring, .storm⟩ = some (1 / 2) ∧ ¬AsWritten (1 / 2) 0 := by
  have numbers : ∀ c ∈ Column.all, number? halves c =
      some (if c = ⟨.spring, .snow⟩ then 100 else if c.season = .spring then 0 else 30) := by
    decide +kernel
  have good (c : Column) : Good halves c :=
    ⟨_, numbers c c.mem_all, by split_ifs <;> decide⟩
  have chances : SeasonTable.ofColumns (chanceOf halves) =
      ⟨⟨0, 100, 0⟩, ⟨30, 30, 30⟩, ⟨30, 30, 30⟩, ⟨30, 30, 30⟩⟩ := by decide +kernel
  have quiet : Column.all.filter (isOver halves) = [] := by decide +kernel
  have read : seasonTable (.dict halves) #[] =
      .ok ⟨⟨0, 100, 0⟩, ⟨30, 30, 30⟩, ⟨30, 30, 30⟩, ⟨30, 30, 30⟩⟩ #[] := by
    rw [seasonTable_of_good good, chances, resets, quiet]
    rfl
  have rain : amount? halves ⟨.spring, .rain⟩ = some (-1 / 2) := by decide +kernel
  have snow : amount? halves ⟨.spring, .snow⟩ = some (201 / 2) := by decide +kernel
  have storm : amount? halves ⟨.spring, .storm⟩ = some (1 / 2) := by decide +kernel
  have written := (seasonTable_fractions halves #[]).1 _ _ read
  have whole (q : ℚ) (fraction : (truncate q : ℚ) ≠ q) (small : q < 101) :
      ¬((∃ n : ℤ, q = n) ∨ 101 ≤ q) := by
    rw [← cast_truncate_eq_iff]
    exact not_or.2 ⟨fraction, not_le.2 small⟩
  refine ⟨read, rain, mt (written _ _ rain).2.2.1 ?_, snow, mt (written _ _ snow).2.2.1 ?_, storm,
    mt (written _ _ storm).2.2.1 ?_⟩
  all_goals exact whole _ (by decide +kernel) (by norm_num)

end Rows

end Microclimate
