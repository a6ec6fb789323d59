import Mathlib
import Microclimate.Proofs.Filling
import Microclimate.Proofs.StrayRows

/-!
# The last row for a zone counts

A table of zones is filled row by row, and nothing forbids two rows for the same zone. The chances
are then those of the last one, but the zone stands where the first one put it, and is spelt as
there: if the first row says 1 and the last one says 1.0, the chances of the last are found under
the key of the first. Where all rows can be read, this is all there is to a table. In particular
rows can be read in two portions, and where no zone comes up twice, their order is of no account to
anybody who looks something up.

* `Microclimate.Rows.Fit` – a row that can be read, for a zone that is the same as itself;
* `Microclimate.Rows.table_of_fit` – **fit rows fill a table with their zones and chances**;
* `Microclimate.Rows.table_lastRow` – **which chances are found under a zone, in which order the
  zones stand, and what portions and permutations of rows come to.**
-/

namespace Microclimate

namespace Rows

/-- A row: columns with their cells. -/
abbrev Row := List (Value × Value)

/-- **A row is fit** if it names a zone that can be a key and is the same as itself, and its columns
are good. -/
structure Fit (row : Row) : Prop where
  /-- A zone is named. -/
  named : (lookup row zoneName).isSome = true
  /-- The zone can be a key. -/
  key : (zoneOf row).isKey = true
  /-- The zone is not the value that is no number. -/
  defined : (zoneOf row).key? ≠ some .undefined
  /-- The columns are good. -/
  good : ∀ c, Good row c

/-- The zone and the chances of a row. -/
def entry (row : Row) : Value × SeasonTable :=
  (zoneOf row, SeasonTable.ofColumns (chanceOf row))

/-- A row on its own gives some chances. -/
def Gave (row : Row) (chances : SeasonTable) : Prop :=
  ∃ log, seasonTable (.dict row) #[] = .ok chances log

theorem Fit.self {row : Row} (h : Fit row) :
    (zoneOf row).sameKey (zoneOf row) = true := Value.sameKey_self h.key h.defined

theorem Fit.gave_iff {row : Row} (h : Fit row) {chances : SeasonTable} :
    Gave row chances ↔ (entry row).2 = chances := by
  have read := seasonTable_of_good h.good #[]
  constructor
  · rintro ⟨log, read'⟩
    exact (EStateM.Result.ok.inj (read.symm.trans read')).1
  · rintro rfl
    exact ⟨_, read⟩

/-- **A fit row is read** for its zone and its chances, with its records. -/
theorem readRow_of_fit {row : Row} (h : Fit row) (log : Array Record) :
    readRow Value.sameKey (.dict row) log =
      .ok (entry row) (log ++ resets row (zoneOf row) Column.all) := by
  obtain ⟨zone, names⟩ := Option.isSome_iff_exists.1 h.named
  have same : zoneOf row = zone := by rw [zoneOf, names, Option.getD_some]
  rw [readRow_of_good names h.good, if_pos (same ▸ h.key), entry, same]

/-- **Fit rows fill a table** with their zones and chances. -/
theorem fill_of_fit {rows : List Row} (h : ∀ row ∈ rows, Fit row)
    (t : Table SeasonTable) (log : Array Record) :
    ∃ log', fill Value.sameKey t (rows.map .dict) log =
      .ok (t.insertAll (rows.map entry)) log' := by
  induction rows generalizing t log with
  | nil => exact ⟨log, rfl⟩
  | cons row rest ih =>
    obtain ⟨first, others⟩ := List.forall_mem_cons.1 h
    rw [List.map_cons, fill_cons, Reading.bind_of_ok (readRow_of_fit first log)]
    exact ih others _ _

theorem table_of_fit {rows : List Row} (h : ∀ row ∈ rows, Fit row)
    (log : Array Record) :
    ∃ log', table (rows.map .dict) log = .ok (Table.ofList (rows.map entry)) log' :=
  fill_of_fit h .empty log

/-- The rows are for different zones. -/
def Separate (rows : List Row) : Prop :=
  rows.Pairwise fun row row' => (zoneOf row).sameKey (zoneOf row') = false

/-- The entries of rows for different zones have different keys. -/
theorem Separate.distinct {rows : List Row} (h : Separate rows) :
    (⟨rows.map entry⟩ : Table SeasonTable).Distinct := List.pairwise_map.2 h

/-- **Of several rows for a zone the last one counts, at the place of the first.** Rows that are fit
make a table. Under a zone stand the chances of the last row for it, and the zones stand in the
order in which they come up first. Rows may be read in two portions, the second one being written
into the table of the first; and the order of rows for different zones is the order of the zones and
nothing else. -/
theorem table_lastRow {rows : List Row} (h : ∀ row ∈ rows, Fit row)
    (log : Array Record) :
    ∃ t log', table (rows.map .dict) log = .ok t log' ∧
      (∀ z chances, t.find? z = some chances ↔ ∃ before row after, rows = before ++ row :: after ∧
        (zoneOf row).sameKey z = true ∧ Gave row chances ∧
        ∀ later ∈ after, (zoneOf later).sameKey z = false) ∧
      (∀ z, t.find? z = none ↔ ∀ row ∈ rows, (zoneOf row).sameKey z = false) ∧
      t.keys = Value.firsts (rows.map zoneOf) ∧
      (∀ a b, rows = a ++ b → ∃ ta tb la lb, table (a.map .dict) log = .ok ta la ∧
        table (b.map .dict) log = .ok tb lb ∧ t = ta.update tb) ∧
      ∀ rows' : List Row, rows'.Perm rows → Separate rows →
        ∃ t' log'', table (rows'.map .dict) log = .ok t' log'' ∧ t'.keys = rows'.map zoneOf ∧
          t'.entries.Perm t.entries ∧ ∀ z, t'.find? z = t.find? z := by
  -- what is left to say is about the table of a list
  obtain ⟨log', read⟩ := table_of_fit h log
  refine ⟨_, log', read, ?_, ?_, ?_, ?_, ?_⟩
  · intro z chances
    rw [Table.find?_ofList_eq_some]
    constructor
    · rintro ⟨_, k, _, split, same, apart⟩
      obtain ⟨before, others, rfl, rfl, tail⟩ := List.map_eq_append_iff.1 split
      obtain ⟨row, after, rfl, made, rfl⟩ := List.map_eq_cons_iff.1 tail
      obtain ⟨rfl, rfl⟩ := Prod.mk.inj made
      have fit := h row (by simp)
      exact ⟨before, row, after, rfl, same, fit.gave_iff.2 rfl, List.forall_mem_map.1 apart⟩
    · rintro ⟨before, row, after, rfl, same, gave, apart⟩
      have fit := h row (by simp)
      obtain rfl := fit.gave_iff.1 gave
      exact ⟨before.map entry, zoneOf row, after.map entry, by rw [List.map_append]; rfl, same,
        List.forall_mem_map.2 apart⟩
  · intro z
    rw [Table.find?_ofList_eq_none, List.forall_mem_map]
    rfl
  · rw [Table.keys_ofList, List.map_map]
    rfl
  · rintro a b rfl
    obtain ⟨first, second⟩ := List.forall_mem_append.1 h
    obtain ⟨la, readA⟩ := table_of_fit first log
    obtain ⟨lb, readB⟩ := table_of_fit second log
    refine ⟨_, _, la, lb, readA, readB, ?_⟩
    rw [List.map_append]
    exact Table.ofList_append (List.forall_mem_map.2 fun row mem => (first row mem).self)
      (List.forall_mem_map.2 fun row mem => (second row mem).self)
  · intro rows' perm separate
    obtain ⟨log'', read'⟩ := table_of_fit (fun row mem => h row (perm.mem_iff.1 mem)) log
    -- nothing is written twice, so the tables hold the rows as they come
    have moved : (rows'.map entry).Perm (rows.map entry) := perm.map entry
    have distinct := separate.distinct
    have kept : Table.ofList (rows.map entry) = ⟨rows.map entry⟩ := distinct.ofList_entries
    have kept' : Table.ofList (rows'.map entry) = ⟨rows'.map entry⟩ :=
      (distinct.of_perm moved).ofList_entries
    rw [kept] at read ⊢
    rw [kept'] at read'
    refine ⟨_, log'', read', ?_, moved, distinct.find?_of_perm moved⟩
    rw [Table.keys, List.map_map]
    rfl

/-- A row for a zone that has the same chance in all columns. -/
def even (zone : Value) (n : Int) : Row :=
  (.text zoneName, zone) :: Column.all.map fun c => (.text c.name, .int n)

/-- Two rows for one zone, spelt 1 and 1.0, with a row for another zone between them. -/
def respelt : List Row := [even (.int 1) 10, even (.text "b") 20, even (.float 1.0) 30]

/-- The chances of the last row are found where the first one put the zone, however it is spelt. -/
theorem table_lastRow_respelt :
    ∃ t log, table (respelt.map .dict) #[] = .ok t log ∧ t.keys = [.int 1, .text "b"] ∧
      t.find? (.int 1) = some (SeasonTable.ofColumns fun _ => 30) ∧
      t.find? (.bool true) = some (SeasonTable.ofColumns fun _ => 30) ∧
      t.find? (.int 2) = none := by
  have named : ∀ row ∈ respelt, (lookup row zoneName).isSome = true := by decide +kernel
  have key : ∀ row ∈ respelt, (zoneOf row).isKey = true := by decide +kernel
  have defined : ∀ row ∈ respelt, (zoneOf row).key? ≠ some .undefined := by decide +kernel
  have numbers : ∀ row ∈ respelt, ∀ c ∈ Column.all, (number? row c).any (0 ≤ ·) = true := by
    decide +kernel
  have fit (row : Row) (mem : row ∈ respelt) : Fit row :=
    ⟨named row mem, key row mem, defined row mem, fun c => by
      simpa [Good, Option.any_eq_true] using numbers row mem c c.mem_all⟩
  obtain ⟨t, log, read, last, missing, keys, -⟩ := table_lastRow fit #[]
  have chances : Gave (even (.float 1.0) 30) (SeasonTable.ofColumns fun _ => 30) :=
    (fit _ (by simp [respelt])).gave_iff.2 (by decide +kernel)
  have found (z : Value) (same : (zoneOf (even (.float 1.0) 30)).sameKey z = true) :
      t.find? z = some (SeasonTable.ofColumns fun _ => 30) :=
    (last z _).2 ⟨[even (.int 1) 10, even (.text "b") 20], _, [], rfl, same, chances,
      fun _ mem => absurd mem List.not_mem_nil⟩
  have again : (Value.int 1).sameKey (.float 1.0) = true := by decide +kernel
  have apart : (Value.int 1).sameKey (.text "b") = false := by decide +kernel
  have other : (Value.text "b").sameKey (.float 1.0) = false := by decide +kernel
  have zones : Value.firsts (respelt.map zoneOf) = [.int 1, .text "b"] := by
    change Value.firsts [.int 1, .text "b", .float 1.0] = _
    simp [Value.firsts, again, apart, other]
  refine ⟨t, log, read, keys.trans zones, found _ (by decide +kernel), found _ (by decide +kernel),
    (missing _).2 (by decide +kernel)⟩

end Rows

end Microclimate
