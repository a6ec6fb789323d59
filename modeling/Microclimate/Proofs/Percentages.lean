import Microclimate.Rows

/-!
# Chances that are read are percentages

The chances of a zone are not checked when they are made by hand. Those that are read from a row
are: a chance below zero is refused, and one above a hundred is reset to another chance. So whatever
is read, be it from one row, from many or from a file, holds nothing but percentages.

* `Microclimate.Rows.Gives` – whatever is read without a fault has some property;
* `Microclimate.Rows.chance_percent`, `Microclimate.Rows.seasonTable_percent`,
  `Microclimate.Rows.fill_percent` – a column, a row and all rows;
* `Microclimate.SeasonTable.IsRead.arePercent` – **what is read holds nothing but percentages.**
-/

namespace Microclimate

/-- A chance is a percentage. -/
def IsPercent (n : Int) : Prop := 0 ≤ n ∧ n ≤ 100

/-- All chances of a season are percentages. -/
structure Chances.ArePercent (c : Chances) : Prop where
  rain : IsPercent c.rain
  snow : IsPercent c.snow
  storm : IsPercent c.storm

/-- The chances of all seasons are percentages. -/
def SeasonTable.ArePercent (t : SeasonTable) : Prop := ∀ s, (t.chances s).ArePercent

namespace Rows

/-! ### What a reading gives -/

/-- Whatever is read has some property, if nothing is at fault. -/
def Gives {α : Type} (x : Reading α) (P : α → Prop) : Prop :=
  ∀ ⦃log a log'⦄, x log = .ok a log' → P a

namespace Gives

variable {α β : Type} {P : α → Prop} {Q : β → Prop}

theorem pure {a : α} (h : P a) : Gives (pure a) P := by
  rintro log _ _ ⟨⟩
  exact h

theorem throw (f : Fault) : Gives (throw f) P := nofun

theorem any (x : Reading α) : Gives x fun _ => True := fun _ _ _ _ => trivial

theorem bind {x : Reading α} {f : α → Reading β} (hx : Gives x P)
    (hf : ∀ a, P a → Gives (f a) Q) : Gives (x >>= f) Q := by
  intro log b log' run
  change EStateM.bind x f log = .ok b log' at run
  rw [EStateM.bind] at run
  cases first : x log with
  | ok a middle =>
    rw [first] at run
    exact hf a (hx first) run
  | error fault middle =>
    rw [first] at run
    cases run

end Gives

/-! ### Reading -/

/-- **A chance that is read is a percentage**: what is below zero is refused, and what is above a
hundred is reset. -/
theorem chance_percent (row : List (Value × Value)) (zone : Value) (column : Column) :
    Gives (chance row zone column) IsPercent := by
  unfold chance
  split
  next => exact .throw _
  next cell _ =>
    split
    next => exact .throw _
    next => exact .throw _
    next n _ =>
      split
      next => exact .throw _
      next least =>
        split
        next => exact .bind (.any _) fun _ _ => .pure ⟨by decide, by decide⟩
        next most => exact .pure ⟨Int.not_lt.1 least, Int.not_lt.1 most⟩

theorem season_percent (row : List (Value × Value)) (zone : Value) (s : Season) :
    Gives (season row zone s) Chances.ArePercent :=
  .bind (chance_percent _ _ _) fun _ rain =>
    .bind (chance_percent _ _ _) fun _ snow =>
      .bind (chance_percent _ _ _) fun _ storm => .pure ⟨rain, snow, storm⟩

/-- **All chances that are read from a row are percentages.** -/
theorem seasonTable_percent (row : Value) : Gives (seasonTable row) SeasonTable.ArePercent := by
  cases row with
  | dict row =>
    refine .bind (season_percent _ _ _) fun _ spring => ?_
    refine .bind (season_percent _ _ _) fun _ summer => ?_
    refine .bind (season_percent _ _ _) fun _ fall => ?_
    refine .bind (season_percent _ _ _) fun _ winter => .pure fun s => ?_
    cases s with
    | spring => exact spring
    | summer => exact summer
    | fall => exact fall
    | winter => exact winter
  | _ => exact .throw _

/-- All chances in a table are percentages. -/
def AllPercent (t : Table SeasonTable) : Prop := ∀ e ∈ t.entries, e.2.ArePercent

theorem allPercent_empty : AllPercent .empty := fun _ mem => absurd mem List.not_mem_nil

/-- Whatever keys are taken for the same, writing adds one value at most. -/
theorem AllPercent.insertBy {t : Table SeasonTable} (h : AllPercent t) {st : SeasonTable}
    (new : st.ArePercent) (same : Value → Value → Bool) (key : Value) :
    AllPercent (t.insertBy same key st) := by
  obtain ⟨entries⟩ := t
  simp only [AllPercent, Table.insertBy] at h ⊢
  induction entries with
  | nil => simpa [Table.put] using new
  | cons e rest ih =>
    obtain ⟨first, others⟩ := List.forall_mem_cons.1 h
    rw [Table.put]
    split
    · exact List.forall_mem_cons.2 ⟨new, others⟩
    · exact List.forall_mem_cons.2 ⟨first, ih others⟩

/-- **Reading rows into a table** keeps to percentages, row by row. -/
theorem fill_percent (same : Value → Value → Bool) {t : Table SeasonTable} (h : AllPercent t)
    (rows : List Value) : Gives (fill same t rows) AllPercent := by
  induction rows generalizing t with
  | nil => exact .pure h
  | cons row rest ih =>
    refine .bind (.any _) fun zone _ => .bind (seasonTable_percent row) fun st new => ?_
    split
    · exact ih (h.insertBy new same zone)
    · exact .throw _

theorem table_percent (rows : List Value) : Gives (table rows) AllPercent :=
  fill_percent _ allPercent_empty rows

theorem ofFile_percent (name : Text) (file : Option ByteArray) :
    Gives (ofFile name file) AllPercent := by
  cases file with
  | none => exact .throw _
  | some bytes =>
    refine .bind (.any _) fun content _ => ?_
    split
    · exact fill_percent _ allPercent_empty _
    · exact .throw _

end Rows

/-- **Chances that were read**: from a row, or for a zone from many rows or from a file. -/
inductive SeasonTable.IsRead (st : SeasonTable) : Prop
  | row {row : Value} {log log' : Array Record} (read : Rows.seasonTable row log = .ok st log')
  | rows {rows : List Value} {log log' : Array Record} {t : Table SeasonTable} {zone : Value}
      (read : Rows.table rows log = .ok t log') (entered : (zone, st) ∈ t.entries)
  | file {name : Text} {file : Option ByteArray} {log log' : Array Record} {t : Table SeasonTable}
      {zone : Value} (read : Rows.ofFile name file log = .ok t log')
      (entered : (zone, st) ∈ t.entries)

/-- **Chances that were read are percentages.** -/
theorem SeasonTable.IsRead.arePercent {st : SeasonTable} (h : st.IsRead) : st.ArePercent := by
  cases h with
  | row read => exact Rows.seasonTable_percent _ read
  | rows read entered => exact Rows.table_percent _ read _ entered
  | file read entered => exact Rows.ofFile_percent _ _ read _ entered

end Microclimate
