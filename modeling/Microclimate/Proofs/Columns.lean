import Microclimate.Proofs.Percentages
import Microclimate.Proofs.Writable

/-!
# The first column at fault decides

A row has twelve columns, one for each season and family, and they are read one after the other. A
column is good if it is there, holds what can be taken for an integer, and that integer is not
negative. All that happens follows from which columns are good: the chances are read if all of them
are, and else **the first bad column alone decides what goes wrong**. The columns after it are not
looked at, and those before it leave their records in either case: one for every number above a
hundred.

What is said then names the column. Two things can get in the way: an infinity in the column is not
put down to the data, and a complaint that shows an integer of too many digits is never made.

* `Microclimate.Rows.Good`, `Microclimate.Rows.Blames` – a column is good, or it is to blame for
  some fault;
* `Microclimate.Rows.Blames.isWritable`, `Microclimate.Rows.Blames.names` – what can be said about a
  column that is to blame;
* `Microclimate.Rows.chance_cases` – what one column comes to;
* `Microclimate.Rows.seasonTable_eq` – a row is read by a look at its columns, in order;
* `Microclimate.Rows.forM_check_of_good`, `Microclimate.Rows.forM_check_of_bad` – a look at columns;
* `Microclimate.Rows.seasonTable_decides` – **when a row is read, what is read, and what goes
  wrong.**
-/

namespace Microclimate

theorem Text.append_assoc (r s t : Text) : r ++ s ++ t = r ++ (s ++ t) :=
  congrArg Text.mk (List.append_assoc _ _ _)

/-- The table with a given chance in each column. -/
def SeasonTable.ofColumns (chance : Column → Int) : SeasonTable :=
  let season (s : Season) : Chances := ⟨chance ⟨s, .rain⟩, chance ⟨s, .snow⟩, chance ⟨s, .storm⟩⟩
  ⟨season .spring, season .summer, season .fall, season .winter⟩

/-- The chance in a column of a table. -/
def SeasonTable.at (t : SeasonTable) (c : Column) : Int := (t.chances c.season).of c.family

@[simp] theorem SeasonTable.at_ofColumns (chance : Column → Int) (c : Column) :
    (ofColumns chance).at c = chance c := by
  rcases c with ⟨_ | _ | _ | _, _ | _ | _⟩ <;> rfl

theorem SeasonTable.ArePercent.at {t : SeasonTable} (h : t.ArePercent) (c : Column) :
    IsPercent (t.at c) := by
  obtain ⟨s, family⟩ := c
  obtain ⟨rain, snow, storm⟩ := h s
  rcases family with _ | _ | _
  · exact rain
  · exact snow
  · exact storm

theorem Column.mem_all (c : Column) : c ∈ all := by
  rcases c with ⟨_ | _ | _ | _, _ | _ | _⟩ <;> decide

namespace Rows

/-! ### Readings in a row -/

section Reading

variable {α β : Type} {x : Reading α} {k : α → Reading β} {log log' : Array Record}

/-- Where one reading gives something, the next one takes over. -/
theorem Reading.bind_of_ok {a : α} (h : x log = .ok a log') : (x >>= k) log = k a log' := by
  change EStateM.bind x k log = _
  rw [EStateM.bind, h]

/-- Where one reading fails, there is no next one. -/
theorem Reading.bind_of_error {f : Fault} (h : x log = .error f log') :
    (x >>= k) log = .error f log' := by
  change EStateM.bind x k log = _
  rw [EStateM.bind, h]

end Reading

section Row

variable {row : List (Value × Value)} {c : Column}

/-- The zone that a row names, if it names one. -/
def zoneOf (row : List (Value × Value)) : Value := (lookup row zoneName).getD .null

/-- The integer in a column of a row, if the column is there and can be taken for one. -/
def number? (row : List (Value × Value)) (c : Column) : Option Int :=
  match (lookup row c.name).map Value.whole with
  | some (.number n) => some n
  | _ => none

/-- **A column is good** if there is an integer in it that is not negative. -/
def Good (row : List (Value × Value)) (c : Column) : Prop := ∃ n, number? row c = some n ∧ 0 ≤ n

/-- **A column is to blame for a fault** by what is in it, or by being absent. -/
inductive Blames (row : List (Value × Value)) (zone : Value) (c : Column) : Fault → Prop
  | missing (absent : lookup row c.name = none) : Blames row zone c (.missingColumn zone c)
  | unreadable {cell : Value} (found : lookup row c.name = some cell)
      (read : cell.whole = .unreadable) : Blames row zone c (.unreadableCell zone c cell)
  | infinite {cell : Value} (found : lookup row c.name = some cell)
      (read : cell.whole = .infinite) : Blames row zone c .infiniteCell
  | negative {cell : Value} {n : Int} (found : lookup row c.name = some cell)
      (read : cell.whole = .number n) (below : n < 0) : Blames row zone c (.negativeCell zone c n)

/-- Does a column hold a number above a hundred? -/
def isOver (row : List (Value × Value)) (c : Column) : Bool := (number? row c).any (100 < ·)

/-- The records that some columns leave: one for each number above a hundred. -/
def resets (row : List (Value × Value)) (zone : Value) (cs : List Column) : List Record :=
  (cs.filter (isOver row)).map (.reset zone)

/-- The chance that a number stands for. -/
def chanceFor (n : Int) : Int := if n ≤ 100 then n else Record.fallbackChance

/-- The chance in a column, once it is known to be good. -/
def chanceOf (row : List (Value × Value)) (c : Column) : Int :=
  chanceFor ((number? row c).getD 0)

theorem number?_eq_some {cell : Value} (found : lookup row c.name = some cell) (n : Int) :
    number? row c = some n ↔ cell.whole = .number n := by
  simp only [number?, found, Option.map_some]
  split <;> simp_all

/-! ### One column -/

/-- A column that is to blame is not good. -/
theorem Blames.not_good {zone : Value} {f : Fault} (h : Blames row zone c f) : ¬Good row c := by
  rintro ⟨n, known, least⟩
  rcases h with absent | ⟨found, read⟩ | ⟨found, read⟩ | ⟨found, read, below⟩
  · simp [number?, absent] at known
  · simp [number?_eq_some found, read] at known
  · simp [number?_eq_some found, read] at known
  · rw [number?_eq_some found, read, Whole.number.injEq] at known
    omega

/-- A column is to blame for one fault only. -/
theorem Blames.unique {zone : Value} {f g : Fault} (h : Blames row zone c f)
    (h' : Blames row zone c g) : f = g := by
  rcases h with absent | ⟨found, read⟩ | ⟨found, read⟩ | ⟨found, read, -⟩ <;>
    rcases h' with absent' | ⟨found', read'⟩ | ⟨found', read'⟩ | ⟨found', read', -⟩ <;>
    grind

/-- The zone of a row can be written down if the row can. -/
theorem isWritable_zoneOf (short : (Value.dict row).isWritable = true) :
    (zoneOf row).isWritable = true := by
  rw [zoneOf]
  cases found : lookup row zoneName with
  | none => rfl
  | some zone => exact isWritable_of_lookup short found

/-- **What is to be said about a row that can be written down** can be put into words. -/
theorem Blames.isWritable {f : Fault} (h : Blames row (zoneOf row) c f)
    (short : (Value.dict row).isWritable = true) : f.isWritable = true := by
  have zone := isWritable_zoneOf short
  rcases h with absent | ⟨found, -⟩ | ⟨found, -⟩ | ⟨found, read, -⟩
  · exact zone
  · exact Bool.and_eq_true_iff.2 ⟨zone, isWritable_of_lookup short found⟩
  · rfl
  · exact Bool.and_eq_true_iff.2
      ⟨zone, Value.isWritable_of_whole (isWritable_of_lookup short found) read⟩

/-- **What is said about a column that is to blame** holds its name in quotes, and it is the data
that are bad, unless what is in the column is infinite, or it cannot be put into words. -/
theorem Blames.names {f : Fault} (h : Blames row (zoneOf row) c f) :
    (f.isData = true ∧ ∃ before after : Text, f.message = before ++ c.name.quoted ++ after) ∨
      (f = .infiniteCell ∧ ∃ cell, lookup row c.name = some cell ∧ cell.whole = .infinite) ∨
        f.isWritable = false ∧ (Value.dict row).isWritable = false := by
  cases short : f.isWritable with
  | false =>
    refine .inr (.inr ⟨rfl, Bool.eq_false_iff.2 fun row => ?_⟩)
    exact Bool.false_ne_true (short.symm.trans (h.isWritable row))
  | true =>
    rw [Fault.isData, Fault.message, short, Bool.and_true, if_pos rfl]
    rcases h with absent | @⟨cell, found, read⟩ | ⟨found, read⟩ | @⟨cell, n, found, read, below⟩
    · refine .inl ⟨rfl, "zone " ++ (zoneOf row).display ++ ": missing column ", ⟨[]⟩, ?_⟩
      exact (congrArg Text.mk (List.append_nil _)).symm
    · refine .inl ⟨rfl, "zone " ++ (zoneOf row).display ++ ": column ",
        " is not an integer: " ++ cell.describe, ?_⟩
      simp only [Fault.wording, Fault.cellText, Text.append_assoc]
    · exact .inr (.inl ⟨rfl, _, found, read⟩)
    · refine .inl ⟨rfl, "zone " ++ (zoneOf row).display ++ ": column ",
        " is negative (" ++ Text.ofInt n ++ ")", ?_⟩
      simp only [Fault.wording, Fault.cellText, Text.append_assoc]

/-- **What a column comes to**: its number, another chance and a record, or a fault. -/
theorem chance_cases (row : List (Value × Value)) (zone : Value) (c : Column) :
    (∃ n, number? row c = some n ∧ 0 ≤ n ∧ n ≤ 100 ∧ chance row zone c = pure n) ∨
      (∃ n, number? row c = some n ∧ 100 < n ∧
        chance row zone c = do note (.reset zone c); return Record.fallbackChance) ∨
      ∃ f, Blames row zone c f ∧ chance row zone c = throw f := by
  rw [chance]
  rcases found : lookup row c.name with _ | cell
  · exact .inr (.inr ⟨_, .missing found, rfl⟩)
  dsimp only
  rcases read : cell.whole with n | _ | _
  · have known := (number?_eq_some found n).2 read
    dsimp only
    rcases Int.lt_or_le n 0 with below | least
    · exact .inr (.inr ⟨_, .negative found read below, if_pos below⟩)
    rw [if_neg (Int.not_lt.2 least)]
    rcases Int.lt_or_le 100 n with above | most
    · exact .inr (.inl ⟨n, known, above, if_pos above⟩)
    · exact .inl ⟨n, known, least, most, if_neg (Int.not_lt.2 most)⟩
  · exact .inr (.inr ⟨_, .infinite found read, rfl⟩)
  · exact .inr (.inr ⟨_, .unreadable found read, rfl⟩)

theorem chance_of_good (h : Good row c) (zone : Value) (log : Array Record) :
    chance row zone c log = .ok (chanceOf row c) (log ++ resets row zone [c]) := by
  rcases chance_cases row zone c with ⟨n, known, -, most, made⟩ | ⟨n, known, above, made⟩ |
      ⟨f, blamed, -⟩
  · have same : chanceOf row c = n := by simp [chanceOf, chanceFor, known, most]
    have quiet : resets row zone [c] = [] := by simp [resets, isOver, known, most]
    rw [made, same, quiet, Array.appendList_nil]
    rfl
  · have other : chanceOf row c = Record.fallbackChance := by
      simp [chanceOf, chanceFor, known, Int.not_le.2 above]
    have noted : resets row zone [c] = [.reset zone c] := by simp [resets, isOver, known, above]
    rw [made, other, noted]
    rfl
  · exact absurd h blamed.not_good

theorem chance_of_bad (h : ¬Good row c) (zone : Value) :
    ∃ f, Blames row zone c f ∧ chance row zone c = throw f := by
  rcases chance_cases row zone c with ⟨n, known, least, -⟩ | ⟨n, known, above, -⟩ | bad
  · exact absurd ⟨n, known, least⟩ h
  · exact absurd ⟨n, known, by omega⟩ h
  · exact bad

/-- A look at a column, for the sake of its record or its fault. -/
def check (row : List (Value × Value)) (zone : Value) (c : Column) : Reading Unit :=
  discard (chance row zone c)

theorem check_of_good (h : Good row c) (zone : Value) (log : Array Record) :
    check row zone c log = .ok () (log ++ resets row zone [c]) := by
  change EStateM.map _ _ log = _
  rw [EStateM.map, chance_of_good h]

theorem check_of_bad (h : ¬Good row c) (zone : Value) :
    ∃ f, Blames row zone c f ∧ check row zone c = throw f := by
  obtain ⟨f, blamed, made⟩ := chance_of_bad h zone
  refine ⟨f, blamed, ?_⟩
  rw [check, made]
  rfl

/-- After a look at a column the chance in it is known. -/
theorem chance_eq (row : List (Value × Value)) (zone : Value) (c : Column) :
    chance row zone c = do check row zone c; return chanceOf row c := by
  by_cases h : Good row c
  · funext log
    rw [Reading.bind_of_ok (check_of_good h zone log), chance_of_good h]
    rfl
  · obtain ⟨f, -, made⟩ := chance_of_bad h zone
    rw [check, made]
    rfl

/-! ### Columns in a row -/

/-- **A row is read by a look at its columns, in order.** -/
theorem seasonTable_eq (row : List (Value × Value)) :
    seasonTable (.dict row) = do
      forM Column.all (check row (zoneOf row))
      return SeasonTable.ofColumns (chanceOf row) := by
  have columns : Column.all = [⟨.spring, .rain⟩, ⟨.spring, .snow⟩, ⟨.spring, .storm⟩,
      ⟨.summer, .rain⟩, ⟨.summer, .snow⟩, ⟨.summer, .storm⟩, ⟨.fall, .rain⟩, ⟨.fall, .snow⟩,
      ⟨.fall, .storm⟩, ⟨.winter, .rain⟩, ⟨.winter, .snow⟩, ⟨.winter, .storm⟩] := rfl
  rw [columns]
  simp only [seasonTable, season, chance_eq, bind_assoc, pure_bind, List.forM_cons, List.forM_nil]
  rfl

/-- The records of a column are followed by those of the columns after it. -/
theorem append_resets_cons (log : Array Record) (row : List (Value × Value)) (zone : Value)
    (c : Column) (cs : List Column) :
    log ++ resets row zone (c :: cs) = log ++ resets row zone [c] ++ resets row zone cs := by
  by_cases above : isOver row c = true <;> simp [resets, above]

/-- A look at a good column before others. -/
theorem forM_check_cons (h : Good row c) (zone : Value) (cs : List Column) (log : Array Record) :
    forM (c :: cs) (check row zone) log =
      forM cs (check row zone) (log ++ resets row zone [c]) := by
  rw [List.forM_cons, Reading.bind_of_ok (check_of_good h zone log)]

/-- **A look at good columns** leaves their records. -/
theorem forM_check_of_good {cs : List Column} (h : ∀ c ∈ cs, Good row c) (zone : Value)
    (log : Array Record) : forM cs (check row zone) log = .ok ⟨⟩ (log ++ resets row zone cs) := by
  induction cs generalizing log with
  | nil => exact congrArg (EStateM.Result.ok _) Array.appendList_nil.symm
  | cons c rest ih =>
    obtain ⟨first, others⟩ := List.forall_mem_cons.1 h
    rw [forM_check_cons first, ih others, ← append_resets_cons]

/-- **A look at columns ends at the first bad one**, with the records of those before it. -/
theorem forM_check_of_bad {before : List Column} (h : ∀ b ∈ before, Good row b)
    (bad : ¬Good row c) (after : List Column) (zone : Value) (log : Array Record) :
    ∃ f, Blames row zone c f ∧
      forM (before ++ c :: after) (check row zone) log =
        .error f (log ++ resets row zone before) := by
  induction before generalizing log with
  | nil =>
    obtain ⟨f, blamed, made⟩ := check_of_bad bad zone
    refine ⟨f, blamed, ?_⟩
    rw [List.nil_append, List.forM_cons, made]
    exact congrArg (EStateM.Result.error f) Array.appendList_nil.symm
  | cons b rest ih =>
    obtain ⟨first, others⟩ := List.forall_mem_cons.1 h
    obtain ⟨f, blamed, ends⟩ := ih others (log ++ resets row zone [b])
    refine ⟨f, blamed, ?_⟩
    rw [List.cons_append, forM_check_cons first, ends, ← append_resets_cons]

end Row

/-! ### A whole row -/

/-- Either all members of a list have some property, or there is a first one that has not. -/
theorem all_or_first_not {α : Type} (P : α → Prop) (l : List α) :
    (∀ a ∈ l, P a) ∨ ∃ before a after, l = before ++ a :: after ∧ (∀ b ∈ before, P b) ∧ ¬P a := by
  induction l with
  | nil => exact .inl fun _ mem => absurd mem List.not_mem_nil
  | cons a rest ih =>
    by_cases first : P a
    · rcases ih with all | ⟨before, b, after, rfl, others, bad⟩
      · exact .inl (List.forall_mem_cons.2 ⟨first, all⟩)
      · exact .inr ⟨a :: before, b, after, rfl, List.forall_mem_cons.2 ⟨first, others⟩, bad⟩
    · exact .inr ⟨[], a, rest, rfl, fun _ mem => absurd mem List.not_mem_nil, first⟩

/-- **A row of good columns is read.** -/
theorem seasonTable_of_good {row : List (Value × Value)} (h : ∀ c, Good row c)
    (log : Array Record) :
    seasonTable (.dict row) log = .ok (SeasonTable.ofColumns (chanceOf row))
      (log ++ resets row (zoneOf row) Column.all) := by
  have looks := forM_check_of_good (fun c (_ : c ∈ Column.all) => h c) (zoneOf row) log
  rw [seasonTable_eq, Reading.bind_of_ok looks]
  rfl

/-- **A row with a bad column** is refused for the first one. -/
theorem seasonTable_of_bad {row : List (Value × Value)} {before after : List Column} {c : Column}
    (columns : Column.all = before ++ c :: after) (h : ∀ b ∈ before, Good row b)
    (bad : ¬Good row c) (log : Array Record) :
    ∃ f, Blames row (zoneOf row) c f ∧
      seasonTable (.dict row) log = .error f (log ++ resets row (zoneOf row) before) := by
  obtain ⟨f, blamed, ends⟩ := forM_check_of_bad h bad after (zoneOf row) log
  refine ⟨f, blamed, ?_⟩
  rw [seasonTable_eq, columns, Reading.bind_of_error ends]

/-- Only a row of good columns is read. -/
theorem good_of_seasonTable {row : List (Value × Value)} {log log' : Array Record} {t : SeasonTable}
    (read : seasonTable (.dict row) log = .ok t log') (c : Column) : Good row c := by
  rcases all_or_first_not (Good row) Column.all with good | ⟨before, b, after, columns, h, bad⟩
  · exact good c c.mem_all
  · obtain ⟨f, -, ends⟩ := seasonTable_of_bad columns h bad log
    cases read.symm.trans ends

/-- **When a row is read, what is read and what goes wrong**: all columns have to be good; the
chances are then the numbers in them, those above a hundred reset; and else the first bad column
decides. It is named, and the data are blamed, if there is no infinity in it and the row can be
written down. The records are those of the columns before it. -/
theorem seasonTable_decides (row : List (Value × Value)) (log : Array Record) :
    ((∃ t log', seasonTable (.dict row) log = .ok t log') ↔ ∀ c, Good row c) ∧
      (∀ t log', seasonTable (.dict row) log = .ok t log' →
        (∀ c, ∃ n, number? row c = some n ∧ t.at c = (if n ≤ 100 then n else 25) ∧
          0 ≤ t.at c ∧ t.at c ≤ 100) ∧
        log' = log ++ resets row (zoneOf row) Column.all) ∧
      ∀ before c after, Column.all = before ++ c :: after → (∀ b ∈ before, Good row b) →
        ¬Good row c →
        ∃ f, seasonTable (.dict row) log = .error f (log ++ resets row (zoneOf row) before) ∧
          Blames row (zoneOf row) c f ∧
          ((f.isData = true ∧ ∃ b a : Text, f.message = b ++ c.name.quoted ++ a) ∨
            (f = .infiniteCell ∧
              ∃ cell, lookup row c.name = some cell ∧ cell.whole = .infinite) ∨
            f.isWritable = false ∧ (Value.dict row).isWritable = false) := by
  refine ⟨⟨?_, fun good => ⟨_, _, seasonTable_of_good good log⟩⟩, ?_, ?_⟩
  · rintro ⟨t, log', read⟩
    exact good_of_seasonTable read
  · intro t log' read
    have good := good_of_seasonTable read
    obtain ⟨rfl, rfl⟩ := EStateM.Result.ok.inj (read.symm.trans (seasonTable_of_good good log))
    refine ⟨fun c => ?_, rfl⟩
    obtain ⟨n, known, -⟩ := good c
    refine ⟨n, known, ?_, (seasonTable_percent _ read).at c⟩
    rw [SeasonTable.at_ofColumns, chanceOf, known]
    rfl
  · intro before c after columns h bad
    obtain ⟨f, blamed, ends⟩ := seasonTable_of_bad columns h bad log
    exact ⟨f, ends, blamed, blamed.names⟩

/-- A row with a number above a hundred in its first column, a word in a column of the summer and a
negative number in one of the winter. -/
def spoilt : List (Value × Value) :=
  (.text "zone", .text "a") :: Column.all.map fun c =>
    (.text c.name,
      if c = ⟨.spring, .rain⟩ then .int 150
      else if c = ⟨.summer, .snow⟩ then .text "lots"
      else if c = ⟨.winter, .rain⟩ then .int (-1)
      else .int 30)

/-- The row is refused for the word, once the number above a hundred was reset. -/
theorem seasonTable_decides_spoilt :
    (∀ b ∈ Column.all.take 4, Good spoilt b) ∧ ¬Good spoilt ⟨.summer, .snow⟩ ∧
      seasonTable (.dict spoilt) #[] =
        .error (.unreadableCell (.text "a") ⟨.summer, .snow⟩ (.text "lots"))
          #[.reset (.text "a") ⟨.spring, .rain⟩] := by
  have numbers : ∀ b ∈ Column.all.take 4,
      number? spoilt b = some (if b = ⟨.spring, .rain⟩ then 150 else 30) := by decide
  have good : ∀ b ∈ Column.all.take 4, Good spoilt b := by
    intro b mem
    refine ⟨_, numbers b mem, ?_⟩
    split <;> decide
  have bad : ¬Good spoilt ⟨.summer, .snow⟩ := by
    rintro ⟨n, known, -⟩
    cases known
  obtain ⟨f, ends, blamed, -⟩ := (seasonTable_decides spoilt #[]).2.2
    (Column.all.take 4) ⟨.summer, .snow⟩ (Column.all.drop 5) rfl good bad
  refine ⟨good, bad, ends.trans ?_⟩
  rcases blamed with absent | @⟨cell, found, read⟩ | ⟨found, read⟩ | ⟨found, read, below⟩
  · cases absent
  · cases found
    rfl
  · cases found
    cases read
  · cases found
    cases read

end Rows

end Microclimate
