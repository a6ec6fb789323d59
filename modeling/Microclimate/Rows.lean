import Microclimate.Json
import Microclimate.Record
import Microclimate.Table
import Microclimate.Value.Whole

/-!
# Weather data in rows

The chances of a zone are written in one row: a dictionary with the zone and a column for each
season and family. The columns are read in a fixed order and the first one at fault decides. A
chance above 100 percent is reset and the reset is logged.

A row may be anything, since it comes from a data file. What is no dictionary has no columns; the
fault then says how far one got in looking for a zone in it.

* `Microclimate.Rows.seasonTable` – the chances that a row gives;
* `Microclimate.Rows.table` – the chances of all zones, by zone;
* `Microclimate.Rows.ofFile` – the chances in a file.
-/

namespace Microclimate

namespace Rows

/-- A reading of rows: it may fail, and it keeps a log either way. -/
abbrev Reading := EStateM Fault (Array Record)

/-- Adds a record to the log. -/
def note (r : Record) : Reading Unit := modify (·.push r)

/-- The value in a dictionary under a text. -/
def lookup (entries : List (Value × Value)) (name : Text) : Option Value :=
  (⟨entries⟩ : Table Value).find? (.text name)

/-- The key under which a row holds its zone. -/
def zoneName : Text := "zone"

/-- The chance in one column of a row. -/
def chance (row : List (Value × Value)) (zone : Value) (column : Column) : Reading Int :=
  match lookup row column.name with
  | none => throw (.missingColumn zone column)
  | some cell =>
    match cell.whole with
    | .infinite => throw .infiniteCell
    | .unreadable => throw (.unreadableCell zone column cell)
    | .number n => do
      if n < 0 then
        throw (.negativeCell zone column n)
      else if 100 < n then
        note (.reset zone column)
        return Record.fallbackChance
      else
        return n

/-- The chances of one season. -/
def season (row : List (Value × Value)) (zone : Value) (s : Season) : Reading Chances := do
  let rain ← chance row zone ⟨s, .rain⟩
  let snow ← chance row zone ⟨s, .snow⟩
  let storm ← chance row zone ⟨s, .storm⟩
  return ⟨rain, snow, storm⟩

/-- The chances that a row gives. A row without a zone is read as one for no zone. -/
def seasonTable : Value → Reading SeasonTable
  | .dict row => do
    let zone := (lookup row zoneName).getD .null
    let spring ← season row zone .spring
    let summer ← season row zone .summer
    let fall ← season row zone .fall
    let winter ← season row zone .winter
    return ⟨spring, summer, fall, winter⟩
  | row => throw (.noColumns row)

/-! ### Rows that may be anything -/

/-- The parts of an item that is a sequence: the code points of a text, the items of a list, the
keys of a dictionary. -/
def parts? : Value → Option (List Value)
  | .text t => some (t.points.map fun c => .text (Text.ofPoint c))
  | .list items => some items
  | .dict entries => some (entries.map (·.1))
  | _ => none

/-- The dictionary of a sequence of keys with their values, from the item with number `index` on;
`before` holds the entries already made. -/
def pairs (same : Value → Value → Bool) (index : Nat) (before : List (Value × Value)) :
    List Value → Except Fault Value
  | [] => .ok (.dict before)
  | item :: rest =>
    match parts? item with
    | none => .error (.notAPair index)
    | some [key, value] =>
      if key.isKey then pairs same (index + 1) (Table.put same key value before) rest
      else .error (.notAKey key)
    | some other => .error (.pairLength index other.length)

/-- The zone that a row is for. Where a row is no dictionary, there is none; the fault depends on
whether the word for a zone occurs in the row, and on whether the row can be read as a
dictionary. -/
def zone (same : Value → Value → Bool) (row : Value) : Except Fault Value :=
  match row with
  | .dict entries =>
    match lookup entries zoneName with
    | some zone => .ok zone
    | none => .error (.zoneMissing row)
  | .list items =>
    if items.any (·.isText zoneName) then .error (.noColumns row)
    else do throw (.zoneMissing (← pairs same 0 [] items))
  | .text t =>
    if t.contains zoneName then .error (.noColumns row)
    else do throw (.zoneMissing (← pairs same 0 [] ((parts? row).getD [])))
  | _ => .error (.notSearchable row)

/-- A result that may be a fault, as part of a reading. -/
def lift {α : Type} : Except Fault α → Reading α
  | .ok a => pure a
  | .error f => throw f

/-- The rows read into a table, after those already in it. The chances of a row are read before its
zone is used as a key. -/
def fill (same : Value → Value → Bool) (table : Table SeasonTable) :
    List Value → Reading (Table SeasonTable)
  | [] => return table
  | row :: rest => do
    let zone ← lift (zone same row)
    let chances ← seasonTable row
    if zone.isKey then fill same (table.insertBy same zone chances) rest
    else throw (.notAKey zone)

/-- The chances of all zones, by zone. Of several rows for one zone the last one counts, at the
place of the first. -/
def table (rows : List Value) : Reading (Table SeasonTable) := fill Value.sameKey .empty rows

/-- The chances in a file of some name, if there is such a file. -/
def ofFile (name : Text) : Option ByteArray → Reading (Table SeasonTable)
  | none => throw .fileMissing
  | some bytes => do
    match ← lift (Json.readBytes bytes) with
    | .list rows => fill Value.sameConstant .empty rows
    | _ => throw (.notAnArray name)

end Rows

end Microclimate
