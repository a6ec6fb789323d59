import Microclimate.Fault

/-!
# Checked tables and numbers

A table of chances is made of rows, of which there must be one for each season, and kinds, states
and seasons are given by numbers, which must be listed in a catalogue.

* `Microclimate.SeasonTable.ofList` – the table of four rows;
* `Microclimate.Season.ofNumber` – the season with a number;
* `Microclimate.Catalogue.name` – the name that a catalogue gives to a number.
-/

namespace Microclimate

/-- The table of the chances in the seasons, which have to be four. -/
def SeasonTable.ofList (rows : List Chances) : Except Fault SeasonTable :=
  match SeasonTable.ofList? rows with
  | some table => .ok table
  | none => .error (.seasonRows rows.length)

/-- The season with a number. -/
def Season.ofNumber (n : Int) : Except Fault Season :=
  match Season.ofNumber? n with
  | some season => .ok season
  | none => .error (.notListed .seasons n)

namespace Catalogue

/-- The name that a catalogue gives to a number, if the number is listed. -/
def name? (c : Catalogue) (n : Int) : Option String :=
  match c with
  | kinds => WeatherKind.name? ⟨n⟩
  | states => WeatherState.name? ⟨n⟩
  | seasons => (Season.ofNumber? n).map Season.name

/-- The name that a catalogue gives to a number. -/
def name (c : Catalogue) (n : Int) : Except Fault String :=
  match c.name? n with
  | some name => .ok name
  | none => .error (.notListed c n)

end Catalogue

theorem SeasonTable.ofList_toList (t : SeasonTable) : SeasonTable.ofList t.toList = .ok t := rfl

end Microclimate
