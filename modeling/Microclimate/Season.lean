/-!
# Seasons

The year has four seasons of 91 days, of which spring is meant to start on the 20th of March. Days
of the year are counted from 0, so that day is number 78. By the count in `Season.ofDay` every
season starts a day before.

* `Microclimate.Season` – the type, with `Season.number` and `Season.label`;
* `Microclimate.Season.ofDay` – the season of a day of the year.
-/

namespace Microclimate

/-- A quarter of the year. -/
inductive Season where
  /-- The 91 days after winter. -/
  | spring
  /-- The 91 days after spring. -/
  | summer
  /-- The 91 days after summer. -/
  | fall
  /-- The rest of the year. -/
  | winter
  deriving DecidableEq, Inhabited, Repr

namespace Season

/-- The seasons in the order of the year. -/
def all : List Season := [spring, summer, fall, winter]

/-- The place of a season in the year, from 0. -/
def number : Season → Int
  | spring => 0
  | summer => 1
  | fall => 2
  | winter => 3

/-- The season with a given place in the year. -/
def ofNumber? (n : Int) : Option Season := all.find? (·.number = n)

/-- The name in lower case. -/
def label : Season → String
  | spring => "spring"
  | summer => "summer"
  | fall => "fall"
  | winter => "winter"

/-- The name in capitals. -/
def name (s : Season) : String := s.label.toUpper

/-- The season that follows. -/
def next : Season → Season
  | spring => summer
  | summer => fall
  | fall => winter
  | winter => spring

/-- The day of the year on which spring is meant to start. -/
def springStart : Int := 78

/-- The length of a season in days. -/
def length : Int := 91

/-- The season of a day of the year. The days are counted on from the start of spring in the year
before, in fours of 91 days. -/
def ofDay (day : Int) : Season :=
  match ((day - springStart + 365) / length) % 4 with
  | 0 => spring
  | 1 => summer
  | 2 => fall
  | _ => winter

theorem ofNumber?_number (s : Season) : ofNumber? s.number = some s := by
  cases s <;> rfl

end Season

end Microclimate
