/-!
# The Gregorian calendar

Days are numbered from the 1st of January of the year 1970, in both directions, and dates follow the
Gregorian rules for all of time. Four hundred years make a cycle of 146097 days; within it come
three centuries of 36524 days and a fourth with one day more, within a century fours of years of
1461 days, and within those three years of 365 days and a fourth with one day more, if it has one.

* `Microclimate.Calendar.isLeap` – which years are leap years;
* `Microclimate.Calendar.firstDay` – the number of the 1st of January of a year;
* `Microclimate.Calendar.date` – the year and the day of the year of a day.
-/

namespace Microclimate

namespace Calendar

/-- Is this a leap year? -/
def isLeap (year : Int) : Bool := year % 4 = 0 && (year % 100 ≠ 0 || year % 400 = 0)

/-- The number of days in a year. -/
def daysIn (year : Int) : Int := if isLeap year then 366 else 365

/-- The number of days from the 1st of January of the year 1 to that of the year 1970. -/
def epoch : Int := 719162

/-- The number of the 1st of January of a year. -/
def firstDay (year : Int) : Int :=
  let y := year - 1
  365 * y + y / 4 - y / 100 + y / 400 - epoch

/-- A day in its year; the first day of a year has the number 0. -/
structure Date where
  /-- The year. -/
  year : Int
  /-- The number of days since the start of the year. -/
  dayOfYear : Int
  deriving DecidableEq, Repr

/-- The date of a day. -/
def date (day : Int) : Date :=
  let n := day + epoch
  let cycle := n / 146097
  let inCycle := n % 146097
  let century := min 3 (inCycle / 36524)
  let inCentury := inCycle - 36524 * century
  let four := inCentury / 1461
  let inFour := inCentury % 1461
  let year := min 3 (inFour / 365)
  ⟨400 * cycle + 100 * century + 4 * four + year + 1, inFour - 365 * year⟩

end Calendar

end Microclimate
