import Microclimate.Calendar
import Microclimate.Exact
import Microclimate.Fault

/-!
# Game clocks

A clock says which day of the year it is. A fixed clock always shows the same day; a running clock
shows a time in seconds since the start of 1970, as a double, and is advanced by milliseconds. The
day is that of the time rounded down to whole seconds, in universal time.

* `Microclimate.Clock` – the type;
* `Microclimate.Clock.dayOfYear` – the day of the year, or why there is none;
* `Microclimate.Clock.advance` – the clock some milliseconds later.
-/

namespace Microclimate

/-- A game clock. -/
inductive Clock where
  /-- The clock always shows the same day of the year. -/
  | fixed (day : Int)
  /-- The clock shows a time. -/
  | running (time : Float)
  deriving Inhabited

namespace Clock

/-- The number of seconds in a day. -/
def secondsPerDay : Int := 86400

/-- Does an integer fit into 32 bits with a sign? -/
def fits32 (n : Int) : Bool := -0x80000000 ≤ n && n < 0x80000000

/-- Does an integer fit into 64 bits with a sign, as far as doubles can tell? The greatest such
integer and the one after it are the same double, so the one after it is let through. -/
def fits64 (n : Int) : Bool := -0x8000000000000000 ≤ n && n ≤ 0x8000000000000000

/-- The day of the year of a time in whole seconds. The time must fit into 64 bits, and the year,
counted from 1900, into 32. -/
def dayOfSeconds (seconds : Int) : Except Fault Int :=
  if !fits64 seconds then .error .timeOutOfRange
  else
    let date := Calendar.date (seconds / secondsPerDay)
    if fits32 (date.year - 1900) then .ok date.dayOfYear else .error .yearOutOfRange

/-- The day of the year, counted from 0. -/
def dayOfYear : Clock → Except Fault Int
  | fixed day => .ok day
  | running time =>
    match Exact.ofFloat time with
    | .undefined => .error .timeUndefined
    | .infinite _ => .error .timeOutOfRange
    | .real q => dayOfSeconds q.floor

/-- The clock once it was said which day it is: a fixed clock shows that day from then on, a running
clock goes by its time. -/
def setDay (day : Int) : Clock → Clock
  | fixed _ => fixed day
  | running time => running time

/-- A number of milliseconds in seconds, if it is not too large for a double. -/
def seconds? (millis : Int) : Option Float :=
  let x := Float.ofInt millis
  if x.isInf then none else some (x / 1000.0)

/-- The clock some milliseconds later. -/
def advance (millis : Int) : Clock → Except Fault Clock
  | fixed _ => .error (.absent .runningClock)
  | running time =>
    match seconds? millis with
    | some s => .ok (running (time + s))
    | none => .error .tooLarge

end Clock

end Microclimate
