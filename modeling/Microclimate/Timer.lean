/-!
# Interval timers

A timer counts elapsed milliseconds and has passed once it reaches its interval.

* `Microclimate.Timer` – the type, with `Timer.advance`, `Timer.passed` and `Timer.reset`.
-/

namespace Microclimate

/-- A timer with its interval. -/
structure Timer where
  /-- The time after which the timer has passed. -/
  interval : Int
  /-- The time elapsed. -/
  current : Int := 0
  deriving DecidableEq, Inhabited, Repr

namespace Timer

/-- The timer after some more time, which may be negative; the elapsed time never is. -/
def advance (t : Timer) (diff : Int) : Timer := { t with current := max 0 (t.current + diff) }

/-- Has the interval elapsed? -/
def passed (t : Timer) : Bool := t.interval ≤ t.current

/-- The timer with no time elapsed. -/
def reset (t : Timer) : Timer := { t with current := 0 }

@[simp] theorem interval_advance (t : Timer) (diff : Int) :
    (t.advance diff).interval = t.interval := rfl

@[simp] theorem interval_reset (t : Timer) : t.reset.interval = t.interval := rfl

theorem current_advance_nonneg (t : Timer) (diff : Int) : 0 ≤ (t.advance diff).current :=
  Int.le_max_left ..

end Timer

end Microclimate
