import Microclimate.Decimal.Numeral
import Microclimate.Value

/-!
# Values as integers

A value is taken for an integer as follows: a truth value is 0 or 1, an integer is itself, a double
loses its fraction, and a text must be a numeral. Infinities are told apart from what cannot be read
at all.

* `Microclimate.Value.whole` – the integer of a value, or why there is none.
-/

namespace Microclimate

/-- The outcome of taking a value for an integer. -/
inductive Whole where
  /-- The integer. -/
  | number (n : Int)
  /-- The value is infinite. -/
  | infinite
  /-- The value is no integer. -/
  | unreadable
  deriving DecidableEq

namespace Value

/-- The integer of a value, or why there is none. -/
def whole : Value → Whole
  | bool b => .number (if b then 1 else 0)
  | int n => .number n
  | float x =>
    match Exact.ofFloat x with
    | .real q => .number (truncate q)
    | .infinite _ => .infinite
    | .undefined => .unreadable
  | text t =>
    match Numeral.read? t with
    | some n => .number n
    | none => .unreadable
  | null | list _ | dict _ => .unreadable

end Value

end Microclimate
