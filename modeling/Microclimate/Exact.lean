/-!
# Exact values of doubles

A `Float` is finite and stands for one rational number, or it is one of two infinities, or it stands
for no number at all. Whoever compares a double with an integer, rounds it or writes it down needs
that value and not an approximation of it.

* `Microclimate.Exact.ofFloat` – the exact value of a double, read off its logical model;
* `Microclimate.roundHalfEven` – the nearest integer, **a half going to the even neighbour**;
* `Microclimate.truncate` – the integer part, toward zero.
-/

namespace Microclimate

/-- What a double stands for. -/
inductive Exact where
  /-- A rational number; both zeros have the value 0. -/
  | real (value : Rat)
  /-- One of the two infinities. -/
  | infinite (negative : Bool)
  /-- Not a number. -/
  | undefined
  deriving DecidableEq

/-- The exact value of a double. -/
def Exact.ofFloat (x : Float) : Exact :=
  match x.toModel.unpack with
  | .notANumber => .undefined
  | .infinity sign => .infinite (sign == .negative)
  | .zero _ => .real 0
  | .finite sign mantissa exponent _ => .real ((sign.apply mantissa : Int) * (2 : Rat) ^ exponent)

/-- Is the sign bit of a double set? A negative zero has it set too. -/
def Exact.isSigned (x : Float) : Bool :=
  match x.toModel.unpack with
  | .notANumber => false
  | .infinity sign | .zero sign | .finite sign .. => sign == .negative

/-- The nearest integer; halfway between two integers, the even one. -/
def roundHalfEven (q : Rat) : Int :=
  let below := q.floor
  let rest := q - below
  if rest < 1 / 2 then below
  else if 1 / 2 < rest then below + 1
  else if below % 2 = 0 then below
  else below + 1

/-- The integer part: rounding toward zero. -/
def truncate (q : Rat) : Int :=
  if q < 0 then q.ceil else q.floor

end Microclimate
