import Microclimate.Exact

/-!
# The fewest digits that read back

A double is the rounded value of every real number in an interval around it, whose ends belong to it
when its mantissa is even. Among the decimals in that interval the shortest one is taken, and of
several that are equally short the one nearest to the double. The search tries one significant
digit, then two, and so on: on each decimal grid only the two neighbours of the double can be the
answer. Seventeen digits always suffice.

* `Microclimate.Shortest.ofParts` – the shortest decimal of a positive double.
-/

namespace Microclimate

namespace Shortest

/-- A decimal `significand · 10 ^ exponent`. -/
structure Decimal where
  /-- The digits, as a natural number. -/
  significand : Nat
  /-- The power of ten of the last digit. -/
  exponent : Int
  deriving DecidableEq

/-- The position of the first significant digit of a positive rational: `q` lies below
`10 ^ magnitude q` and not below `10 ^ (magnitude q - 1)`. -/
def magnitude (q : Rat) : Int :=
  if 1 ≤ q then
    (Nat.toDigits 10 q.floor.toNat).length
  else
    let digits : Int := (Nat.toDigits 10 q.inv.floor.toNat).length
    if q = (10 : Rat) ^ (1 - digits) then 2 - digits else 1 - digits

/-- The real numbers that round to a positive double. -/
structure Interval where
  /-- The double itself. -/
  value : Rat
  /-- Halfway to the next smaller double. -/
  low : Rat
  /-- Halfway to the next larger double. -/
  high : Rat
  /-- Do the two ends belong to the interval? -/
  closed : Bool

/-- Does a number round to the double? -/
def Interval.has (i : Interval) (q : Rat) : Bool :=
  if i.closed then i.low ≤ q && q ≤ i.high else i.low < q && q < i.high

/-- The least mantissa of a double that is not among the smallest ones: two to the power of 52. -/
def leastMantissa : Nat := 0x10000000000000

/-- The interval of `mantissa · 2 ^ exponent`. Below a power of two the doubles lie twice as close,
so there the lower half is half as wide, except at the very bottom of the range. -/
def Interval.ofParts (mantissa : Nat) (exponent : Int) : Interval :=
  let quarter := (2 : Rat) ^ (exponent - 2)
  let down : Nat := if mantissa = leastMantissa && exponent > -1074 then 1 else 2
  { value := (4 * mantissa : Nat) * quarter
    low := (4 * mantissa - down : Nat) * quarter
    high := (4 * mantissa + 2 : Nat) * quarter
    closed := mantissa % 2 = 0 }

/-- The decimal nearest to the double on the grid of multiples of `10 ^ exponent`, if one of them
rounds to the double. -/
def Interval.onGrid? (i : Interval) (exponent : Int) : Option Decimal :=
  let step := (10 : Rat) ^ exponent
  let below := (i.value / step).floor.toNat
  let lower := (below : Rat) * step
  let upper := ((below + 1 : Nat) : Rat) * step
  match i.has lower, i.has upper with
  | false, false => none
  | true, false => some ⟨below, exponent⟩
  | false, true => some ⟨below + 1, exponent⟩
  | true, true =>
    if i.value - lower < upper - i.value then some ⟨below, exponent⟩
    else if upper - i.value < i.value - lower then some ⟨below + 1, exponent⟩
    else if below % 2 = 0 then some ⟨below, exponent⟩
    else some ⟨below + 1, exponent⟩

/-- The first hit on the grids with `digits`, `digits + 1`, … significant digits. -/
def Interval.search (i : Interval) (top : Int) (digits : Nat) : (tries : Nat) → Option Decimal
  | 0 => none
  | tries + 1 =>
    match i.onGrid? (top - digits) with
    | some found => some found
    | none => i.search top (digits + 1) tries

/-- The shortest decimal that reads back as the positive double `mantissa · 2 ^ exponent`. -/
def ofParts (mantissa : Nat) (exponent : Int) : Decimal :=
  let i := Interval.ofParts mantissa exponent
  (i.search (magnitude i.value) 1 17).getD ⟨mantissa, 0⟩

end Shortest

end Microclimate
