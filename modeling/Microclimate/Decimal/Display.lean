import Microclimate.Decimal.Shortest
import Microclimate.Text

/-!
# Doubles in writing

Two ways to write a double are used. **In full**, it has the fewest digits that read back; it is
positional where the point stands at most three zeros before the first digit and at most sixteen
digits after it, and has an exponent of at least two digits otherwise. A whole number keeps `.0`.
**With fixed places**, it is rounded to that many decimals, a half to the even neighbour.

* `Microclimate.Display.full` – the text in full, as in `0.1`, `1e+16`, `-0.0`, `nan`;
* `Microclimate.Display.places` – the text with a given number of decimals.
-/

namespace Microclimate

namespace Display

/-- Digits without the zeros at their end. -/
def dropTrailingZeros (digits : List Char) : List Char :=
  (digits.reverse.dropWhile (· == '0')).reverse

/-- An exponent: its sign, and at least two digits. -/
def exponentText (e : Int) : String :=
  let digits := toString e.natAbs
  (if e < 0 then "e-" else "e+") ++ (if digits.length < 2 then "0" ++ digits else digits)

/-- Significant digits whose decimal point stands after the first `point` of them. -/
def layout (digits : List Char) (point : Int) : String :=
  if -4 < point && point ≤ 16 then
    if point ≤ 0 then
      "0." ++ String.ofList (List.replicate (-point).toNat '0' ++ digits)
    else if point < digits.length then
      String.ofList (digits.take point.toNat) ++ "." ++ String.ofList (digits.drop point.toNat)
    else
      String.ofList (digits ++ List.replicate (point.toNat - digits.length) '0') ++ ".0"
  else
    let first := String.ofList (digits.take 1)
    let rest := digits.drop 1
    first ++ (if rest.isEmpty then "" else "." ++ String.ofList rest) ++ exponentText (point - 1)

/-- A sign, if there is one to write. -/
def signText (x : Float) : String := if Exact.isSigned x then "-" else ""

/-- A double in full. -/
def full (x : Float) : Text :=
  match x.toModel.unpack with
  | .notANumber => "nan"
  | .infinity _ => signText x ++ "inf"
  | .zero _ => signText x ++ "0.0"
  | .finite _ mantissa exponent _ =>
    let d := Shortest.ofParts mantissa exponent
    let all := Nat.toDigits 10 d.significand
    signText x ++ layout (dropTrailingZeros all) (all.length + d.exponent)

/-- A double with `count` decimals. -/
def places (count : Nat) (x : Float) : Text :=
  match Exact.ofFloat x with
  | .undefined => "nan"
  | .infinite _ => signText x ++ "inf"
  | .real q =>
    let scaled := (roundHalfEven (q.abs * (10 : Rat) ^ count)).toNat
    let digits := Nat.toDigits 10 scaled
    let padded := List.replicate (count + 1 - digits.length) '0' ++ digits
    let whole := padded.length - count
    signText x ++ String.ofList (padded.take whole) ++
      (if count = 0 then "" else "." ++ String.ofList (padded.drop whole))

end Display

end Microclimate
