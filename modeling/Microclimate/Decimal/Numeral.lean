import Microclimate.Text.Blank
import Microclimate.Text.Digit

/-!
# Decimal numerals

A numeral is an integer in writing: blanks, at most one sign, then decimal digits of any script with
at most one underscore between two neighbours, then blanks. Leading zeros are allowed. A numeral of
more than 4300 digits is refused, and an integer that would need more cannot be written down.

* `Microclimate.Numeral.maxDigits` – the length of the longest numeral;
* `Microclimate.Numeral.read?` – the integer that a text is a numeral of;
* `Microclimate.Numeral.isWritable` – whether an integer has a numeral.
-/

namespace Microclimate

namespace Numeral

/-- The greatest number of digits of a numeral. -/
def maxDigits : Nat := 4300

/-- The number that a sequence of digits stands for, most significant digit first. -/
def value (digits : List Nat) : Nat := digits.foldl (fun sum d => 10 * sum + d) 0

/-- The digits of a numeral without its sign. An underscore may stand only where a digit precedes
and a digit follows it; `inside` says whether a digit precedes. -/
def digits? (inside : Bool) : List CodePoint → Option (List Nat)
  | [] => if inside then some [] else none
  | c :: rest =>
    match c.digit? with
    | some d => (digits? true rest).map (d :: ·)
    | none => if inside && c = CodePoint.ofChar '_' then digits? false rest else none

/-- A sign and what it stands before: `true` for a minus. -/
def splitSign : List CodePoint → Bool × List CodePoint
  | [] => (false, [])
  | c :: rest =>
    if c = CodePoint.ofChar '-' then (true, rest)
    else if c = CodePoint.ofChar '+' then (false, rest)
    else (false, c :: rest)

/-- The integer that a text is a numeral of, `none` if it is no numeral or has too many digits. -/
def read? (t : Text) : Option Int :=
  let (negative, rest) := splitSign t.trim.points
  match digits? false rest with
  | none => none
  | some ds =>
    if ds.length ≤ maxDigits then
      some (if negative then -(value ds : Int) else value ds)
    else
      none

/-- Can an integer be written down? Its numeral may have too many digits. -/
def isWritable (n : Int) : Bool := (toString n.natAbs).length ≤ maxDigits

end Numeral

end Microclimate
