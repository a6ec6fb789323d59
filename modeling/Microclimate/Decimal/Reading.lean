/-!
# Reading decimals into doubles

A decimal is read as the double nearest to it, a tie going to the even mantissa. Decimals beyond the
range of the doubles become infinite, and those too small become zero; both are told by the position
of the first digit, before any power of ten is formed.

* `Microclimate.readDecimal` – the double nearest to `mantissa · 10 ^ exponent`.
-/

namespace Microclimate

/-- The double nearest to `mantissa · 10 ^ exponent`, negated if `negative`. -/
def readDecimal (negative : Bool) (mantissa : Nat) (exponent : Int) : Float :=
  let top : Int := (Nat.toDigits 10 mantissa).length + exponent
  let size : Float :=
    if mantissa = 0 || top < -400 then 0.0
    else if 400 < top then 1.0 / 0.0
    else Float.ofScientific mantissa (exponent < 0) exponent.natAbs
  if negative then -size else size

end Microclimate
