import Microclimate.Decimal.Numeral
import Microclimate.Decimal.Reading

/-!
# Doubles in writing

A literal is a double in writing: blanks, at most one sign, a decimal or a word, blanks. A decimal
has digits of any script before the point, after it or on both sides, and may end in an exponent;
the words stand for the infinities and for what is not a number, in small letters or capitals. An
underscore may stand between two neighbouring digits and nowhere else.

* `Microclimate.Literal.read?` – the double that a text is a literal of.
-/

namespace Microclimate

namespace Literal

/-- The digits at the start and what follows them, `none` if an underscore among them is misplaced;
`inside` says whether a digit precedes. -/
def digits? (inside : Bool) : List CodePoint → Option (List Nat × List CodePoint)
  | [] => some ([], [])
  | c :: rest =>
    match c.digit? with
    | some d => (digits? true rest).map fun (ds, rest) => (d :: ds, rest)
    | none =>
      if c = CodePoint.ofChar '_' then
        if inside && (rest.head?.bind CodePoint.digit?).isSome then digits? false rest else none
      else
        some ([], c :: rest)

/-- Is the code point this letter, small or capital? -/
def isLetter (letter : Char) (c : CodePoint) : Bool :=
  c = CodePoint.ofChar letter || c = CodePoint.ofChar letter.toUpper

/-- Is this the word, in small letters or capitals? -/
def isWord (word : String) (cs : List CodePoint) : Bool :=
  cs.length = word.length && (word.toList.zip cs).all fun (letter, c) => isLetter letter c

/-- The digits after a point and what follows them; no digits if there is no point. -/
def fraction? : List CodePoint → Option (List Nat × List CodePoint)
  | [] => some ([], [])
  | c :: rest => if c = CodePoint.ofChar '.' then digits? false rest else some ([], c :: rest)

/-- The exponent that is all there is; zero if there is nothing. -/
def exponent? : List CodePoint → Option Int
  | [] => some 0
  | c :: rest =>
    if isLetter 'e' c then
      let (negative, rest) := Numeral.splitSign rest
      match digits? false rest with
      | some (d :: ds, []) =>
        let n := Numeral.value (d :: ds)
        some (if negative then -(n : Int) else n)
      | _ => none
    else
      none

/-- The double that a decimal without its sign stands for. -/
def decimal? (negative : Bool) (cs : List CodePoint) : Option Float := do
  let (whole, rest) ← digits? false cs
  let (part, rest) ← fraction? rest
  let exponent ← exponent? rest
  match whole ++ part with
  | [] => none
  | ds => some (readDecimal negative (Numeral.value ds) (exponent - part.length))

/-- **The double that a text is a literal of**, `none` if it is no literal. -/
def read? (t : Text) : Option Float :=
  let (negative, rest) := Numeral.splitSign t.trim.points
  if isWord "inf" rest || isWord "infinity" rest then
    some (if negative then -1.0 / 0.0 else 1.0 / 0.0)
  else if isWord "nan" rest then
    some (0.0 / 0.0)
  else
    decimal? negative rest

end Literal

end Microclimate
