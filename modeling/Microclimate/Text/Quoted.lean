import Microclimate.Text.Printable

/-!
# Quoted texts

A quoted text stands between single quotes, or between double quotes if it holds a single quote and
no double one. Inside, a backslash and the quote in use are escaped, line feed, carriage return and
tab have short escapes, and every other unprintable code point is written as two, four or eight
hexadecimal digits.

* `Microclimate.Text.quoted` – a text in quotes.
-/

namespace Microclimate

namespace Quoted

/-- The `width` last hexadecimal digits of a number, in lower case. -/
def hex (width n : Nat) : Text :=
  let digits := Nat.toDigits 16 n
  String.ofList (List.replicate (width - digits.length) '0' ++ digits)

/-- One code point as it stands between quotes. -/
def point (quote c : CodePoint) : Text :=
  if c = quote || c = CodePoint.ofChar '\\' then ⟨[CodePoint.ofChar '\\', c]⟩
  else if c = CodePoint.ofChar '\n' then "\\n"
  else if c = CodePoint.ofChar '\r' then "\\r"
  else if c = CodePoint.ofChar '\t' then "\\t"
  else if c.isPrintable then Text.ofPoint c
  else if c.val < 0x100 then "\\x" ++ hex 2 c.val
  else if c.val < 0x10000 then "\\u" ++ hex 4 c.val
  else "\\U" ++ hex 8 c.val

/-- The quote to use for a text: the double quote where that saves escaping a single one. -/
def quoteFor (t : Text) : CodePoint :=
  let single := CodePoint.ofChar '\''
  let double := CodePoint.ofChar '"'
  if t.points.contains single && !t.points.contains double then double else single

end Quoted

/-- A text between quotes. -/
def Text.quoted (t : Text) : Text :=
  let quote := Quoted.quoteFor t
  Text.ofPoint quote ++ Text.join ⟨[]⟩ (t.points.map (Quoted.point quote)) ++ Text.ofPoint quote

end Microclimate
