import Microclimate.Decimal.Reading
import Microclimate.Fault
import Microclimate.Table

/-!
# Reading JSON

A text in JSON is read into a `Value`. Beyond the standard, the constants `NaN`, `Infinity` and
`-Infinity` are read as doubles. A number without fraction and exponent is an integer, of at most
4300 digits. Of a key that is written several times in an object the last value counts, at the place
of the first. An escape may write a surrogate that stands alone.

Arrays and objects are nested at most 989 deep. To say what is wrong with a text takes three levels
more, so what is wrong in the last three levels is put down to their depth; only a missing value is
told at any depth. The three constants take one level more, so they do not stand in the innermost
one.

* `Microclimate.Json.read` – the value of a text;
* `Microclimate.Json.readBytes` – the value of a file in UTF-8.
-/

namespace Microclimate

namespace Json

/-- What is left to be read. -/
abbrev Rest := List Char

/-- How deeply arrays and objects may be nested. -/
def maxDepth : Nat := 989

/-- How many more levels there must be room for where something is wrong. -/
def complaintDepth : Nat := 3

/-- What is wrong with a text, where there is room for `room` more levels. -/
def complaint (room : Nat) : Fault :=
  if room < complaintDepth then .nestedTooDeeply else .malformed

/-- The greatest number of digits of an integer. -/
def maxDigits : Nat := 4300

/-- Without the blanks at the start: spaces, tabs, line feeds and carriage returns. -/
def skipBlanks (cs : Rest) : Rest :=
  cs.dropWhile fun c => c = ' ' || c = '\t' || c = '\n' || c = '\r'

/-! ### Texts -/

/-- The value of a hexadecimal digit. -/
def hexDigit? (c : Char) : Option Nat :=
  if '0' ≤ c && c ≤ '9' then some (c.toNat - '0'.toNat)
  else if 'a' ≤ c && c ≤ 'f' then some (c.toNat - 'a'.toNat + 10)
  else if 'A' ≤ c && c ≤ 'F' then some (c.toNat - 'A'.toNat + 10)
  else none

/-- The number that four hexadecimal digits write. -/
def hexNumber? (a b c d : Char) : Option Nat := do
  let a ← hexDigit? a
  let b ← hexDigit? b
  let c ← hexDigit? c
  let d ← hexDigit? d
  return ((a * 16 + b) * 16 + c) * 16 + d

/-- The code point of a number that is small enough. -/
def point (n : Nat) : CodePoint := Fin.ofNat _ n

/-- Is this the first half of a surrogate pair? -/
def isHigh (n : Nat) : Bool := 0xD800 ≤ n && n < 0xDC00

/-- Is this the second half of a surrogate pair? -/
def isLow (n : Nat) : Bool := 0xDC00 ≤ n && n < 0xE000

/-- The code point of a surrogate pair. -/
def joinPair (high low : Nat) : CodePoint :=
  point (0x10000 + (high - 0xD800) * 0x400 + (low - 0xDC00))

/-- The code point that a backslash and one more character write. -/
def shortEscape? : Char → Option Char
  | '"' => some '"'
  | '\\' => some '\\'
  | '/' => some '/'
  | 'b' => some '\x08'
  | 'f' => some '\x0c'
  | 'n' => some '\n'
  | 'r' => some '\r'
  | 't' => some '\t'
  | _ => none

/-- The rest of a text up to its closing quote; `before` holds what was read, last point first. Two
neighbouring escapes that make a surrogate pair write one code point. There is room for `room` more
levels here. -/
def text (room : Nat) (before : List CodePoint) : Rest → Except Fault (Text × Rest)
  | '"' :: rest => .ok (⟨before.reverse⟩, rest)
  | '\\' :: 'u' :: a :: b :: c :: d :: '\\' :: 'u' :: e :: f :: g :: h :: rest =>
    match hexNumber? a b c d, hexNumber? e f g h with
    | some n, some m =>
      if isHigh n && isLow m then text room (joinPair n m :: before) rest
      else text room (point n :: before) ('\\' :: 'u' :: e :: f :: g :: h :: rest)
    | _, _ => .error (complaint room)
  | '\\' :: 'u' :: a :: b :: c :: d :: rest =>
    match hexNumber? a b c d with
    | some n => text room (point n :: before) rest
    | none => .error (complaint room)
  | '\\' :: c :: rest =>
    match shortEscape? c with
    | some c => text room (CodePoint.ofChar c :: before) rest
    | none => .error (complaint room)
  | c :: rest =>
    if c = '\\' || c.toNat < 0x20 then .error (complaint room)
    else text room (CodePoint.ofChar c :: before) rest
  | [] => .error (complaint room)

/-! ### Numbers -/

/-- The decimal digits at the start. -/
def digits (cs : Rest) : Rest := cs.takeWhile Char.isDigit

/-- The number that some decimal digits write. -/
def natural (ds : Rest) : Nat := ds.foldl (fun n c => 10 * n + (c.toNat - '0'.toNat)) 0

/-- The digits of a fraction and what follows it; no digits if there is no fraction. -/
def fraction : Rest → Rest × Rest
  | '.' :: rest =>
    let ds := digits rest
    if ds.isEmpty then ([], '.' :: rest) else (ds, rest.drop ds.length)
  | cs => ([], cs)

/-- An exponent and what follows it, if there is an exponent. -/
def exponent? : Rest → Option (Int × Rest)
  | [] => none
  | e :: rest =>
    if e = 'e' || e = 'E' then
      let (negative, rest) :=
        match rest with
        | '-' :: rest => (true, rest)
        | '+' :: rest => (false, rest)
        | rest => (false, rest)
      let ds := digits rest
      if ds.isEmpty then none
      else some (if negative then -(natural ds : Int) else natural ds, rest.drop ds.length)
    else
      none

/-- A number whose sign has been read. -/
def number (negative : Bool) (cs : Rest) : Except Fault (Value × Rest) :=
  let whole :=
    match cs with
    | '0' :: _ => ['0']
    | cs => digits cs
  if whole.isEmpty then
    .error .malformed
  else
    let (part, rest) := fraction (cs.drop whole.length)
    match part, exponent? rest with
    | [], none =>
      if whole.length ≤ maxDigits then
        .ok (.int (if negative then -(natural whole : Int) else natural whole), rest)
      else
        .error (.tooManyDigits whole.length)
    | part, none =>
      .ok (.float (readDecimal negative (natural (whole ++ part)) (-part.length)), rest)
    | part, some (e, rest) =>
      .ok (.float (readDecimal negative (natural (whole ++ part)) (e - part.length)), rest)

/-! ### Values -/

/-- The words of the standard and the values that they write. -/
def words : List (List Char × Value) :=
  [("null".toList, .null), ("true".toList, .bool true), ("false".toList, .bool false)]

/-- The constants beyond the standard and the values that they write. -/
def constants : List (List Char × Value) :=
  [("NaN".toList, .float (0.0 / 0.0)), ("Infinity".toList, .float (1.0 / 0.0)),
   ("-Infinity".toList, .float (-1.0 / 0.0))]

/-- One of some words at the start, and what follows it. -/
def word? (words : List (List Char × Value)) (cs : Rest) : Option (Value × Rest) :=
  (words.find? fun w => w.1.isPrefixOf cs).map fun w => (w.2, cs.drop w.1.length)

/-- What is neither a text nor an array nor an object: a word, a constant or a number. There is room
for `room` more levels here. -/
def plain (room : Nat) (cs : Rest) : Except Fault (Value × Rest) :=
  match word? words cs, word? constants cs, cs with
  | some found, _, _ => .ok found
  | none, some found, _ => if room = 0 then .error .nestedTooDeeply else .ok found
  | none, none, '-' :: rest => number true rest
  | none, none, cs => number false cs

mutual

/-- A value at the start, nested at most `depth` deep. -/
def value (depth : Nat) : (fuel : Nat) → Rest → Except Fault (Value × Rest)
  | 0, _ => .error .malformed
  | fuel + 1, cs =>
    match cs with
    | '"' :: rest => do
      let (t, rest) ← text depth [] rest
      return (.text t, rest)
    | '[' :: rest =>
      match depth with
      | 0 => .error .nestedTooDeeply
      | depth + 1 =>
        match skipBlanks rest with
        | ']' :: rest => .ok (.list [], rest)
        | rest => items depth [] fuel rest
    | '\x7b' :: rest =>
      match depth with
      | 0 => .error .nestedTooDeeply
      | depth + 1 =>
        match skipBlanks rest with
        | '\x7d' :: rest => .ok (.dict [], rest)
        | rest => members depth [] fuel rest
    | cs => plain depth cs

/-- The items of an array from here to its end; `before` holds those already read, last first. -/
def items (depth : Nat) (before : List Value) :
    (fuel : Nat) → Rest → Except Fault (Value × Rest)
  | 0, _ => .error .malformed
  | fuel + 1, cs => do
    let (v, rest) ← value depth fuel cs
    match skipBlanks rest with
    | ',' :: rest => items depth (v :: before) fuel (skipBlanks rest)
    | ']' :: rest => return (.list (v :: before).reverse, rest)
    | _ => .error (complaint depth)

/-- The members of an object from here to its end; `before` holds those already read. -/
def members (depth : Nat) (before : List (Value × Value)) :
    (fuel : Nat) → Rest → Except Fault (Value × Rest)
  | 0, _ => .error .malformed
  | fuel + 1, cs =>
    match cs with
    | '"' :: rest => do
      let (t, rest) ← text depth [] rest
      match skipBlanks rest with
      | ':' :: rest =>
        let (v, rest) ← value depth fuel (skipBlanks rest)
        let entries := Table.put Value.sameKey (.text t) v before
        match skipBlanks rest with
        | ',' :: rest => members depth entries fuel (skipBlanks rest)
        | '\x7d' :: rest => return (.dict entries, rest)
        | _ => .error (complaint depth)
      | _ => .error (complaint depth)
    | _ => .error (complaint depth)

end

/-- The value that a text in JSON writes. -/
def read (s : String) : Except Fault Value := do
  let cs := s.toList
  let (v, rest) ← value maxDepth (2 * cs.length + 2) (skipBlanks cs)
  if (skipBlanks rest).isEmpty then return v else throw .malformed

/-- The value that a file in UTF-8 and JSON writes. -/
def readBytes (bytes : ByteArray) : Except Fault Value :=
  match String.fromUTF8? bytes with
  | some s => read s
  | none => .error .undecodable

end Json

end Microclimate
