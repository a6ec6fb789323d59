/-!
# Texts of code points

A text is a list of Unicode code points. It differs from `String` in one respect: a surrogate may
stand alone in it. Such a text can be written down – an escape `\ud800` in a JSON file does so – and
it has to survive being stored as the name of a zone and being quoted in a message.

* `Microclimate.Text` – the type, with `Text.ofString` as a coercion and `++`;
* `Microclimate.Text.contains` – whether one text occurs inside another;
* `Microclimate.Text.join` – texts set side by side with a separator between them.
-/

namespace Microclimate

/-- A Unicode code point, surrogates included. -/
abbrev CodePoint := Fin 0x110000

/-- The code point of a character. -/
def CodePoint.ofChar (c : Char) : CodePoint :=
  ⟨c.toNat, by
    rcases c.valid with h | h
    · exact Nat.lt_trans h (by decide)
    · exact h.2⟩

/-- A finite sequence of code points. -/
structure Text where
  /-- The code points, first to last. -/
  points : List CodePoint
  deriving DecidableEq, Inhabited, Repr

namespace Text

/-- The text of a string. -/
def ofString (s : String) : Text := ⟨s.toList.map CodePoint.ofChar⟩

instance : Coe String Text := ⟨ofString⟩

/-- The text that holds one code point. -/
def ofPoint (c : CodePoint) : Text := ⟨[c]⟩

instance : Append Text := ⟨fun s t => ⟨s.points ++ t.points⟩⟩

/-- The decimal digits of an integer, after a minus sign if it is negative. -/
def ofInt (n : Int) : Text := ofString (toString n)

/-- The number of code points. -/
def length (t : Text) : Nat := t.points.length

/-- Does `part` occur in `t` as a run of neighbouring code points? The empty text occurs
everywhere. -/
def contains (t part : Text) : Bool := go t.points
where
  /-- Does `part` start at this position or at a later one? -/
  go : List CodePoint → Bool
    | [] => part.points.isEmpty
    | c :: rest => part.points.isPrefixOf (c :: rest) || go rest

/-- The texts in order, with `separator` between neighbours. -/
def join (separator : Text) : List Text → Text
  | [] => ⟨[]⟩
  | [t] => t
  | t :: rest => t ++ separator ++ join separator rest

@[simp] theorem points_append (s t : Text) : (s ++ t).points = s.points ++ t.points := rfl

end Text

end Microclimate
