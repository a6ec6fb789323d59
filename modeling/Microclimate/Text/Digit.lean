import Microclimate.Text

/-!
# Decimal digits of every script

Unicode assigns decimal digits in runs of ten neighbouring code points, from the digit zero to the
digit nine of one script. So the whole class is given by the zeros, as of version 14 of the
standard.

* `Microclimate.Digit.zeros` – the zero of each script;
* `Microclimate.CodePoint.digit?` – the value of a decimal digit of any script.
-/

namespace Microclimate

/-- The digit zero of each script, in code point order. -/
def Digit.zeros : List Nat :=
  [0x0030, 0x0660, 0x06F0, 0x07C0, 0x0966, 0x09E6, 0x0A66, 0x0AE6, 0x0B66, 0x0BE6, 0x0C66, 0x0CE6,
   0x0D66, 0x0DE6, 0x0E50, 0x0ED0, 0x0F20, 0x1040, 0x1090, 0x17E0, 0x1810, 0x1946, 0x19D0, 0x1A80,
   0x1A90, 0x1B50, 0x1BB0, 0x1C40, 0x1C50, 0xA620, 0xA8D0, 0xA900, 0xA9D0, 0xA9F0, 0xAA50, 0xABF0,
   0xFF10, 0x104A0, 0x10D30, 0x11066, 0x110F0, 0x11136, 0x111D0, 0x112F0, 0x11450, 0x114D0,
   0x11650, 0x116C0, 0x11730, 0x118E0, 0x11950, 0x11C50, 0x11D50, 0x11DA0, 0x16A60, 0x16AC0,
   0x16B50, 0x1D7CE, 0x1D7D8, 0x1D7E2, 0x1D7EC, 0x1D7F6, 0x1E140, 0x1E2F0, 0x1E950, 0x1FBF0]

/-- The value of a decimal digit, `none` for every other code point. -/
def CodePoint.digit? (c : CodePoint) : Option Nat :=
  (Digit.zeros.find? fun first => first ≤ c.val && c.val ≤ first + 9).map (c.val - ·)

theorem CodePoint.digit?_le {c : CodePoint} {d : Nat} (h : c.digit? = some d) : d ≤ 9 := by
  obtain ⟨first, found, rfl⟩ := Option.map_eq_some_iff.1 h
  have := List.find?_some found
  simp only [Bool.and_eq_true, decide_eq_true_eq] at this
  omega

end Microclimate
