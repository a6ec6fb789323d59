import Microclimate.Text

/-!
# Blank code points

The code points that may surround a number: the five ASCII controls from tab to carriage return, the
space, and the blanks that Unicode adds beyond ASCII. The four ASCII separators U+001C to U+001F are
not among them.

* `Microclimate.CodePoint.isBlank` – the class;
* `Microclimate.Text.trim` – a text without the blanks at its two ends.
-/

namespace Microclimate

/-- Is this code point a blank? -/
def CodePoint.isBlank (c : CodePoint) : Bool :=
  let n := c.val
  (0x09 ≤ n && n ≤ 0x0D) || n == 0x20 || n == 0x85 || n == 0xA0 || n == 0x1680 ||
    (0x2000 ≤ n && n ≤ 0x200A) || n == 0x2028 || n == 0x2029 || n == 0x202F || n == 0x205F ||
    n == 0x3000

/-- A text without the blanks at its start and at its end. -/
def Text.trim (t : Text) : Text :=
  ⟨((t.points.dropWhile CodePoint.isBlank).reverse.dropWhile CodePoint.isBlank).reverse⟩

/-- Every blank of ASCII that is known to `Char.isWhitespace` is a blank here. -/
theorem CodePoint.isBlank_ofChar {c : Char} (h : c.isWhitespace = true) :
    (CodePoint.ofChar c).isBlank = true := by
  simp only [Char.isWhitespace, Bool.or_eq_true, decide_eq_true_eq] at h
  rcases h with ((rfl | rfl) | rfl) | rfl <;> decide

end Microclimate
