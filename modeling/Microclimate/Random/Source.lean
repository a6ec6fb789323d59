import Microclimate.Fault

/-!
# Random sources

Weather is drawn from a source of integers in a range and of normally distributed doubles. What the
source is does not matter to the weather; it may also fail.

* `Microclimate.RandomSource` – a type whose values can be drawn from.
-/

namespace Microclimate

/-- A type whose values can be drawn from. A draw changes the source, also when it fails. -/
class RandomSource (γ : Type) where
  /-- Draws an integer from `low` to `high`, both included. -/
  integer : (low high : Int) → EStateM Fault γ Int
  /-- Draws a double with a normal distribution of some mean and spread. -/
  normal : (mean spread : Float) → EStateM Fault γ Float
  /-- How many draws one is ready to reject in a row before giving up. -/
  patience : γ → Nat

end Microclimate
