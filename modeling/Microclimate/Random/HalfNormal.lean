import Microclimate.World

/-!
# Light-biased intensities

An intensity is the distance from zero of a normally distributed double, drawn again until it lies
below one. Small values are the likely ones.

* `Microclimate.HalfNormal.spread` – the spread of the distribution;
* `Microclimate.HalfNormal.draw` – an intensity in [0, 1).
-/

namespace Microclimate

namespace HalfNormal

variable {γ : Type} [RandomSource γ]

/-- The spread of the normal distribution. -/
def spread : Float := 0.4

/-- Draws until a value lies below one, at most some number of times. -/
def drawWithin : (tries : Nat) → Sim γ Float
  | 0 => throw .drawsUnending
  | tries + 1 => do
    let x ← Sim.normal 0.0 spread
    if x.abs < 1.0 then return x.abs else drawWithin tries

/-- An intensity in [0, 1). -/
def draw : Sim γ Float := do drawWithin (← Sim.patience)

end HalfNormal

end Microclimate
