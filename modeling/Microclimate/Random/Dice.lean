import Microclimate.Random.Script
import Microclimate.Random.Twister

/-!
# Dice

Dice are either loaded with a script or thrown honestly by a seeded generator.

* `Microclimate.Dice` – the two sorts of dice, with their `RandomSource` instance.
-/

namespace Microclimate

/-- A source that is either scripted or seeded. -/
inductive Dice where
  /-- Dice that follow a script. -/
  | scripted (s : Script)
  /-- Dice of a seeded generator. -/
  | seeded (t : Twister)
  deriving Inhabited

namespace Dice

/-- A draw, from whichever sort of dice it is. -/
def draw {α : Type} (script : EStateM Fault Script α) (twister : EStateM Fault Twister α) :
    EStateM Fault Dice α := fun d =>
  match d with
  | scripted s =>
    match script s with
    | .ok a s => .ok a (scripted s)
    | .error f s => .error f (scripted s)
  | seeded t =>
    match twister t with
    | .ok a t => .ok a (seeded t)
    | .error f t => .error f (seeded t)

instance : RandomSource Dice where
  integer low high := draw (RandomSource.integer low high) (RandomSource.integer low high)
  normal mean spread := draw (RandomSource.normal mean spread) (RandomSource.normal mean spread)
  patience
    | scripted s => RandomSource.patience s
    | seeded t => RandomSource.patience t

/-- Dice that follow a new script; seeded dice cannot be loaded. -/
def load? (s : Script) : Dice → Option Dice
  | scripted _ => some (scripted s)
  | seeded _ => none

/-- Dice whose script goes on; seeded dice have none. -/
def extend? (more : Script) : Dice → Option Dice
  | scripted s => some (scripted (s.extend more))
  | seeded _ => none

end Dice

end Microclimate
