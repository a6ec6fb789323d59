import Microclimate.Directory
import Microclimate.Exact
import Microclimate.Fault

/-!
# Engines

An engine makes ticks at a fixed rate. At each tick it calls its systems in turn; before the first
and after the last tick of a run it calls its hooks.

* `Microclimate.Engine` – the type;
* `Microclimate.Engine.tickLength` – the length of a tick in whole milliseconds;
* `Microclimate.TickContext` – what a system is told.
-/

namespace Microclimate

/-- Something that an engine calls. -/
inductive System where
  /-- Advances the game clock by the length of a tick. -/
  | clock
  /-- Updates the weather by the length of a tick. -/
  | weather
  /-- An actor. -/
  | actor (name : ActorName)
  /-- Works on a part that is not there. -/
  | lacking (part : Part)
  deriving DecidableEq, Inhabited, Repr

/-- What a system is told when it is called. -/
structure TickContext where
  /-- The number of the tick. -/
  tick : Int
  /-- The length of a tick in milliseconds. -/
  tickLength : Int
  /-- The length of all ticks so far in milliseconds. -/
  elapsed : Int
  deriving DecidableEq, Inhabited, Repr

/-- The number of ticks in a second, unless another one is given. -/
def standardTps : Int := 20

theorem standardTps_pos : 0 < standardTps := by decide

/-- An engine. -/
structure Engine (γ : Type) where
  /-- The number of ticks in a second. -/
  tps : Int := standardTps
  /-- The rate is positive. -/
  tps_pos : 0 < tps
  /-- The number of ticks made. -/
  tick : Int := 0
  /-- What is called at each tick. -/
  systems : List System := []
  /-- What is called when a run starts. -/
  startHooks : List System := []
  /-- What is called when a run ends. -/
  stopHooks : List System := []
  /-- Was the engine asked to stop? -/
  stopRequested : Bool := false
  /-- The seed, if it was given. -/
  seed : Option Int := none
  /-- The random source of the engine. -/
  random : γ

namespace Engine

variable {γ : Type}

/-- The length of a tick in milliseconds: a thousand divided by the rate as doubles, rounded to the
nearest integer, a half to the even one. -/
def lengthOf (tps : Int) : Int :=
  match Exact.ofFloat (1000.0 / Float.ofInt tps) with
  | .real q => roundHalfEven q
  | _ => 0

/-- The length of a tick in milliseconds. -/
def tickLength (e : Engine γ) : Int := lengthOf e.tps

/-- What systems are told at present. -/
def context (e : Engine γ) : TickContext := ⟨e.tick, e.tickLength, e.tick * e.tickLength⟩

/-- An engine of some rate, if that is positive. -/
def create (tps : Int) (seed : Option Int) (random : γ) : Except Fault (Engine γ) :=
  if positive : 0 < tps then .ok { tps := tps, tps_pos := positive, seed := seed, random := random }
  else .error .rateNotPositive

end Engine

end Microclimate
