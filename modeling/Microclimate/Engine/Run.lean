import Microclimate.Manager.Update

/-!
# Running an engine

A tick calls the systems in turn, up to the one after which a stop is requested. A run calls its
start hooks, then makes ticks until it has made all of them or a stop was requested, then calls its
stop hooks. A request from before the run counts for nothing, and one from a start hook lets the
first tick begin.

The lists of systems and hooks are looked at one place after the other, so what is appended to a
list while it is being passed through is called in the same pass. Passes that never end are cut off
after a number of `rounds`.

* `Microclimate.Engine.step`, `Microclimate.Engine.run`, `Microclimate.Engine.runForever`.
-/

namespace Microclimate

variable {γ : Type} [RandomSource γ]

/-- Calls a system. -/
def System.call (react : Reaction γ) (context : TickContext) : System → Sim γ Unit
  | clock => do
    let c ← Sim.lift ((← get).clock.advance context.tickLength)
    modify fun w => { w with clock := c }
  | weather => Manager.update react context.tickLength
  | actor name => react (.tick name context)
  | lacking part => throw (.absent part)

namespace Engine

/-- Changes the engine of a world. -/
def edit (f : Engine γ → Engine γ) : Sim γ Unit :=
  modify fun w => { w with engine := f w.engine }

/-- Was the engine asked to stop? -/
def isStopping : Sim γ Bool := return (← get).engine.stopRequested

/-- Sets whether the engine was asked to stop. -/
def setStopping (b : Bool) : Sim γ Unit := edit fun e => { e with stopRequested := b }

/-- Calls what stands in a list of the engine from some place on; with `stoppable`, only up to the
call after which a stop is requested. -/
def callFrom (react : Reaction γ) (list : Engine γ → List System) (stoppable : Bool)
    (context : TickContext) : (rounds place : Nat) → Sim γ Unit
  | 0, _ => throw .unending
  | rounds + 1, place => do
    match (list (← get).engine)[place]? with
    | none => return
    | some system =>
      system.call react context
      if stoppable && (← isStopping) then return
      else callFrom react list stoppable context rounds (place + 1)

/-- Makes a tick. -/
def makeTick (react : Reaction γ) (rounds : Nat) : Sim γ Unit := do
  edit fun e => { e with tick := e.tick + 1 }
  let context := (← get).engine.context
  callFrom react Engine.systems true context rounds 0

/-- Calls the hooks of a list. -/
def fire (react : Reaction γ) (rounds : Nat) (hooks : Engine γ → List System) : Sim γ Unit := do
  let context := (← get).engine.context
  callFrom react hooks false context rounds 0

/-- Makes a single tick. -/
def step (react : Reaction γ) (rounds : Nat) : Sim γ Unit := do
  setStopping false
  makeTick react rounds

/-- Makes some ticks, fewer if a stop is requested. -/
def makeTicks (react : Reaction γ) (rounds : Nat) : (count : Nat) → Sim γ Unit
  | 0 => return
  | count + 1 => do
    makeTick react rounds
    if ← isStopping then return else makeTicks react rounds count

/-- Makes ticks until a stop is requested. -/
def makeTicksForever (react : Reaction γ) (rounds : Nat) : (left : Nat) → Sim γ Unit
  | 0 => throw .unending
  | left + 1 => do
    if ← isStopping then return
    else
      makeTick react rounds
      makeTicksForever react rounds left

/-- **A run of some ticks.** -/
def run (react : Reaction γ) (rounds : Nat) (count : Int) : Sim γ Unit := do
  setStopping false
  fire react rounds Engine.startHooks
  makeTicks react rounds count.toNat
  fire react rounds Engine.stopHooks

/-- **A run until a stop is requested.** -/
def runForever (react : Reaction γ) (rounds : Nat) : Sim γ Unit := do
  setStopping false
  fire react rounds Engine.startHooks
  makeTicksForever react rounds rounds
  fire react rounds Engine.stopHooks

end Engine

end Microclimate
