import Microclimate.Random.Source
import Microclimate.Scene

/-!
# Worlds

A world is a scene with the random source of its weather, an engine that drives it, and a memory of
what happened. What changes a world is a `Sim`: it may fail, and **the world is kept as the failure
leaves it**.

* `Microclimate.World` – the type, with `World.events`, what happened;
* `Microclimate.Sim` – what changes a world;
* `Microclimate.Sim.emit`, `Microclimate.Sim.integer`, `Microclimate.Sim.normal`,
  `Microclimate.Sim.dayOfYear`, … – the steps of which everything else is made.
-/

namespace Microclimate

/-- The weather of a map and all that it depends on. -/
structure World (γ : Type) extends Scene where
  /-- The random source of the weather, unless it shares that of the engine. -/
  random : γ
  /-- Does the weather share the random source of the engine? -/
  sharesRandom : Bool := false
  /-- The engine. -/
  engine : Engine γ
  /-- How often each actor was called. -/
  calls : List (ActorName × Nat) := []
  /-- What happened and how things stood then, oldest first. -/
  history : Array Moment := #[]
  /-- What was done to the running cycles, oldest first. -/
  ledger : Array Deed := #[]
  /-- What the cycles sent, oldest first. -/
  sent : Array Dispatch := #[]
  /-- The moves that were tried in the directory, oldest first. -/
  attempts : Array Attempt := #[]

/-- A change of a world that may fail. -/
abbrev Sim (γ : Type) := EStateM Fault (World γ)

/-- How the actors of a world respond to being called. -/
abbrev Reaction (γ : Type) := Call → Sim γ Unit

namespace World

variable {γ : Type}

/-- What happened, oldest first. -/
def events (w : World γ) : Array Event := w.history.map (·.event)

/-- The world with a cycle changed. -/
def editCycle (w : World γ) (id : CycleId) (f : Cycle → Cycle) : World γ :=
  { w with cycles := w.cycles.modify id.number f }

/-- The world with something more that happened. -/
def emit (w : World γ) (e : Event) : World γ :=
  { w with history := w.history.push ⟨e, w.toScene⟩ }

/-- The world with one more packet that a cycle sends. -/
def dispatch (w : World γ) (id : CycleId) (receiver : Receiver) (packet : Packet) : World γ :=
  { w with sent := w.sent.push ⟨id, receiver, packet, w.toScene⟩ }

/-- The world with something done to the running cycles. -/
def carryOut (w : World γ) (d : Deed) : World γ :=
  { w with
    manager := { w.manager with live := d.apply w.manager.live }
    ledger := w.ledger.push d }

/-- Whose source the weather draws from. -/
def weatherOwner (w : World γ) : Owner := if w.sharesRandom then .engine else .weather

/-- The source of an owner. -/
def source (w : World γ) : Owner → γ
  | .weather => w.random
  | .engine => w.engine.random

/-- The world with the source of an owner replaced. -/
def setSource (w : World γ) (owner : Owner) (g : γ) : World γ :=
  match owner with
  | .weather => { w with random := g }
  | .engine => { w with engine := { w.engine with random := g } }

/-- How often an actor was called. -/
def callsOf (w : World γ) (name : ActorName) : Nat :=
  ((w.calls.find? (·.1 = name)).map (·.2)).getD 0

/-- The world with one more call of an actor counted. -/
def countCall (w : World γ) (name : ActorName) : World γ :=
  { w with calls := (name, w.callsOf name + 1) :: w.calls.filter (·.1 ≠ name) }

end World

namespace Sim

variable {γ : Type}

/-- Lets something happen. -/
def emit (e : Event) : Sim γ Unit := modify (·.emit e)

/-- Logs something. -/
def log (r : Record) : Sim γ Unit := emit (.logged r)

/-- The cycle with some number. -/
def cycle (id : CycleId) : Sim γ Cycle := return (← get).cycle id

/-- Changes the cycle with some number. -/
def editCycle (id : CycleId) (f : Cycle → Cycle) : Sim γ Unit := modify (·.editCycle id f)

/-- Notes a packet that a cycle sends. -/
def dispatch (id : CycleId) (receiver : Receiver) (packet : Packet) : Sim γ Unit :=
  modify (·.dispatch id receiver packet)

/-- Keeps a new cycle. -/
def addCycle (c : Cycle) : Sim γ CycleId :=
  modifyGet fun w => (⟨w.cycles.size⟩, { w with cycles := w.cycles.push c })

/-- A result that may be a fault, as a step. -/
def lift {α : Type} : Except Fault α → Sim γ α
  | .ok a => pure a
  | .error f => throw f

/-- Makes sure that a value can be a key. -/
def requireKey (v : Value) : Sim γ Unit := if v.isKey then pure () else throw (.notAKey v)

/-- The day of the year by the game clock. -/
def dayOfYear : Sim γ Int := do lift (← get).clock.dayOfYear

/-- A draw from the source of an owner; whether it succeeds or fails, it is an event. -/
def draw {α : Type} (owner : Owner) (d : EStateM Fault γ α) (event : Option α → Event) : Sim γ α :=
  fun w =>
    match d (w.source owner) with
    | .ok a g => .ok a ((w.setSource owner g).emit (event (some a)))
    | .error f g => .error f ((w.setSource owner g).emit (event none))

variable [RandomSource γ]

/-- Draws an integer from the source of an owner. -/
def integerOf (owner : Owner) (low high : Int) : Sim γ Int :=
  draw owner (RandomSource.integer low high) (.integerDrawn owner low high)

/-- Draws a double with a normal distribution from the source of an owner. -/
def normalOf (owner : Owner) (mean spread : Float) : Sim γ Float :=
  draw owner (RandomSource.normal mean spread) (.normalDrawn owner mean spread)

/-- Draws an integer for the weather. -/
def integer (low high : Int) : Sim γ Int := do integerOf (← get).weatherOwner low high

/-- Draws a double with a normal distribution for the weather. -/
def normal (mean spread : Float) : Sim γ Float := do normalOf (← get).weatherOwner mean spread

/-- How many draws for the weather may be rejected in a row. -/
def patience : Sim γ Nat := do
  let w ← get
  return RandomSource.patience (w.source w.weatherOwner)

end Sim

end Microclimate
