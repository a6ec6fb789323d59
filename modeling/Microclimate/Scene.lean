import Microclimate.Clock
import Microclimate.Event
import Microclimate.Hooks
import Microclimate.Manager

/-!
# Scenes

A scene is the weather of a map at one moment, together with what shapes it: who is where, what
delivers packets, who listens, and what the clock shows. A moment is an event with the scene in
which it happened, and a dispatch is a packet that a cycle sends, with the scene in which it does.

Cycles are never forgotten. The manager only says which of them are running; a cycle that was
dropped or replaced can still be at work further up, in a call that is not finished.

* `Microclimate.Scene`, `Microclimate.Moment`, `Microclimate.Dispatch` – the types;
* `Microclimate.Scene.cycle` – a cycle by its number;
* `Microclimate.Scene.running` – the running cycles, with the zones under which they run.
-/

namespace Microclimate

/-- What delivers packets to zones. -/
inductive Messenger where
  /-- The members of the zone in the directory receive them. -/
  | directory
  /-- They are only noted; `reaches` says whether anybody counts as reached. -/
  | recorder (reaches : Bool)
  deriving DecidableEq, Inhabited, Repr

/-- What delivers packets, once it was said whether anybody counts as reached. It is the members of
a zone who decide that of a delivery through the directory, so nothing changes there. -/
def Messenger.pretend (reaches : Bool) : Messenger → Messenger
  | directory => directory
  | recorder _ => recorder reaches

/-- The weather of a map at one moment and what shapes it. -/
structure Scene where
  /-- All cycles that ever were, by number. -/
  cycles : Array Cycle := #[]
  /-- A cycle that belongs to no manager. -/
  loneCycle : Option CycleId := none
  /-- The manager. -/
  manager : Manager := {}
  /-- Who is in which zone. -/
  directory : Directory := {}
  /-- What delivers packets. -/
  messenger : Messenger := .directory
  /-- The listeners. -/
  hooks : Hooks := {}
  /-- The game clock. -/
  clock : Clock := .fixed 350
  deriving Inhabited

/-- An event with the scene in which it happened. -/
structure Moment where
  /-- What happened. -/
  event : Event
  /-- How things stood. -/
  scene : Scene

/-- To whom a cycle sends a packet. -/
inductive Receiver where
  /-- To all who are in a zone. -/
  | zone (zone : Value)
  /-- To a single observer. -/
  | observer (name : ActorName)

/-- A packet that a cycle sends, with the scene in which it does. -/
structure Dispatch where
  /-- The cycle. -/
  sender : CycleId
  /-- To whom it sends the packet. -/
  receiver : Receiver
  /-- The packet. -/
  packet : Packet
  /-- How things stood. -/
  scene : Scene

namespace Scene

/-- A cycle by its number; a number that was not given out yet has a cycle without anything. -/
def cycle (s : Scene) (id : CycleId) : Cycle := s.cycles.getD id.number default

/-- The zone of a cycle, if there is one. -/
def zoneOf (s : Scene) (id : Option CycleId) : Value :=
  match id with
  | some id => (s.cycle id).zone
  | none => .null

/-- The running cycles, each with the zone under which it runs, in the order of their entries. -/
def running (s : Scene) : List (Value × Cycle) :=
  s.manager.live.entries.map fun (zone, id) => (zone, s.cycle id)

end Scene

end Microclimate
