import Microclimate.Cycle
import Microclimate.Engine
import Microclimate.Record

/-!
# Events

Everything that can be observed from outside is an event, and events are kept in the order in which
they happen.

* `Microclimate.Event` – what can happen;
* `Microclimate.Call` – how an actor is called, with `Call.actor`, who is called.
-/

namespace Microclimate

/-- Whose random source is drawn from. -/
inductive Owner where
  /-- That of the weather. -/
  | weather
  /-- That of the engine. -/
  | engine
  deriving DecidableEq, Inhabited, Repr

/-- A call of an actor. -/
inductive Call where
  /-- An observer is told about the weather. -/
  | packet (observer : ActorName) (packet : Packet)
  /-- A listener hears of an update of a cycle, or of none. -/
  | ticked (listener : ActorName) (cycle : Option CycleId) (diff : Int)
  /-- A listener hears of a change of the weather of a cycle, or of none. -/
  | changed (listener : ActorName) (cycle : Option CycleId) (state : WeatherState)
      (intensity : Float)
  /-- A system or a hook of an engine is called. -/
  | tick (system : ActorName) (context : TickContext)

/-- Who is called. -/
def Call.actor : Call → ActorName
  | packet name _ | ticked name .. | changed name .. | tick name _ => name

/-- Is the actor called by an engine? -/
def Call.isTick : Call → Bool
  | tick .. => true
  | _ => false

/-- Something that happened. -/
inductive Event where
  /-- Something was logged. -/
  | logged (record : Record)
  /-- An integer was drawn, or could not be. -/
  | integerDrawn (owner : Owner) (low high : Int) (answer : Option Int)
  /-- A double with a normal distribution was drawn, or could not be. -/
  | normalDrawn (owner : Owner) (mean spread : Float) (answer : Option Float)
  /-- A messenger that only takes notes was handed a packet. -/
  | handed (zone : Value) (packet : Packet) (reached : Bool)
  /-- An observer received a packet. -/
  | packet (observer : ActorName) (packet : Packet)
  /-- A listener heard of an update. -/
  | ticked (listener : ActorName) (zone : Value) (diff : Int)
  /-- A listener heard of a change. -/
  | changed (listener : ActorName) (zone : Value) (state : WeatherState) (intensity : Float)
  /-- An actor was called by an engine. -/
  | tick (system : ActorName) (context : TickContext)
  /-- An actor drew an integer. -/
  | actorInteger (n : Int)
  /-- An actor drew a double. -/
  | actorNormal (x : Float)

end Microclimate
