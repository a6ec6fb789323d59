import Microclimate.World

/-!
# Delivery

Somebody who goes into a zone leaves the zone before. They leave it in any case, also when the new
zone turns out to be no key.

Packets go to the members of a zone and notifications to the listeners, one after the other, while
the actors who receive them may change the world. Whom to call is settled when delivery starts: who
joins later is not called, and who leaves meanwhile is called all the same.

* `Microclimate.Move.carryOut` – a move in the directory of a world;
* `Microclimate.Directory.enter` – going into a zone;
* `Microclimate.Directory.send` – a packet to all who are in a zone;
* `Microclimate.Messenger.send` – the same, by whatever delivers packets;
* `Microclimate.Hooks.notifyTicked`, `Microclimate.Hooks.notifyChanged` – to all listeners.
-/

namespace Microclimate

variable {γ : Type}

/-- Makes a move in the directory of a world. One that fails leaves the directory as it has
become. -/
def Move.carryOut (m : Move) : Sim γ Unit := fun w =>
  match m.make w.directory with
  | .ok _ d => .ok () { w with directory := d, attempts := w.attempts.push ⟨m, none⟩ }
  | .error f d => .error f { w with directory := d, attempts := w.attempts.push ⟨m, some f⟩ }

/-- Lets an observer go into a zone, out of the one where they are. -/
def Directory.enter (observer : ActorName) (zone : Value) : Sim γ Unit := do
  (Move.out observer).carryOut
  Sim.requireKey zone
  (Move.into observer zone).carryOut

/-- Delivers a packet to all who are in a zone; was there anybody? -/
def Directory.send (react : Reaction γ) (zone : Value) (packet : Packet) : Sim γ Bool := do
  Sim.requireKey zone
  let observers := (← get).directory.observers zone
  observers.forM fun observer => react (.packet observer packet)
  return !observers.isEmpty

/-- Delivers a packet to a zone; was anybody reached? -/
def Messenger.send (react : Reaction γ) (zone : Value) (packet : Packet) : Sim γ Bool := do
  match (← get).messenger with
  | .directory => Directory.send react zone packet
  | .recorder reaches =>
    Sim.emit (.handed zone packet reaches)
    return reaches

/-- Tells all listeners of an update. -/
def Hooks.notifyTicked (react : Reaction γ) (cycle : Option CycleId) (diff : Int) :
    Sim γ Unit := do
  (← get).hooks.ticked.forM fun listener => react (.ticked listener cycle diff)

/-- Tells all listeners of a change. -/
def Hooks.notifyChanged (react : Reaction γ) (cycle : Option CycleId) (state : WeatherState)
    (intensity : Float) : Sim γ Unit := do
  (← get).hooks.changed.forM fun listener => react (.changed listener cycle state intensity)

end Microclimate
