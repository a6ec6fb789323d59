import Microclimate.Cycle.Regeneration
import Microclimate.Delivery

/-!
# Updating and broadcasting the weather

An update lets time pass on the timer of a cycle. When the interval has elapsed the weather is
rolled, and if it changed the zone is told. A cycle whose zone holds nobody to be told has come to
its end.

The state of a packet is settled before it is sent. The notification that follows carries that state
with the intensity that the cycle has **then**, for the actors who received the packet may have
changed it.

* `Microclimate.CycleId.broadcast` – tells the zone, and then the listeners; was anybody reached?
* `Microclimate.CycleId.setWeather` – forces some weather and tells the zone;
* `Microclimate.CycleId.update` – lets time pass; is the cycle still of use?
* `Microclimate.CycleId.create` – a new cycle.
-/

namespace Microclimate

namespace CycleId

variable {γ : Type}

/-- Starts a cycle for a zone, in fine weather. -/
def create (zone : Value) (table : Option SeasonTable) (interval : Int) : Sim γ CycleId := do
  let id ← Sim.addCycle { zone := zone, table := table, timer := { interval := interval } }
  Sim.log (.starting zone interval)
  return id

/-- Tells the zone of a cycle about its weather, and the listeners if `trigger` says so; was anybody
in the zone? -/
def broadcast (react : Reaction γ) (id : CycleId) (trigger : Bool) : Sim γ Bool := do
  Sim.editCycle id Cycle.clamp
  let c ← Sim.cycle id
  Sim.dispatch id (.zone c.zone) c.packet
  if ← Messenger.send react c.zone c.packet then
    Sim.log (.changed c.zone c.state)
    if trigger then
      Hooks.notifyChanged react (some id) c.state (← Sim.cycle id).intensity
    return true
  else
    return false

/-- Forces some weather at once. Nothing happens if it is the present weather. -/
def setWeather (react : Reaction γ) (id : CycleId) (kind : WeatherKind) (intensity : Float)
    (trigger : Bool) : Sim γ Unit := do
  let c ← Sim.cycle id
  if c.kind = kind && c.intensity == intensity then
    return
  else
    Sim.editCycle id (·.withWeather kind intensity)
    discard (id.broadcast react trigger)

/-- Tells a single observer about the weather of a cycle. -/
def sendTo (react : Reaction γ) (id : CycleId) (observer : ActorName) : Sim γ Unit := do
  let c ← Sim.cycle id
  Sim.dispatch id (.observer observer) c.packet
  react (.packet observer c.packet)

/-- Tells a single observer of a clear sky. -/
def sendFineTo (react : Reaction γ) (observer : ActorName) : Sim γ Unit :=
  react (.packet observer .fine)

/-- Lets time pass on the timer; a timer that stands below zero only starts afresh. -/
def passTime (id : CycleId) (diff : Int) : Sim γ Unit :=
  Sim.editCycle id fun c =>
    { c with timer := if 0 ≤ c.timer.current then c.timer.advance diff else c.timer.reset }

variable [RandomSource γ]

/-- Rolls the weather if the interval has elapsed, and tells the zone if it changed; `false` if
nobody was there to be told. -/
def changeWhenDue (react : Reaction γ) (id : CycleId) : Sim γ Bool := do
  if (← Sim.cycle id).timer.passed then
    Sim.editCycle id fun c => { c with timer := c.timer.reset }
    if ← id.regenerate then
      id.broadcast react true
    else
      return true
  else
    return true

/-- **Lets time pass** for a cycle; `false` if it should be dropped, because nobody was there to be
told of a change. -/
def update (react : Reaction γ) (id : CycleId) (diff : Int) : Sim γ Bool := do
  id.passTime diff
  if ← id.changeWhenDue react then
    Hooks.notifyTicked react (some id) diff
    return true
  else
    return false

end CycleId

end Microclimate
