import Microclimate.Cycle.Update

/-!
# Running the weather of a map

The manager starts the weather of a zone when it is asked for, if the zone can have weather, and
drops it once an update finds that nobody was there to be told of a change.

* `Microclimate.Manager.add`, `Microclimate.Manager.getOrCreate` – starting the weather of a zone;
* `Microclimate.Manager.update` – lets time pass for all running cycles;
* `Microclimate.Manager.observerEntered`, `Microclimate.Manager.setZoneWeather` – requests from
  outside.
-/

namespace Microclimate

namespace Manager

variable {γ : Type}

/-- Does something to the running cycles. -/
def carryOut (d : Deed) : Sim γ Unit := modify (·.carryOut d)

/-- The running cycle of a zone. -/
def find (zone : Value) : Sim γ (Option CycleId) := do
  Sim.requireKey zone
  return (← get).manager.find? zone

/-- The chances of a zone. -/
def chances (zone : Value) : Sim γ (Option SeasonTable) := do
  Sim.requireKey zone
  return (← get).manager.chances? zone

/-- Stops the weather of a zone, if it is running. While no weather is running anywhere there is
nothing to stop, and the zone need not even be a key. -/
def remove (zone : Value) : Sim γ Unit := do
  if (← get).manager.live.entries.isEmpty then
    return
  else
    Sim.requireKey zone
    carryOut (.stop zone)

/-- Drops the cycle that runs under a zone, because the one that `reporter` names reported that
nobody was reached. -/
def discardZone (zone : Value) (reporter : CycleId) : Sim γ Unit := do
  Sim.log (.removing zone)
  if ((← get).manager.find? zone).isSome then carryOut (.drop zone reporter)
  else throw (.notRegistered zone)

variable [RandomSource γ]

/-- Starts the weather of a zone anew; nothing if the zone has no chances. The cycle is running
before its first weather is rolled. -/
def add (zone : Value) : Sim γ (Option CycleId) := do
  match ← chances zone with
  | none => return none
  | some table =>
    let id ← CycleId.create zone (some table) (← get).manager.config.changeInterval
    carryOut (.start zone id)
    discard id.regenerate
    return some id

/-- The running cycle of a zone, started if need be. -/
def getOrCreate (zone : Value) : Sim γ (Option CycleId) := do
  match ← find zone with
  | some id => return some id
  | none => add zone

/-- Updates cycles one after the other, each with the zone under which it was running, and drops
those that are of no more use. -/
def updateEach (react : Reaction γ) (diff : Int) : List (Value × CycleId) → Sim γ Unit
  | [] => return
  | (zone, id) :: rest => do
    if ← id.update react diff then updateEach react diff rest
    else
      discardZone zone id
      updateEach react diff rest

/-- **Lets time pass** for all cycles that are running when it begins. -/
def update (react : Reaction γ) (diff : Int) : Sim γ Unit := do
  updateEach react diff (← get).manager.live.entries

/-- Tells an observer who came into a zone about its weather. -/
def observerEntered (react : Reaction γ) (observer : ActorName) (zone : Value) : Sim γ Unit := do
  match ← getOrCreate zone with
  | some id => id.sendTo react observer
  | none => CycleId.sendFineTo react observer

/-- Forces the weather of a zone; `false` if the zone can have none. -/
def setZoneWeather (react : Reaction γ) (zone : Value) (kind : WeatherKind) (intensity : Float)
    (trigger : Bool) : Sim γ Bool := do
  match ← getOrCreate zone with
  | some id =>
    id.setWeather react kind intensity trigger
    return true
  | none => return false

end Manager

end Microclimate
