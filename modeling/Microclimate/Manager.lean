import Microclimate.Config
import Microclimate.Cycle

/-!
# Managers

A manager owns the weather of the zones of one map. It knows the chances of the zones that can have
weather, and for each zone whose weather is running, the cycle.

What becomes of the running cycles is a sequence of deeds: weather is started, stopped on request,
or dropped on the report of a cycle that nobody was reached.

* `Microclimate.Manager` – the type;
* `Microclimate.Manager.zones` – the zones whose weather is running;
* `Microclimate.Deed` – what can be done to the running cycles.
-/

namespace Microclimate

/-- The weather of the zones of one map. -/
structure Manager where
  /-- The chances of the zones that can have weather. -/
  data : Table SeasonTable := .empty
  /-- The configuration. -/
  config : Config := .standard
  /-- The running cycles. -/
  live : Table CycleId := .empty
  deriving Inhabited

/-- Something that is done to the running cycles. -/
inductive Deed where
  /-- The weather of a zone is started, in the place of the cycle that runs there, if one does. -/
  | start (zone : Value) (id : CycleId)
  /-- The weather of a zone is stopped on request. -/
  | stop (zone : Value)
  /-- The weather of a zone is dropped because a cycle reported that nobody was reached. -/
  | drop (zone : Value) (reporter : CycleId)

/-- The running cycles once something was done to them. -/
def Deed.apply : Deed → Table CycleId → Table CycleId
  | start zone id, live => live.insert zone id
  | stop zone, live => live.erase zone
  | drop zone _, live => live.erase zone

namespace Manager

/-- The zones whose weather is running, in the order of their entries. -/
def zones (m : Manager) : List Value := m.live.keys

/-- The chances of a zone. -/
def chances? (m : Manager) (zone : Value) : Option SeasonTable := m.data.find? zone

/-- The running cycle of a zone. -/
def find? (m : Manager) (zone : Value) : Option CycleId := m.live.find? zone

end Manager

end Microclimate
