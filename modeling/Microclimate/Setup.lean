import Microclimate.Actor
import Microclimate.Chances.Checked

/-!
# Setting up a world

A plan says which parts a world has and what they start with. The parts are made in a fixed order –
engine, clock, random source, messenger, the cycle that belongs to no manager, manager – and the
first one that cannot be made decides how making the world fails.

* `Microclimate.Plan` – the parts;
* `Microclimate.Plan.build` – makes the parts;
* `Microclimate.Plan.stage` – which parts are lacking.
-/

namespace Microclimate

/-- The world in which nothing was made yet. -/
def World.blank {γ : Type} [Inhabited γ] : World γ :=
  { random := default, engine := { tps_pos := standardTps_pos, random := default } }

/-- An engine to be made. -/
structure EnginePlan (γ : Type) where
  /-- The number of ticks in a second. -/
  tps : Int := standardTps
  /-- The seed, if it is given. -/
  seed : Option Int := none
  /-- The random source. -/
  random : γ

/-- The random source that the weather is to have. -/
inductive SourcePlan (γ : Type) where
  /-- A source of its own. -/
  | own (random : γ)
  /-- That of the engine. -/
  | engine

/-- A cycle to be made. -/
structure CyclePlan where
  /-- The zone. -/
  zone : Value
  /-- The chances in the seasons, if the zone has any. -/
  table : Option (List Chances)
  /-- The time between two attempts to change the weather, in milliseconds. -/
  interval : Int

/-- A manager to be made. -/
structure ManagerPlan where
  /-- The zones with their chances in the seasons. -/
  data : List (Value × List Chances)
  /-- The settings, if they are given. -/
  config : Option Config.Draft := none

/-- A world to be made. -/
structure Plan (γ : Type) where
  /-- The engine, if there is to be one. -/
  engine : Option (EnginePlan γ) := none
  /-- The clock. -/
  clock : Clock := .fixed 350
  /-- The random source of the weather. -/
  source : SourcePlan γ
  /-- Are there hooks? -/
  hooks : Bool := true
  /-- What delivers packets. -/
  messenger : Messenger := .directory
  /-- The cycle that belongs to no manager, if there is to be one. -/
  cycle : Option CyclePlan := none
  /-- The manager, if there is to be one. -/
  manager : Option ManagerPlan := none

namespace ManagerPlan

/-- The chances by zone. Of several entries for one zone the last one counts, at the place of the
first. -/
def table (before : Table SeasonTable) :
    List (Value × List Chances) → Except Fault (Table SeasonTable)
  | [] => .ok before
  | (zone, rows) :: rest => do
    let chances ← SeasonTable.ofList rows
    if zone.isKey then table (before.insert zone chances) rest else throw (.notAKey zone)

/-- The configuration. -/
def settings (p : ManagerPlan) : Except Fault Config :=
  match p.config with
  | some draft => Config.check draft
  | none => .ok .standard

/-- The manager of a plan. -/
def manager (p : ManagerPlan) : Except Fault Manager := do
  let data ← table .empty p.data
  let config ← p.settings
  return { data := data, config := config }

end ManagerPlan

namespace Plan

variable {γ : Type}

/-- The parts that the world will lack. -/
def lacking (p : Plan γ) : List Part :=
  (if p.engine.isNone then [.engine] else []) ++ (if p.hooks then [] else [.hooks]) ++
    (if p.manager.isNone then [.manager] else [])

/-- The stage for a world of this plan. -/
def stage (p : Plan γ) (now : Float) : Stage := { lacking := p.lacking, now := now }

/-- Makes the engine. -/
def buildEngine (p : Plan γ) : Sim γ Unit := do
  match p.engine with
  | none => return
  | some e =>
    let engine ← Sim.lift (Engine.create e.tps e.seed e.random)
    modify fun w => { w with engine := engine }

/-- Makes the random source of the weather. -/
def buildSource (p : Plan γ) : Sim γ Unit :=
  match p.source with
  | .own random => modify fun w => { w with random := random }
  | .engine =>
    if p.engine.isNone then throw (.absent .engine)
    else modify fun w => { w with sharesRandom := true }

/-- Makes the cycle that belongs to no manager. -/
def buildCycle (p : Plan γ) : Sim γ Unit := do
  match p.cycle with
  | none => return
  | some c =>
    let table ← Sim.lift (c.table.mapM SeasonTable.ofList)
    let id ← CycleId.create c.zone table c.interval
    modify fun w => { w with loneCycle := some id }

/-- Makes the manager. -/
def buildManager (p : Plan γ) : Sim γ Unit := do
  match p.manager with
  | none => return
  | some m =>
    let manager ← Sim.lift m.manager
    modify fun w => { w with manager := manager }

/-- **Makes a world**, out of one in which nothing was made yet. -/
def build (p : Plan γ) : Sim γ Unit := do
  p.buildEngine
  modify fun w => { w with clock := p.clock }
  p.buildSource
  modify fun w => { w with messenger := p.messenger }
  p.buildCycle
  p.buildManager

end Plan

end Microclimate
