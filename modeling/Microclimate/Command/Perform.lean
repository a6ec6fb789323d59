import Microclimate.Command
import Microclimate.Engine.Run

/-!
# Carrying out commands

A command is carried out on a world with the help of the actors, who may be called on the way. What
is asked of a part that the world lacks fails.

* `Microclimate.Stage` – what is fixed while commands are carried out;
* `Microclimate.Command.perform` – carrying out a command.
-/

namespace Microclimate

/-- What is fixed while commands are carried out. -/
structure Stage where
  /-- The parts that the world lacks. -/
  lacking : List Part := []
  /-- The present, in seconds since the start of 1970. -/
  now : Float := 0.0
  /-- How long a list of systems or hooks, and a run without an end, may become. -/
  rounds : Nat := 1000000

namespace Stage

variable {γ : Type}

/-- Makes sure that a part is there. -/
def require (stage : Stage) (part : Part) : Sim γ Unit :=
  if part ∈ stage.lacking then throw (.absent part) else pure ()

/-- A system as it is wired up on a stage: one that works on a part needs that part. -/
def wire (stage : Stage) : System → System
  | .weather => if .manager ∈ stage.lacking then .lacking .manager else .weather
  | system => system

end Stage

variable {γ : Type}

/-- A cycle as it is now. -/
def CycleId.show (id : Option CycleId) : Sim γ Reply := do
  match id with
  | some id => return .cycle (some (← Sim.cycle id))
  | none => return .cycle none

/-- The cycle that a command names. -/
def CycleName.find (stage : Stage) : CycleName → Sim γ (Option CycleId)
  | lone => return (← get).loneCycle
  | running zone => do
    stage.require .manager
    Manager.find zone

/-- A cycle with kind, intensity and elapsed time replaced where they are given. -/
def Cycle.assign (c : Cycle) (kind : Option WeatherKind) (intensity : Option Float)
    (elapsed : Option Int) : Cycle :=
  { c with
    kind := kind.getD c.kind
    intensity := intensity.getD c.intensity
    timer := { c.timer with current := elapsed.getD c.timer.current } }

/-- Carries out what is asked of the hooks. -/
def HooksCommand.perform (react : Reaction γ) : HooksCommand → Sim γ Reply
  | onTicked listener => edit (·.onTicked listener)
  | onChanged listener => edit (·.onChanged listener)
  | unsubscribe listener => edit (·.unsubscribe listener)
  | clear => edit (·.clear)
  | notifyTicked diff => do
    Hooks.notifyTicked react (← get).loneCycle diff
    return .done
  | notifyChanged state intensity => do
    Hooks.notifyChanged react (← get).loneCycle state intensity
    return .done
where
  /-- Changes the hooks. -/
  edit (f : Hooks → Hooks) : Sim γ Reply := do
    modify fun w => { w with hooks := f w.hooks }
    return .done

/-- Carries out what is asked of the directory. -/
def DirectoryCommand.perform : DirectoryCommand → Sim γ Reply
  | enter observer zone => do
    Directory.enter observer zone
    return .done
  | leave observer => do
    (Move.out observer).carryOut
    return .done
  | zoneOf observer => return .zone ((← get).directory.zoneOf? observer)
  | observers zone => do
    Sim.requireKey zone
    return .observers ((← get).directory.observers zone)

/-- Carries out what is asked of whatever delivers packets. -/
def MessengerCommand.perform (react : Reaction γ) : MessengerCommand → Sim γ Reply
  | send zone packet => return .flag (← Messenger.send react zone packet)
  | pretend reaches => do
    modify fun w => { w with messenger := w.messenger.pretend reaches }
    return .done

/-- Is a time within a minute of another one? -/
def ClockCommand.near (time other : Float) : Bool := (time - other).abs ≤ 60.0

/-- Carries out what is asked of the clock. -/
def ClockCommand.perform (now : Float) : ClockCommand → Sim γ Reply
  | advance diff => do
    let clock ← Sim.lift ((← get).clock.advance diff)
    setClock clock
    return .time (← time)
  | setTime seconds => do
    discard time
    setClock (.running seconds)
    return .done
  | setDay n => do
    setClock ((← get).clock.setDay n)
    return .done
  | day => return .number (← Sim.dayOfYear)
  | season => do
    discard time
    return .season (Season.ofDay (← Sim.dayOfYear))
  | isNow => return .flag (near (← time) now)
where
  /-- Replaces the clock. -/
  setClock (clock : Clock) : Sim γ Unit := modify fun w => { w with clock := clock }
  /-- The time that the clock shows. -/
  time : Sim γ Float := do
    match (← get).clock with
    | .running time => return time
    | .fixed _ => throw (.absent .runningClock)

variable [RandomSource γ]

/-- Carries out what is asked of a cycle. -/
def CycleCommand.perform (react : Reaction γ) (id : CycleId) : CycleCommand → Sim γ Reply
  | update diff => return .flag (← id.update react diff)
  | regenerate => return .flag (← id.regenerate)
  | broadcast trigger => return .flag (← id.broadcast react trigger)
  | setWeather kind intensity trigger => do
    id.setWeather react kind intensity trigger
    return .done
  | sendTo observer => do
    id.sendTo react observer
    return .done
  | sendFineTo observer => do
    CycleId.sendFineTo react observer
    return .done
  | describe => return .text (← Sim.cycle id).describe
  | profile => do
    let c ← Sim.cycle id
    return .profile c.zone c.table
  | assign kind intensity elapsed => do
    Sim.editCycle id (·.assign kind intensity elapsed)
    return .done

/-- Carries out what is asked of the manager. -/
def ManagerCommand.perform (react : Reaction γ) : ManagerCommand → Sim γ Reply
  | chances zone => return .chances (← Manager.chances zone)
  | find zone => do CycleId.show (← Manager.find zone)
  | add zone => do CycleId.show (← Manager.add zone)
  | getOrCreate zone => do CycleId.show (← Manager.getOrCreate zone)
  | remove zone => do
    Manager.remove zone
    return .done
  | update diff => do
    Manager.update react diff
    return .done
  | observerEntered observer zone => do
    Manager.observerEntered react observer zone
    return .done
  | setWeather zone kind intensity trigger =>
    return .flag (← Manager.setZoneWeather react zone kind intensity trigger)
  | config => return .config (← get).manager.config

/-- Carries out what is asked of the engine. -/
def EngineCommand.perform (stage : Stage) (react : Reaction γ) : EngineCommand → Sim γ Reply
  | profile => do
    let e := (← get).engine
    return .engine e.tps e.tickLength e.tick e.seed
  | addSystem system => do
    Engine.edit fun e => { e with systems := e.systems ++ [stage.wire system] }
    return .done
  | onStart system => do
    Engine.edit fun e => { e with startHooks := e.startHooks ++ [stage.wire system] }
    return .done
  | onStop system => do
    Engine.edit fun e => { e with stopHooks := e.stopHooks ++ [stage.wire system] }
    return .done
  | step => do
    Engine.step react stage.rounds
    return .done
  | run count => do
    Engine.run react stage.rounds count
    return .done
  | runForever => do
    Engine.runForever react stage.rounds
    return .done

/-- Carries out what an actor does of its own; `inTick` says whether an engine calls it. Within a
tick numbers are drawn from the source of the engine, else from that of the weather. -/
def ActorCommand.perform (inTick : Bool) : ActorCommand → Sim γ Reply
  | fail cause => throw cause
  | stop => do
    if inTick then
      Engine.setStopping true
      return .done
    else
      throw (.absent .context)
  | integer low high => do
    Sim.emit (.actorInteger (← Sim.integerOf (← owner) low high))
    return .done
  | normal => do
    Sim.emit (.actorNormal (← Sim.normalOf (← owner) 0.0 HalfNormal.spread))
    return .done
where
  /-- Whose source the numbers are drawn from. -/
  owner : Sim γ Owner := do
    if inTick then return .engine else return (← get).weatherOwner

/-- **Carries out a command**, with the actors reacting in some way to calls; `inTick` says whether
the command comes from an actor whom an engine calls. -/
def Command.perform (stage : Stage) (react : Reaction γ) (inTick : Bool) : Command γ → Sim γ Reply
  | cycle name command => do
    match ← name.find stage with
    | some id => command.perform react id
    | none => return .noCycle
  | manager command => do
    stage.require .manager
    command.perform react
  | messenger command => command.perform react
  | directory command => do
    match (← get).messenger with
    | .directory => command.perform
    | .recorder _ => throw (.absent .directory)
  | hooks command => do
    stage.require .hooks
    command.perform react
  | clock command => command.perform stage.now
  | engine command => do
    stage.require .engine
    command.perform stage react
  | actor command => command.perform inTick
  | script change => do
    let w ← get
    match change (w.source w.weatherOwner) with
    | some source =>
      set (w.setSource w.weatherOwner source)
      return .done
    | none => throw (.absent .script)

end Microclimate
