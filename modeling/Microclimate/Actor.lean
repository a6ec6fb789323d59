import Microclimate.Command.Perform

/-!
# Actors

An actor who is called responds with a list of commands. What actors do may depend on the call and
on the whole world as the call finds it, and the commands may lead to further calls, of other actors
or of the same. Such calls within calls are cut off at some `depth`.

Scripted actors play roles: a role is a list of actions that is gone through at every call, or at
the first calls only.

* `Microclimate.Action`, `Microclimate.Behaviour` – what actors do;
* `Microclimate.Stage.react` – the reaction of actors with some behaviour;
* `Microclimate.Role`, `Microclimate.Cast` – scripted actors, with `Cast.behaviour`.
-/

namespace Microclimate

/-- A command, or one for a certain tick only. -/
structure Action (γ : Type) where
  /-- The tick during which the command is given; at any time, if there is none. -/
  tick : Option Int := none
  /-- The command. -/
  command : Command γ

/-- What actors do: their response to a call, in the world that the call finds. -/
abbrev Behaviour (γ : Type) := Call → World γ → List (Action γ)

variable {γ : Type}

/-- The event that a call is. -/
def Call.event (call : Call) (w : World γ) : Event :=
  match call with
  | packet observer p => .packet observer p
  | ticked listener cycle diff => .ticked listener (w.zoneOf cycle) diff
  | changed listener cycle state intensity => .changed listener (w.zoneOf cycle) state intensity
  | tick system context => .tick system context

/-- Notes a call, in the events and in the count of the calls of the actor. -/
def Call.note (call : Call) : Sim γ Unit :=
  modify fun w => (w.emit (call.event w)).countCall call.actor

/-- Has the time come for an action? -/
def Action.isDue (stage : Stage) (action : Action γ) : Sim γ Bool := do
  match action.tick with
  | none => return true
  | some n =>
    stage.require .engine
    return (← get).engine.tick = n

variable [RandomSource γ]

/-- Takes an action if its time has come. -/
def Action.take (stage : Stage) (react : Reaction γ) (inTick : Bool) (action : Action γ) :
    Sim γ Unit := do
  if ← action.isDue stage then
    discard (action.command.perform stage react inTick)

/-- **The reaction of actors with some behaviour**, with calls within calls up to some depth. -/
def Stage.react (stage : Stage) (behaviour : Behaviour γ) : (depth : Nat) → Reaction γ
  | 0, _ => throw .unending
  | depth + 1, call => do
    call.note
    (behaviour call (← get)).forM fun action =>
      action.take stage (stage.react behaviour depth) call.isTick

/-! ### Scripted actors -/

/-- What a scripted actor does when called. -/
structure Role (γ : Type) where
  /-- The actions, in order. -/
  actions : List (Action γ)
  /-- The number of calls at which the actions are taken; all, if there is none. -/
  limit : Option Int := none

/-- The actions that are taken at a call, which is the `count`-th one. -/
def Role.actionsAt (role : Role γ) (count : Nat) : List (Action γ) :=
  match role.limit with
  | none => role.actions
  | some limit => if count ≤ limit then role.actions else []

/-- Scripted actors by name; who is not listed does nothing. -/
abbrev Cast (γ : Type) := List (ActorName × Role γ)

/-- How scripted actors behave. -/
def Cast.behaviour (cast : Cast γ) : Behaviour γ := fun call w =>
  match cast.find? (·.1 = call.actor) with
  | some (_, role) => role.actionsAt (w.callsOf call.actor)
  | none => []

end Microclimate
