import Microclimate.Proofs.Registry

/-!
# Courses of events

Some contracts do not ask on whose word a cycle is dropped. They hold for an update of the manager
as well, and so for everything that can be asked of a world, and for every **course of events**:
commands, one after the other, that return or fail, whatever the actors do meanwhile.

* `Microclimate.Contract.Admits` – a contract lets small steps pass, and cycles be discarded;
* `Microclimate.Command.perform_admitted` – every command keeps such a contract;
* `Microclimate.World.Course` – the courses of events;
* `Microclimate.World.Course.keeps` – **they keep it, too**.
-/

namespace Microclimate

variable {γ : Type}

/-- A contract lets all small steps pass, failures of any cause, and the discarding of cycles,
whoever reports. -/
structure Contract.Admits (c : Contract γ) : Prop extends c.Permits where
  discard : ∀ (w : World γ) (zone : Value) (reporter : CycleId), c.good w (w.discard zone reporter)

variable [RandomSource γ]

section Admits

variable {c : Contract γ} (a : c.Admits)
include a

/-- **Updates of the manager keep a contract that admits discarding** if the actors do. -/
theorem Manager.update_admitted {react : Reaction γ} (h : react.Keeps c) (diff : Int) :
    (update react diff).Keeps c :=
  Manager.update_keeps (fun id => CycleId.update_keeps h (a.toPermits.letsUpdate id) diff) a.discard
    fun w zone => c.bad_trans (a.step (.happened w _)) (a.fail (.notRegistered zone) _)

theorem Stage.react_admitted (stage : Stage) (behaviour : Behaviour γ) (depth : Nat) :
    (stage.react behaviour depth).Keeps c :=
  stage.react_keeps a.serves (fun h => Manager.update_admitted a h) behaviour depth

/-- **Every command keeps a contract that admits discarding**, whatever the actors do. -/
theorem Command.perform_admitted (stage : Stage) (behaviour : Behaviour γ) (depth : Nat)
    (inTick : Bool) (command : Command γ) :
    (command.perform stage (stage.react behaviour depth) inTick).Keeps c := by
  have h := stage.react_admitted a behaviour depth
  exact command.perform_keeps h a.serves (Manager.update_admitted a h) stage inTick

end Admits

/-- **The courses of events** from a world on: commands, one after the other, that return or fail,
whatever the actors do meanwhile. -/
inductive World.Course (start : World γ) : World γ → Prop
  /-- Nothing was asked yet. -/
  | nothing : Course start start
  /-- A command was given. -/
  | command {w : World γ} (before : Course start w) (stage : Stage) (behaviour : Behaviour γ)
      (depth : Nat) (inTick : Bool) (command : Command γ) :
      Course start ((command.perform stage (stage.react behaviour depth) inTick).worldLeft w)

theorem World.Course.trans {a b c : World γ} (h : a.Course b) (h' : b.Course c) : a.Course c := by
  induction h' with
  | nothing => exact h
  | command before stage behaviour depth inTick command ih =>
    exact .command ih stage behaviour depth inTick command

/-- Commands that are given one after the other are a course of events. -/
theorem World.Course.afterAll (w : World γ) (stage : Stage) (behaviour : Behaviour γ) (depth : Nat)
    (commands : List (Command γ)) : w.Course (w.afterAll stage behaviour depth commands) := by
  induction commands generalizing w with
  | nil => exact .nothing
  | cons c rest ih =>
    exact trans (.command .nothing stage behaviour depth false c) (ih _)

/-- **A relation between worlds that everything keeps** holds between the first world of a course of
events and the last one. -/
theorem World.Course.keeps {R : World γ → World γ → Prop} {refl : ∀ w, R w w}
    {trans : ∀ {a b c}, R a b → R b c → R a c} (a : (Contract.always R refl trans).Admits)
    {start w : World γ} (course : start.Course w) : R start w := by
  induction course with
  | nothing => exact refl start
  | command before stage behaviour depth inTick command ih =>
    exact trans ih ((command.perform_admitted a stage behaviour depth inTick).worldLeft _)

end Microclimate
