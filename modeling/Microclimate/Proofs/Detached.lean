import Microclimate.Actor
import Microclimate.Proofs.Outcome

/-!
# What has nothing to do with the engine

A change of a world has nothing to do with the engine if it comes to the same whatever engine is put
into the world, and leaves that engine there. The only thing that it may use is the random source of
the engine, which the weather can share.

All that is asked of the weather is of that kind, if the actors are, and so are all commands but
those to the engine itself and a request to stop it.

* `Microclimate.World.withEngine` – a world with another engine, which has the same random source;
* `Microclimate.Sim.Detached` – **a change has nothing to do with the engine**;
* `Microclimate.Manager.update_detached` – updates have nothing to do with it;
* `Microclimate.Stage.react_detached` – neither have actors who do not bother it.
-/

namespace Microclimate

variable {γ α β : Type}

/-- A world with another engine, which has the same random source. -/
def World.withEngine (w : World γ) (e : Engine γ) : World γ :=
  { w with engine := { e with random := w.engine.random } }

@[simp] theorem World.source_withEngine (w : World γ) (e : Engine γ) (owner : Owner) :
    (w.withEngine e).source owner = w.source owner := by
  cases owner <;> rfl

@[simp] theorem World.setSource_withEngine (w : World γ) (e : Engine γ) (owner : Owner) (g : γ) :
    (w.withEngine e).setSource owner g = (w.setSource owner g).withEngine e := by
  cases owner <;> rfl

/-- What a change comes to, with the world that it leaves changed once more. -/
def Sim.mapWorld (f : World γ → World γ) :
    EStateM.Result Fault (World γ) α → EStateM.Result Fault (World γ) α
  | .ok a w => .ok a (f w)
  | .error fault w => .error fault (f w)

/-- **A change has nothing to do with the engine.** -/
def Sim.Detached (x : Sim γ α) : Prop :=
  ∀ w e, x (w.withEngine e) = mapWorld (·.withEngine e) (x w)

/-- Actors have nothing to do with the engine, whenever they are called. -/
def Reaction.Detached (react : Reaction γ) : Prop := ∀ call, (react call).Detached

namespace Sim.Detached

theorem pure (a : α) : (pure a : Sim γ α).Detached := fun _ _ => rfl

theorem throw (f : Fault) : (throw f : Sim γ α).Detached := fun _ _ => rfl

theorem bind {x : Sim γ α} {f : α → Sim γ β} (hx : x.Detached) (hf : ∀ a, (f a).Detached) :
    (x >>= f).Detached := by
  intro w e
  change EStateM.bind x f _ = mapWorld _ (EStateM.bind x f w)
  rw [EStateM.bind, EStateM.bind, hx w e]
  cases x w with
  | ok a v => exact hf a v e
  | error fault v => rfl

theorem ok {x : Sim γ α} (hx : x.Detached) {w v : World γ} {a : α} (h : x w = .ok a v)
    (e : Engine γ) : x (w.withEngine e) = .ok a (v.withEngine e) := by
  rw [hx, h]
  rfl

theorem error {x : Sim γ α} (hx : x.Detached) {w v : World γ} {fault : Fault}
    (h : x w = .error fault v) (e : Engine γ) :
    x (w.withEngine e) = .error fault (v.withEngine e) := by
  rw [hx, h]
  rfl

/-- What is read of a world and does not depend on the engine may be used. -/
theorem read {f : World γ → Sim γ α} (same : ∀ w e, f (w.withEngine e) = f w)
    (hf : ∀ w, (f w).Detached) : (MonadState.get >>= f).Detached := by
  intro w e
  change f (w.withEngine e) (w.withEngine e) = mapWorld _ (f w w)
  rw [same]
  exact hf w w e

theorem modify {f : World γ → World γ}
    (same : ∀ w e, f (w.withEngine e) = (f w).withEngine e) :
    (modify f : Sim γ PUnit).Detached := by
  intro w e
  change EStateM.Result.ok _ (f (w.withEngine e)) = .ok _ ((f w).withEngine e)
  rw [same]

theorem map {x : Sim γ α} {f : α → β} (hx : x.Detached) : (f <$> x).Detached := by
  intro w e
  change EStateM.map f x _ = mapWorld _ (EStateM.map f x w)
  rw [EStateM.map, EStateM.map, hx w e]
  cases x w <;> rfl

theorem discard {x : Sim γ α} (hx : x.Detached) : (discard x : Sim γ PUnit).Detached := hx.map

theorem ite {p : Prop} [Decidable p] {x y : Sim γ α} (hx : x.Detached) (hy : y.Detached) :
    (if p then x else y).Detached := by
  split
  · exact hx
  · exact hy

theorem forM {f : α → Sim γ PUnit} (l : List α) (hf : ∀ a ∈ l, (f a).Detached) :
    (l.forM f).Detached := by
  induction l with
  | nil => exact pure _
  | cons a l ih => exact bind (hf a (by simp)) fun _ => ih fun b mem => hf b (by simp [mem])

end Sim.Detached

/-! ### Elementary operations -/

namespace Sim

theorem emit_detached (e : Event) : (emit e : Sim γ Unit).Detached := .modify fun _ _ => rfl

theorem cycle_detached (id : CycleId) : (cycle id : Sim γ Cycle).Detached :=
  .read (fun _ _ => rfl) fun _ => .pure _

theorem editCycle_detached (id : CycleId) (f : Cycle → Cycle) :
    (editCycle id f : Sim γ Unit).Detached :=
  .modify fun _ _ => rfl

theorem dispatch_detached (id : CycleId) (receiver : Receiver) (packet : Packet) :
    (dispatch id receiver packet : Sim γ Unit).Detached :=
  .modify fun _ _ => rfl

theorem lift_detached (r : Except Fault α) : (lift r : Sim γ α).Detached := by
  cases r with
  | ok a => exact .pure a
  | error f => exact .throw f

theorem requireKey_detached (v : Value) : (requireKey v : Sim γ Unit).Detached :=
  .ite (.pure _) (.throw _)

theorem dayOfYear_detached : (dayOfYear : Sim γ Int).Detached :=
  .read (fun _ _ => rfl) fun _ => lift_detached _

theorem draw_detached (owner : Owner) (d : EStateM Fault γ α) (event : Option α → Event) :
    (draw owner d event).Detached := by
  intro w e
  simp only [draw, World.source_withEngine, World.setSource_withEngine]
  cases d (w.source owner) <;> rfl

variable [RandomSource γ]

theorem integer_detached (low high : Int) : (integer low high : Sim γ Int).Detached :=
  .read (fun _ _ => rfl) fun _ => draw_detached _ _ _

theorem normal_detached (mean spread : Float) : (normal mean spread : Sim γ Float).Detached :=
  .read (fun _ _ => rfl) fun _ => draw_detached _ _ _

end Sim

theorem HalfNormal.draw_detached [RandomSource γ] : (draw : Sim γ Float).Detached := by
  have within (tries : Nat) : (drawWithin tries : Sim γ Float).Detached := by
    induction tries with
    | zero => exact .throw _
    | succ tries ih => exact .bind (Sim.normal_detached _ _) fun _ => .ite (.pure _) ih
  refine .bind (.read (fun w e => ?_) fun _ => .pure _) fun _ => within _
  cases w.sharesRandom <;> rfl

/-! ### The weather -/

section Weather

variable [RandomSource γ]

namespace CycleId

omit [RandomSource γ] in
theorem become_detached (id : CycleId) (kind : WeatherKind) (intensity : Float) :
    (id.become kind intensity : Sim γ Unit).Detached :=
  Sim.editCycle_detached _ _

theorem newIntensity_detached (radical : Bool) : (newIntensity radical : Sim γ Float).Detached := by
  have draw := HalfNormal.draw_detached (γ := γ)
  refine .ite (.bind draw fun _ => .pure _) (.bind (Sim.integer_detached _ _) fun n => ?_)
  exact .ite (.bind draw fun _ => .pure _) (.bind draw fun _ => .pure _)

theorem selectWeather_detached (id : CycleId) (chances : Chances) (radical : Bool) :
    (id.selectWeather chances radical : Sim γ Unit).Detached := by
  refine .bind (Sim.integer_detached _ _) fun n => .bind (Sim.editCycle_detached _ _) fun _ => ?_
  refine .ite (become_detached _ _ _) (.bind (newIntensity_detached _) fun _ => ?_)
  exact become_detached _ _ _

theorem changeRadically_detached (id : CycleId) (now : Cycle) :
    (id.changeRadically now : Sim γ Bool).Detached := by
  refine .ite (.bind (become_detached _ _ _) fun _ => .pure _) (.ite ?_ (.pure _))
  refine .bind (Sim.integer_detached _ _) fun n => .ite ?_ (.pure _)
  exact .bind (become_detached _ _ _) fun _ => .pure _

theorem changeWeather_detached (id : CycleId) (roll : Int) :
    (id.changeWeather roll : Sim γ Bool).Detached := by
  refine .bind (Sim.cycle_detached id) fun before => ?_
  refine .ite (.bind (become_detached _ _ _) fun _ => ?_) ?_
  all_goals
    refine .bind (Sim.cycle_detached id) fun now => .ite (.pure _) (.ite ?_ (.ite ?_ ?_))
    · exact .bind (become_detached _ _ _) fun _ => .pure _
    · exact .bind (become_detached _ _ _) fun _ => .pure _
    · refine .bind (changeRadically_detached id now) fun _ => .ite (.pure _) ?_
      exact .bind (become_detached _ _ _) fun _ => .pure _

theorem regenerate_detached (id : CycleId) : (id.regenerate : Sim γ Bool).Detached := by
  refine .bind (Sim.cycle_detached id) fun before => ?_
  cases before.table with
  | none => exact .bind (become_detached _ _ _) fun _ => .pure _
  | some table =>
    refine .bind (Sim.integer_detached _ _) fun roll => .ite (.pure _) ?_
    refine .bind Sim.dayOfYear_detached fun day => .bind (Sim.emit_detached _) fun _ => ?_
    refine .bind (changeWeather_detached id roll) fun _ => .ite (.pure _) ?_
    refine .bind (selectWeather_detached id _ _) fun _ => ?_
    exact .bind (Sim.cycle_detached id) fun _ => .pure _

omit [RandomSource γ] in
theorem create_detached (zone : Value) (table : Option SeasonTable) (interval : Int) :
    (create zone table interval : Sim γ CycleId).Detached :=
  .bind (fun _ _ => rfl) fun _ => .bind (Sim.emit_detached _) fun _ => .pure _

end CycleId

variable {react : Reaction γ} (h : react.Detached)
include h

omit [RandomSource γ] in
theorem Messenger.send_detached (zone : Value) (packet : Packet) :
    (Messenger.send react zone packet).Detached := by
  refine .read (fun _ _ => rfl) fun w => ?_
  cases w.messenger with
  | directory =>
    refine .bind (Sim.requireKey_detached zone) fun _ => .read (fun _ _ => rfl) fun w => ?_
    exact .bind (.forM _ fun observer _ => h _) fun _ => .pure _
  | recorder reaches => exact .bind (Sim.emit_detached _) fun _ => .pure _

omit [RandomSource γ] in
theorem Hooks.notifyTicked_detached (cycle : Option CycleId) (diff : Int) :
    (Hooks.notifyTicked react cycle diff).Detached :=
  .read (fun _ _ => rfl) fun _ => .forM _ fun _ _ => h _

omit [RandomSource γ] in
theorem Hooks.notifyChanged_detached (cycle : Option CycleId) (state : WeatherState)
    (intensity : Float) : (Hooks.notifyChanged react cycle state intensity).Detached :=
  .read (fun _ _ => rfl) fun _ => .forM _ fun _ _ => h _

namespace CycleId

omit [RandomSource γ] in
theorem broadcast_detached (id : CycleId) (trigger : Bool) :
    (id.broadcast react trigger).Detached := by
  refine .bind (Sim.editCycle_detached _ _) fun _ => .bind (Sim.cycle_detached id) fun now => ?_
  refine .bind (Sim.dispatch_detached _ _ _) fun _ => ?_
  refine .bind (Messenger.send_detached h _ _) fun told => .ite ?_ (.pure _)
  refine .bind (Sim.emit_detached _) fun _ => .ite ?_ (.pure _)
  refine .bind (Sim.cycle_detached id) fun _ => ?_
  exact .bind (Hooks.notifyChanged_detached h _ _ _) fun _ => .pure _

omit [RandomSource γ] in
theorem setWeather_detached (id : CycleId) (kind : WeatherKind) (intensity : Float)
    (trigger : Bool) : (id.setWeather react kind intensity trigger).Detached := by
  refine .bind (Sim.cycle_detached id) fun now => .ite (.pure _) ?_
  exact .bind (Sim.editCycle_detached _ _) fun _ => .discard (broadcast_detached h id trigger)

omit [RandomSource γ] in
theorem sendTo_detached (id : CycleId) (observer : ActorName) :
    (id.sendTo react observer).Detached :=
  .bind (Sim.cycle_detached id) fun _ => .bind (Sim.dispatch_detached _ _ _) fun _ => h _

theorem update_detached (id : CycleId) (diff : Int) : (id.update react diff).Detached := by
  refine .bind (Sim.editCycle_detached _ _) fun _ => .bind ?_ fun kept => ?_
  · refine .bind (Sim.cycle_detached id) fun now => .ite ?_ (.pure _)
    refine .bind (Sim.editCycle_detached _ _) fun _ => .bind (regenerate_detached id) fun _ => ?_
    exact .ite (broadcast_detached h id true) (.pure _)
  · exact .ite (.bind (Hooks.notifyTicked_detached h _ _) fun _ => .pure _) (.pure _)

end CycleId

namespace Manager

omit [RandomSource γ] h in
theorem carryOut_detached (d : Deed) : (carryOut d : Sim γ Unit).Detached :=
  .modify fun _ _ => rfl

omit [RandomSource γ] h in
theorem find_detached (zone : Value) : (find zone : Sim γ (Option CycleId)).Detached :=
  .bind (Sim.requireKey_detached zone) fun _ => .read (fun _ _ => rfl) fun _ => .pure _

omit [RandomSource γ] h in
theorem remove_detached (zone : Value) : (remove zone : Sim γ Unit).Detached := by
  refine .read (fun _ _ => rfl) fun w => .ite (.pure _) ?_
  exact .bind (Sim.requireKey_detached zone) fun _ => carryOut_detached _

omit h in
theorem add_detached (zone : Value) : (add zone : Sim γ (Option CycleId)).Detached := by
  refine .bind (.bind (Sim.requireKey_detached zone) fun _ =>
    .read (fun _ _ => rfl) fun _ => .pure _) fun found => ?_
  cases found with
  | none => exact .pure _
  | some table =>
    refine .read (fun _ _ => rfl) fun w => .bind (CycleId.create_detached _ _ _) fun id => ?_
    refine .bind (carryOut_detached _) fun _ => ?_
    exact .bind (.discard (CycleId.regenerate_detached id)) fun _ => .pure _

omit h in
theorem getOrCreate_detached (zone : Value) :
    (getOrCreate zone : Sim γ (Option CycleId)).Detached := by
  refine .bind (find_detached zone) fun found => ?_
  cases found with
  | none => exact add_detached zone
  | some id => exact .pure _

/-- **Updates of the manager have nothing to do with the engine**, if the actors have not. -/
theorem update_detached (diff : Int) : (update react diff).Detached := by
  have all (cycles : List (Value × CycleId)) : (updateEach react diff cycles).Detached := by
    induction cycles with
    | nil => exact .pure _
    | cons entry rest ih =>
      refine .bind (CycleId.update_detached h entry.2 diff) fun kept => ?_
      refine .ite ih (.bind ?_ fun _ => ih)
      refine .bind (Sim.emit_detached _) fun _ => .read (fun _ _ => rfl) fun w => ?_
      exact .ite (carryOut_detached _) (.throw _)
  exact .read (fun _ _ => rfl) fun _ => all _

end Manager

end Weather

/-! ### Commands and actors -/

/-- A command has nothing to do with the engine: it is neither for the engine nor a request to stop
it. -/
def Command.Apart : Command γ → Prop
  | engine _ | actor .stop => False
  | _ => True

section Commands

theorem Stage.require_detached (stage : Stage) (part : Part) :
    (stage.require part : Sim γ Unit).Detached :=
  .ite (.throw _) (.pure _)

theorem CycleId.show_detached (id : Option CycleId) : (CycleId.show id : Sim γ Reply).Detached := by
  cases id with
  | none => exact .pure _
  | some id => exact .bind (Sim.cycle_detached id) fun _ => .pure _

theorem CycleName.find_detached (name : CycleName) (stage : Stage) :
    (name.find stage : Sim γ (Option CycleId)).Detached := by
  cases name with
  | lone => exact .read (fun _ _ => rfl) fun _ => .pure _
  | running zone => exact .bind (stage.require_detached _) fun _ => Manager.find_detached zone

theorem Move.carryOut_detached (m : Move) : (m.carryOut : Sim γ Unit).Detached := by
  intro w e
  have same : (w.withEngine e).directory = w.directory := rfl
  rw [carryOut, carryOut, same]
  cases m.make w.directory <;> rfl

theorem DirectoryCommand.perform_detached (command : DirectoryCommand) :
    (command.perform : Sim γ Reply).Detached := by
  cases command with
  | enter observer zone =>
    refine .bind (.bind (Move.carryOut_detached _) fun _ => ?_) fun _ => .pure _
    exact .bind (Sim.requireKey_detached zone) fun _ => Move.carryOut_detached _
  | leave observer => exact .bind (Move.carryOut_detached _) fun _ => .pure _
  | zoneOf observer => exact .read (fun _ _ => rfl) fun _ => .pure _
  | observers zone =>
    exact .bind (Sim.requireKey_detached zone) fun _ => .read (fun _ _ => rfl) fun _ => .pure _

theorem ClockCommand.perform_detached (now : Float) (command : ClockCommand) :
    (command.perform now : Sim γ Reply).Detached := by
  have set (clock : Clock) : (ClockCommand.perform.setClock clock : Sim γ Unit).Detached :=
    .modify fun _ _ => rfl
  have time : (ClockCommand.perform.time : Sim γ Float).Detached := by
    refine .read (fun _ _ => rfl) fun w => ?_
    cases w.clock with
    | fixed day => exact .throw _
    | running time => exact .pure _
  cases command with
  | advance diff =>
    refine .read (fun _ _ => rfl) fun _ => .bind (Sim.lift_detached _) fun clock => ?_
    exact .bind (set clock) fun _ => .bind time fun _ => .pure _
  | setTime seconds => exact .bind (.discard time) fun _ => .bind (set _) fun _ => .pure _
  | setDay n => exact .read (fun _ _ => rfl) fun _ => .bind (set _) fun _ => .pure _
  | day => exact .bind Sim.dayOfYear_detached fun _ => .pure _
  | season => exact .bind (.discard time) fun _ => .bind Sim.dayOfYear_detached fun _ => .pure _
  | isNow => exact .bind time fun _ => .pure _

variable [RandomSource γ] {react : Reaction γ} (h : react.Detached)

theorem ActorCommand.perform_detached (inTick : Bool) {command : ActorCommand}
    (on : command ≠ .stop) : (command.perform inTick : Sim γ Reply).Detached := by
  have owner : (ActorCommand.perform.owner inTick : Sim γ Owner).Detached :=
    .ite (.pure _) (.read (fun _ _ => rfl) fun _ => .pure _)
  cases command with
  | fail cause => exact .throw _
  | stop => exact absurd rfl on
  | integer low high =>
    refine .bind owner fun _ => .bind (Sim.draw_detached _ _ _) fun _ => ?_
    exact .bind (Sim.emit_detached _) fun _ => .pure _
  | normal =>
    refine .bind owner fun _ => .bind (Sim.draw_detached _ _ _) fun _ => ?_
    exact .bind (Sim.emit_detached _) fun _ => .pure _

include h

theorem CycleCommand.perform_detached (id : CycleId) (command : CycleCommand) :
    (command.perform react id).Detached := by
  cases command with
  | update diff => exact .bind (CycleId.update_detached h id diff) fun _ => .pure _
  | regenerate => exact .bind (CycleId.regenerate_detached id) fun _ => .pure _
  | broadcast trigger => exact .bind (CycleId.broadcast_detached h id trigger) fun _ => .pure _
  | setWeather kind intensity trigger =>
    exact .bind (CycleId.setWeather_detached h id _ _ _) fun _ => .pure _
  | sendTo observer => exact .bind (CycleId.sendTo_detached h id observer) fun _ => .pure _
  | sendFineTo observer => exact .bind (h _) fun _ => .pure _
  | describe => exact .bind (Sim.cycle_detached id) fun _ => .pure _
  | profile => exact .bind (Sim.cycle_detached id) fun _ => .pure _
  | assign kind intensity elapsed =>
    exact .bind (Sim.editCycle_detached id _) fun _ => .pure _

theorem ManagerCommand.perform_detached (command : ManagerCommand) :
    (command.perform react).Detached := by
  cases command with
  | chances zone =>
    exact .bind (.bind (Sim.requireKey_detached zone) fun _ =>
      .read (fun _ _ => rfl) fun _ => .pure _) fun _ => .pure _
  | find zone => exact .bind (Manager.find_detached zone) CycleId.show_detached
  | add zone => exact .bind (Manager.add_detached zone) CycleId.show_detached
  | getOrCreate zone => exact .bind (Manager.getOrCreate_detached zone) CycleId.show_detached
  | remove zone => exact .bind (Manager.remove_detached zone) fun _ => .pure _
  | update diff => exact .bind (Manager.update_detached h diff) fun _ => .pure _
  | observerEntered observer zone =>
    refine .bind (.bind (Manager.getOrCreate_detached zone) fun found => ?_) fun _ => .pure _
    cases found with
    | none => exact h _
    | some id => exact CycleId.sendTo_detached h id observer
  | setWeather zone kind intensity trigger =>
    refine .bind (.bind (Manager.getOrCreate_detached zone) fun found => ?_) fun _ => .pure _
    cases found with
    | none => exact .pure _
    | some id => exact .bind (CycleId.setWeather_detached h id _ _ _) fun _ => .pure _
  | config => exact .read (fun _ _ => rfl) fun _ => .pure _

omit [RandomSource γ] in
theorem HooksCommand.perform_detached (command : HooksCommand) :
    (command.perform react).Detached := by
  have edit (f : Hooks → Hooks) : (HooksCommand.perform.edit f : Sim γ Reply).Detached :=
    .bind (.modify fun _ _ => rfl) fun _ => .pure _
  cases command with
  | onTicked listener => exact edit (·.onTicked listener)
  | onChanged listener => exact edit (·.onChanged listener)
  | unsubscribe listener => exact edit (·.unsubscribe listener)
  | clear => exact edit (·.clear)
  | notifyTicked diff =>
    refine .read (fun _ _ => rfl) fun w => ?_
    exact .bind (Hooks.notifyTicked_detached h w.loneCycle diff) fun _ => .pure _
  | notifyChanged state intensity =>
    refine .read (fun _ _ => rfl) fun w => ?_
    exact .bind (Hooks.notifyChanged_detached h w.loneCycle state intensity) fun _ => .pure _

theorem Command.perform_detached (stage : Stage) (inTick : Bool) {command : Command γ}
    (apart : command.Apart) : (command.perform stage react inTick).Detached := by
  cases command with
  | cycle name asked =>
    refine .bind (name.find_detached stage) fun found => ?_
    cases found with
    | none => exact .pure _
    | some id => exact asked.perform_detached h id
  | manager asked => exact .bind (stage.require_detached _) fun _ => asked.perform_detached h
  | messenger asked =>
    cases asked with
    | send zone packet => exact .bind (Messenger.send_detached h zone packet) fun _ => .pure _
    | pretend reaches => exact .bind (.modify fun _ _ => rfl) fun _ => .pure _
  | directory asked =>
    refine .read (fun _ _ => rfl) fun w => ?_
    cases w.messenger with
    | directory => exact asked.perform_detached
    | recorder reaches => exact .throw _
  | hooks asked => exact .bind (stage.require_detached _) fun _ => asked.perform_detached h
  | clock asked => exact asked.perform_detached stage.now
  | engine asked => exact apart.elim
  | actor asked =>
    refine asked.perform_detached inTick ?_
    rintro rfl
    exact apart
  | script change =>
    intro w e
    have got (v : World γ) : (get : Sim γ (World γ)) v = .ok v v := rfl
    have owner : (w.withEngine e).weatherOwner = w.weatherOwner := rfl
    rw [perform, Sim.bind_of_ok (got _), Sim.bind_of_ok (got _), owner, World.source_withEngine]
    cases change (w.source w.weatherOwner) with
    | none => rfl
    | some source => exact congrArg (EStateM.Result.ok _) (w.setSource_withEngine e _ source)

end Commands

/-- **Actors have nothing to do with the engine** if they do not look at it and give no command that
has to do with it. -/
theorem Stage.react_detached [RandomSource γ] (stage : Stage) {behaviour : Behaviour γ}
    (blind : ∀ call w e, behaviour call (w.withEngine e) = behaviour call w)
    (apart : ∀ call w, ∀ action ∈ behaviour call w, action.tick = none ∧ action.command.Apart)
    (depth : Nat) : (stage.react behaviour depth).Detached := by
  induction depth with
  | zero => exact fun call => .throw _
  | succ depth ih =>
    refine fun call => .bind (.modify fun w e => ?_) fun _ => .read (fun w e => ?_) fun w => ?_
    · cases call <;> rfl
    · rw [blind]
    · refine .forM _ fun action mem => .bind ?_ fun due => .ite (.discard ?_) (.pure _)
      · rw [Action.isDue, (apart call w action mem).1]
        exact .pure _
      · exact action.command.perform_detached ih stage _ (apart call w action mem).2

end Microclimate
