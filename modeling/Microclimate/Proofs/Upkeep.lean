import Microclimate.Proofs.Climate
import Microclimate.Proofs.Courses

/-!
# Keeping a climate up

Observers and listeners may call the manager back while they are being called, and operations may
fail half-way. A climate prevails all the same, and the reason is always the same one: **nobody is
called before a cycle that has changed is brought back into range**. So the climate may be supposed
when an actor is called, and be found again when the actor has finished.

What an actor may be called for is restricted, too. A packet that is delivered must have been sent
by a cycle before, and as packets are never forgotten, this stays true while it is delivered to one
member of a zone after the other.

* `Microclimate.Command.Regular` – what may be asked of a world: operations of the manager, moves in
  the directory, and failing;
* `Microclimate.Reaction.KeepsUp` – what is supposed of the actors;
* `Microclimate.Stage.react_keepsUp` – **actors who respond with such commands keep a climate up**;
* `Microclimate.Run` – such commands, one after the other, whether they return or fail;
* `Microclimate.Run.prevails` – **a climate that nothing runs under prevails from then on**.
-/

namespace Microclimate

variable {γ : Type}

/-! ### Cycles and packets are never forgotten -/

/-- The contract of forgetting no cycle and no packet. -/
def Contract.growing : Contract γ := .always World.Grows .refl .trans

theorem Contract.admits_growing : (growing : Contract γ).Admits where
  step := World.Grows.of_step
  fail _ w := .refl w
  discard _ _ _ := ⟨le_rfl, [], .nothing rfl⟩

theorem Stage.react_growing [RandomSource γ] (stage : Stage) (behaviour : Behaviour γ)
    (depth : Nat) : (stage.react behaviour depth).Keeps .growing :=
  stage.react_admitted Contract.admits_growing behaviour depth

/-! ### What is supposed of the actors -/

/-- **Actors keep a climate up**: nothing is forgotten, and the climate prevails after every call
that may be made, whether it returns or fails. -/
structure Reaction.KeepsUp (react : Reaction γ) (C : Climate) (start : World γ) : Prop where
  growing : react.Keeps .growing
  prevails : ∀ {w : World γ} {call : Call}, C.Prevails start w → start.Accounts w call →
    (react call).KeepsUp C start w

section Calls

variable {C : Climate} {start w : World γ} {react : Reaction γ} (r : react.KeepsUp C start)
include r

/-- Calling actors one after the other. -/
theorem Reaction.KeepsUp.forM {α : Type} (l : List α) (call : α → Call) (h : C.Prevails start w)
    (accounts : ∀ a ∈ l, start.Accounts w (call a)) :
    (l.forM fun a => react (call a)).KeepsUp C start w := by
  induction l generalizing w with
  | nil => exact h
  | cons a rest ih =>
    rw [Sim.KeepsUp, List.forM_eq_forM, List.forM_cons, Sim.ends_bind]
    refine ((r.prevails h (accounts a (by simp))).and (r.growing _ w)).mono
      (fun _ w' ends => ?_) fun _ _ failed => failed.1
    obtain ⟨after, grown⟩ := ends
    exact ih after fun b mem => grown.accounts (accounts b (by simp [mem]))

omit r in
/-- Calls that are not about a packet may always be made. -/
theorem Climate.Prevails.accounts (h : C.Prevails start w) {call : Call}
    (comes : ∀ ds, (call.event w).ComesFrom ds) : start.Accounts w call := by
  obtain ⟨ms, ds, -, sends, -⟩ := h.record
  exact ⟨ds, sends, comes ds⟩

theorem Hooks.notifyTicked_prevails (h : C.Prevails start w) (id : Option CycleId) (diff : Int) :
    (Hooks.notifyTicked react id diff).KeepsUp C start w :=
  r.forM w.hooks.ticked (.ticked · id diff) h fun _ _ => h.accounts fun _ => trivial

theorem Hooks.notifyChanged_prevails (h : C.Prevails start w) (id : Option CycleId)
    (state : WeatherState) (intensity : Float) :
    (Hooks.notifyChanged react id state intensity).KeepsUp C start w :=
  r.forM w.hooks.changed (.changed · id state intensity) h fun _ _ => h.accounts fun _ => trivial

/-- Delivering to a zone what some cycle has just sent there. -/
theorem Messenger.send_prevails (h : C.Prevails start w) {ds : List Dispatch}
    (sends : start.Sends ds w) {d : Dispatch} (mem : d ∈ ds) (now : d.scene = w.toScene)
    {zone : Value} (receiver : d.receiver = .zone zone) :
    (Messenger.send react zone d.packet).KeepsUp C start w := by
  rw [Sim.KeepsUp, Messenger.send, Sim.ends_bind, Sim.ends_get]
  cases w.messenger with
  | recorder reaches =>
    refine h.emit fun es sends' => ?_
    have same : es = ds := List.append_cancel_left (sends'.symm.trans sends)
    exact ⟨d, same ▸ mem, rfl, receiver⟩
  | directory =>
    rw [Directory.send, Sim.ends_bind, Sim.ends_requireKey]
    split
    · rw [Sim.ends_bind, Sim.ends_get]
      have told := r.forM (w.directory.observers zone) (.packet · d.packet) h fun observer there =>
        ⟨ds, sends, .inr ⟨d, mem, rfl, by rw [receiver, now]; exact there⟩⟩
      exact told.bind fun _ _ after => after
    · exact h

namespace CycleId

variable {id : CycleId}

/-- **Telling a zone of its weather keeps a climate up**, for the cycle is brought into range before
anybody is called. -/
theorem broadcast_prevails (changed : Changed C start id w) (since : start.Since w id)
    (trigger : Bool) : (id.broadcast react trigger).KeepsUp C start w := by
  have clamped := w.cycle_editCycle since.2 Cycle.clamp
  rw [Sim.KeepsUp, broadcast, Sim.ends_bind, Sim.ends_editCycle, Sim.ends_bind, Sim.ends_cycle,
    Sim.ends_bind, Sim.ends_dispatch]
  rw [Changed] at changed
  replace since := since.editCycle id Cycle.clamp
  generalize w.editCycle id Cycle.clamp = v at changed since clamped
  obtain ⟨ms, ds, -, sends, -⟩ := changed.record
  have noted := changed.dispatch since (.zone (v.cycle id).zone)
    fun same => ⟨(Receiver.zone.inj same).symm, _, clamped⟩
  have delivered := Messenger.send_prevails r noted
    (sends.trans (.dispatch v id (.zone (v.cycle id).zone) (v.cycle id).packet))
    (List.mem_append_right ds (List.mem_singleton_self _)) rfl rfl
  refine delivered.bind fun reached w₁ after => ?_
  cases reached with
  | false => exact after
  | true =>
    have logged := after.emit (e := .logged (.changed (v.cycle id).zone (v.cycle id).state))
      fun _ _ => trivial
    cases trigger with
    | false => exact logged
    | true =>
      exact (Hooks.notifyChanged_prevails r logged (some id) (v.cycle id).state _).bind
        fun _ _ heard => heard

/-- Forcing weather that the climate allows. -/
theorem setWeather_prevails (h : C.Prevails start w) (since : start.Since w id) {kind : WeatherKind}
    {x : Float} (allowed : C.Forced kind x) (trigger : Bool) :
    (id.setWeather react kind x trigger).KeepsUp C start w := by
  rw [Sim.KeepsUp, setWeather, Sim.ends_bind, Sim.ends_cycle, Sim.ends_ite]
  split
  · exact h
  · rw [Sim.ends_bind, Sim.ends_editCycle]
    have forced := h.editCycle id (f := fun c => (c.withWeather kind x).clamp)
      (fun _ => ⟨rfl, rfl, rfl⟩) (C.forces (h.admits since) allowed)
    have changed : Changed C start id (w.editCycle id (·.withWeather kind x)) := by
      rw [Changed, World.editCycle_editCycle]
      exact forced
    exact (broadcast_prevails r changed (since.editCycle id _) trigger).map

/-- Telling a single observer. -/
theorem sendTo_prevails (h : C.Prevails start w) (since : start.Since w id) (observer : ActorName) :
    (id.sendTo react observer).KeepsUp C start w := by
  obtain ⟨ms, ds, -, sends, -⟩ := h.record
  have noted := h.dispatch since (.observer observer) nofun
  refine r.prevails noted ⟨_, sends.trans (.dispatch w id (.observer observer) _), .inr ?_⟩
  exact ⟨_, List.mem_append_right ds (List.mem_singleton_self _), rfl, rfl⟩

theorem sendFineTo_prevails (h : C.Prevails start w) (observer : ActorName) :
    (sendFineTo react observer).KeepsUp C start w :=
  r.prevails h (h.accounts fun _ => .inl rfl)

variable [RandomSource γ] (fed : C.Fed γ)
include fed

/-- Rolling the weather of a cycle when its interval has elapsed. -/
theorem changeWhenDue_prevails (h : C.Prevails start w) (since : start.Since w id) :
    (id.changeWhenDue react).KeepsUp C start w := by
  rw [Sim.KeepsUp, changeWhenDue, Sim.ends_bind, Sim.ends_cycle, Sim.ends_ite]
  split
  · have reset := h.editCycle id (f := fun c => { c with timer := c.timer.reset })
      (fun _ => ⟨rfl, rfl, rfl⟩) (C.timer _ (h.admits since))
    rw [Sim.ends_bind, Sim.ends_editCycle, Sim.ends_bind]
    replace since := since.editCycle id fun c => { c with timer := c.timer.reset }
    refine ((regenerate_prevails fed reset since).and (regenerate_touches id _)).mono
      (fun changed w₁ ends => ?_) fun _ _ failed => failed.1
    obtain ⟨⟨brought, kept⟩, touched⟩ := ends
    cases changed with
    | true => exact broadcast_prevails r brought ⟨since.1, touched.size.symm ▸ since.2⟩ true
    | false => exact kept (.inl rfl)
  · exact h

/-- **Letting time pass for a cycle keeps a climate up.** -/
theorem update_prevails (h : C.Prevails start w) (since : start.Since w id) (diff : Int) :
    (id.update react diff).KeepsUp C start w := by
  have passed := h.editCycle id (f := fun c =>
      { c with timer := if 0 ≤ c.timer.current then c.timer.advance diff else c.timer.reset })
    (fun _ => ⟨rfl, rfl, by dsimp only; split <;> rfl⟩) (C.timer _ (h.admits since))
  rw [Sim.KeepsUp, update, Sim.ends_bind, passTime, Sim.ends_editCycle]
  refine (changeWhenDue_prevails r fed passed (since.editCycle id _)).bind fun kept w₁ after => ?_
  cases kept with
  | true => exact (Hooks.notifyTicked_prevails r after (some id) diff).bind fun _ _ heard => heard
  | false => exact after

end CycleId

end Calls

/-! ### Operations of the manager -/

section Operations

variable [RandomSource γ] {C : Climate} {start w : World γ} (fed : C.Fed γ)
include fed

namespace Manager

/-- Starting the weather of a zone: a new cycle is fine, so its first weather is selected. -/
theorem add_prevails (h : C.Prevails start w) (zone : Value) :
    (add zone).Ends w
      (fun found w' => C.Prevails start w' ∧ ∀ id, found = some id → start.Since w' id)
      fun _ w' => C.Prevails start w' := by
  rw [ends_add]
  split
  · cases chances : w.manager.chances? zone with
    | none => exact ⟨h, nofun⟩
    | some table =>
      have started := h.started chances
      have since : start.Since (w.start zone table) ⟨w.cycles.size⟩ :=
        ⟨h.size, by simp [World.start]⟩
      have fine : ((w.start zone table).cycle ⟨w.cycles.size⟩).kind = .fine := by
        rw [World.cycle_start_self]
      refine ((CycleId.regenerate_prevails fed started since).and
        (CycleId.regenerate_touches _ _)).mono (fun changed w' ends => ?_)
          fun _ _ failed => failed.1
      obtain ⟨⟨_, kept⟩, touched⟩ := ends
      refine ⟨kept (.inr fine), fun id same => ?_⟩
      obtain rfl := Option.some.inj same
      exact ⟨since.1, touched.size.symm ▸ since.2⟩
  · exact h

theorem getOrCreate_prevails (h : C.Prevails start w) (zone : Value) :
    (getOrCreate zone).Ends w
      (fun found w' => C.Prevails start w' ∧ ∀ id, found = some id → start.Since w' id)
      fun _ w' => C.Prevails start w' := by
  rw [ends_getOrCreate]
  split
  · cases found : w.manager.find? zone with
    | none => exact add_prevails fed h zone
    | some id =>
      refine ⟨h, fun other same => ?_⟩
      obtain rfl := Option.some.inj same
      obtain ⟨k, running, -⟩ := Table.mem_of_find? found
      exact ⟨(h.under.live running).1, (h.under.live running).2.known⟩
  · exact h

omit fed [RandomSource γ] in
theorem remove_prevails (h : C.Prevails start w) (zone : Value) :
    (remove zone).KeepsUp C start w := by
  rw [Sim.KeepsUp, remove, Sim.ends_bind, Sim.ends_get, Sim.ends_ite]
  split
  · exact h
  · rw [Sim.ends_bind, Sim.ends_requireKey]
    split
    · exact h.erased fun _ => rfl
    · exact h

variable {react : Reaction γ} (r : react.KeepsUp C start)
include r

/-- Updating cycles one after the other: none of them is forgotten meanwhile. -/
theorem updateEach_prevails (diff : Int) (cycles : List (Value × CycleId)) (h : C.Prevails start w)
    (since : ∀ e ∈ cycles, start.Since w e.2) :
    (updateEach react diff cycles).KeepsUp C start w := by
  induction cycles generalizing w with
  | nil => exact h
  | cons e rest ih =>
    rw [Sim.KeepsUp, ends_updateEach_cons]
    have grows :=
      CycleId.update_keeps r.growing (Contract.admits_growing.toPermits.letsUpdate e.2) diff w
    refine ((CycleId.update_prevails r fed h (since e (by simp)) diff).and grows).mono
      (fun kept w₁ ends => ?_) fun _ _ failed => failed.1
    obtain ⟨after, grown⟩ := ends
    have later : ∀ e ∈ rest, start.Since w₁ e.2 :=
      fun e mem => grown.since (since e (by simp [mem]))
    cases kept with
    | true => exact ih after later
    | false =>
      have logged := after.emit (e := .logged (.removing e.1)) fun _ _ => trivial
      rw [if_neg Bool.false_ne_true]
      split
      · exact ih (logged.erased fun _ => rfl) later
      · exact logged

/-- **Updates of the manager keep a climate up.** -/
theorem update_prevails (h : C.Prevails start w) (diff : Int) :
    (update react diff).KeepsUp C start w := by
  rw [Sim.KeepsUp, update, Sim.ends_bind, Sim.ends_get]
  refine updateEach_prevails fed r diff _ h fun e running => ?_
  exact ⟨(h.under.live running).1, (h.under.live running).2.known⟩

theorem observerEntered_prevails (h : C.Prevails start w) (observer : ActorName) (zone : Value) :
    (observerEntered react observer zone).KeepsUp C start w := by
  rw [Sim.KeepsUp, observerEntered, Sim.ends_bind]
  refine (getOrCreate_prevails fed h zone).mono (fun found w' ends => ?_)
    fun _ _ failed => failed
  obtain ⟨after, since⟩ := ends
  cases found with
  | none => exact CycleId.sendFineTo_prevails r after observer
  | some id => exact CycleId.sendTo_prevails r after (since id rfl) observer

theorem setZoneWeather_prevails (h : C.Prevails start w) (zone : Value) {kind : WeatherKind}
    {x : Float} (allowed : C.Forced kind x) (trigger : Bool) :
    (setZoneWeather react zone kind x trigger).KeepsUp C start w := by
  rw [Sim.KeepsUp, setZoneWeather, Sim.ends_bind]
  refine (getOrCreate_prevails fed h zone).mono (fun found w' ends => ?_)
    fun _ _ failed => failed
  obtain ⟨after, since⟩ := ends
  cases found with
  | none => exact after
  | some id =>
    exact (CycleId.setWeather_prevails r after (since id rfl) allowed trigger).bind
      fun _ _ set => set

end Manager

end Operations

/-! ### Commands -/

/-- A command to the manager forces no weather but what a climate allows. -/
def ManagerCommand.Allowed (C : Climate) : ManagerCommand → Prop
  | setWeather _ kind x _ => C.Forced kind x
  | _ => True

/-- **What may be asked of a world** under a climate: operations of the manager, moves in the
directory, and failing. -/
def Command.Regular (C : Climate) : Command γ → Prop
  | manager command => command.Allowed C
  | directory _ | actor (.fail _) => True
  | _ => False

/-- Actors respond with such commands only. -/
def Behaviour.Regular (C : Climate) (behaviour : Behaviour γ) : Prop :=
  ∀ call w, ∀ action ∈ behaviour call w, action.command.Regular C

section Commands

variable {C : Climate} {start w : World γ}

/-- Whoever moves in the directory does not matter to a climate. -/
theorem DirectoryCommand.perform_prevails (h : C.Prevails start w) (command : DirectoryCommand) :
    command.perform.KeepsUp C start w := by
  have move (m : Move) {v : World γ} (h : C.Prevails start v) : m.carryOut.KeepsUp C start v := by
    rw [Sim.KeepsUp, Sim.Ends, Move.carryOut]
    cases m.make v.directory <;> exact h.surroundings rfl rfl rfl rfl
  have key (zone : Value) {v : World γ} (h : C.Prevails start v) :
      (Sim.requireKey zone).KeepsUp C start v := by
    rw [Sim.KeepsUp, Sim.ends_requireKey]
    split <;> exact h
  cases command with
  | enter observer zone =>
    refine .bind (.bind (move _ h) fun _ _ left => ?_) fun _ _ entered => entered
    exact .bind (key zone left) fun _ _ left => move _ left
  | leave observer => exact .bind (move _ h) fun _ _ left => left
  | zoneOf observer => exact h
  | observers zone => exact .bind (key zone h) fun _ _ h => h

variable [RandomSource γ] (fed : C.Fed γ) {react : Reaction γ} (r : react.KeepsUp C start)
include fed r

theorem ManagerCommand.perform_prevails (h : C.Prevails start w) {command : ManagerCommand}
    (allowed : command.Allowed C) : (command.perform react).KeepsUp C start w := by
  have shown {x : Sim γ (Option CycleId)}
      (hx : x.Ends w
        (fun found w' => C.Prevails start w' ∧ ∀ id, found = some id → start.Since w' id)
        fun _ w' => C.Prevails start w') :
      (do CycleId.show (← x) : Sim γ Reply).KeepsUp C start w := by
    refine Sim.KeepsUp.bind (hx.mono (fun _ _ got => got.1) fun _ _ failed => failed)
      fun found w' after => ?_
    cases found <;> exact after
  have key (zone : Value) : (Sim.requireKey zone).KeepsUp C start w := by
    rw [Sim.KeepsUp, Sim.ends_requireKey]
    split <;> exact h
  cases command with
  | chances zone =>
    exact .bind (.bind (key zone) fun _ _ h => h) fun _ _ h => h
  | find zone =>
    refine Sim.KeepsUp.bind (.bind (key zone) fun _ _ h => h) fun found _ h => ?_
    cases found <;> exact h
  | add zone => exact shown (Manager.add_prevails fed h zone)
  | getOrCreate zone => exact shown (Manager.getOrCreate_prevails fed h zone)
  | remove zone => exact (Manager.remove_prevails h zone).bind fun _ _ h => h
  | update diff => exact (Manager.update_prevails fed r h diff).bind fun _ _ h => h
  | observerEntered observer zone =>
    exact (Manager.observerEntered_prevails fed r h observer zone).bind fun _ _ h => h
  | setWeather zone kind x trigger =>
    exact (Manager.setZoneWeather_prevails fed r h zone allowed trigger).bind fun _ _ h => h
  | config => exact h

/-- **Every regular command keeps a climate up**, if the actors do. -/
theorem Command.perform_prevails (h : C.Prevails start w) (stage : Stage) (inTick : Bool)
    {command : Command γ} (regular : command.Regular C) :
    (command.perform stage react inTick).KeepsUp C start w := by
  cases command with
  | manager command =>
    refine Sim.KeepsUp.bind ?_ fun _ _ h => ManagerCommand.perform_prevails fed r h regular
    rw [Stage.require]
    split <;> exact h
  | directory command =>
    rw [Sim.KeepsUp, Command.perform, Sim.ends_bind, Sim.ends_get]
    cases w.messenger with
    | directory => exact command.perform_prevails h
    | recorder reaches => exact h
  | actor command =>
    cases command with
    | fail cause => exact h
    | _ => exact regular.elim
  | _ => exact regular.elim

end Commands

variable [RandomSource γ]

/-- An action is taken if its time has come, and only then something changes. -/
theorem Action.take_prevails {C : Climate} (fed : C.Fed γ) {start w : World γ} {react : Reaction γ}
    (r : react.KeepsUp C start) (h : C.Prevails start w) (stage : Stage) (inTick : Bool)
    {action : Action γ} (regular : action.command.Regular C) :
    (action.take stage react inTick).KeepsUp C start w := by
  have due : (action.isDue stage).KeepsUp C start w := by
    rw [Action.isDue]
    cases action.tick with
    | none => exact h
    | some n =>
      refine .bind ?_ fun _ _ h => h
      rw [Stage.require]
      split <;> exact h
  refine due.bind fun taken w' h => ?_
  cases taken with
  | true => exact (Command.perform_prevails fed r h stage inTick regular).map
  | false => exact h

/-- **Actors who respond with regular commands keep a climate up**, to whatever depth they call each
other. -/
theorem Stage.react_keepsUp {C : Climate} (fed : C.Fed γ) (start : World γ) (stage : Stage)
    {behaviour : Behaviour γ} (regular : behaviour.Regular C) (depth : Nat) :
    (stage.react behaviour depth).KeepsUp C start := by
  induction depth with
  | zero => exact ⟨stage.react_growing behaviour 0, fun h _ => h⟩
  | succ depth ih =>
    refine ⟨stage.react_growing behaviour (depth + 1), fun {w call} h accounts => ?_⟩
    obtain ⟨ds, sends, comes⟩ := accounts
    have noted : C.Prevails start (w.hear call) := by
      refine (h.emit fun es sends' => ?_).surroundings rfl rfl rfl rfl
      exact List.append_cancel_left (sends.symm.trans sends') ▸ comes
    refine Sim.KeepsUp.forM (w := w.hear call) _ noted fun action mem w' h => ?_
    exact Action.take_prevails fed ih h stage call.isTick (regular call _ action mem)

/-! ### Runs -/

/-- **A run of regular commands**, one after the other, whether they return or fail, and whatever
the actors do meanwhile. Between commands the surroundings of the weather may change: what delivers
packets, who listens, who is where, the clock, the engine and the random source. -/
inductive Run (C : Climate) (start : World γ) : World γ → Prop
  /-- Nothing was done yet. -/
  | nothing : Run C start start
  /-- A command was given. -/
  | command {w : World γ} (before : Run C start w) (stage : Stage) (behaviour : Behaviour γ)
      (regular : behaviour.Regular C) (depth : Nat) (inTick : Bool) {command : Command γ}
      (allowed : command.Regular C) :
      Run C start ((command.perform stage (stage.react behaviour depth) inTick).worldLeft w)
  /-- The surroundings changed. -/
  | surroundings {w : World γ} (before : Run C start w) (messenger : Messenger)
      (directory : Directory) (hooks : Hooks) (clock : Clock) (engine : Engine γ) (random : γ)
      (calls : List (ActorName × Nat)) :
      Run C start { w with
        messenger := messenger, directory := directory, hooks := hooks, clock := clock,
        engine := engine, random := random, calls := calls }

/-- **A climate prevails through every run** that starts where no weather is running. -/
theorem Run.prevails {C : Climate} (fed : C.Fed γ) {start w : World γ} (run : Run C start w)
    (idle : start.manager.live = .empty) : C.Prevails start w := by
  induction run with
  | nothing => exact .begin idle
  | command before stage behaviour regular depth inTick allowed ih =>
    have r := stage.react_keepsUp fed start regular depth
    exact Sim.Ends.worldLeft (Command.perform_prevails fed r ih stage inTick allowed)
  | surroundings before messenger directory hooks clock engine random calls ih =>
    exact ih.surroundings rfl rfl rfl rfl

end Microclimate
