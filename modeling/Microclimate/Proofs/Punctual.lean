import Microclimate.Proofs.Pass

/-!
# Timers on time

Between updates the timer of a running cycle stands at least at zero and below its interval. It
begins there, and an update that takes it to the interval sets it back before anybody is called.
Only those who set a timer by hand can do otherwise.

* `Microclimate.Timer.OnTime` – a timer stands below its interval, and not below zero;
* `Microclimate.World.Punctual` – all running cycles have such timers;
* `Microclimate.Command.LeavesTimers` – a command sets no timer by hand;
* `Microclimate.Undisturbed` – the worlds that such commands reach, with
  `Microclimate.Undisturbed.punctual`, **all their timers are on time.**
-/

namespace Microclimate

variable {γ α : Type}

/-! ### Timers -/

/-- A timer stands below its interval, and not below zero. -/
structure Timer.OnTime (t : Timer) : Prop where
  nonneg : 0 ≤ t.current
  below : t.current < t.interval

namespace Timer.OnTime

theorem interval_pos {t : Timer} (h : t.OnTime) : 0 < t.interval :=
  Int.lt_of_le_of_lt h.nonneg h.below

theorem reset {t : Timer} (h : 0 < t.interval) : t.reset.OnTime := ⟨Int.le_refl 0, h⟩

end Timer.OnTime

/-- Time may pass on any timer until it has passed. -/
theorem Timer.onTime_pass {t : Timer} {diff : Int} (h : (t.pass diff).passed = false) :
    (t.pass diff).OnTime := by
  refine ⟨?_, ?_⟩
  · rw [Timer.pass]
    split
    · exact t.current_advance_nonneg diff
    · exact Int.le_refl 0
  · simpa [Timer.passed] using h

/-! ### Worlds -/

/-- The timers of all running cycles are on time. -/
def World.Punctual (w : World γ) : Prop :=
  ∀ e ∈ w.manager.live.entries, e.2.number < w.cycles.size ∧ (w.cycle e.2).timer.OnTime

namespace World.Punctual

variable {w w' : World γ}

theorem congr (h : w.Punctual) (cycles : w'.cycles = w.cycles)
    (live : ∀ e ∈ w'.manager.live.entries, e ∈ w.manager.live.entries) : w'.Punctual := by
  intro e mem
  obtain ⟨known, onTime⟩ := h e (live e mem)
  refine ⟨cycles ▸ known, ?_⟩
  rw [Scene.cycle, cycles]
  exact onTime

/-- A change of a cycle that leaves its timer on time. -/
theorem edit (h : w.Punctual) (id : CycleId) {f : Cycle → Cycle}
    (onTime : id.number < w.cycles.size → (w.cycle id).timer.OnTime →
      (f (w.cycle id)).timer.OnTime) :
    (w.editCycle id f).Punctual := by
  intro e mem
  obtain ⟨known, before⟩ := h e mem
  refine ⟨by simpa using known, ?_⟩
  by_cases same : e.2 = id
  · subst same
    rw [w.cycle_editCycle known]
    exact onTime known before
  · rw [w.cycle_editCycle_of_ne same]
    exact before

/-- A cycle that is started begins on time. -/
theorem start (h : w.Punctual) (zone : Value) (table : SeasonTable) :
    (w.start zone table).Punctual := by
  intro e mem
  have size : (w.start zone table).cycles.size = w.cycles.size + 1 := by simp [World.start]
  rcases Table.mem_insert mem with old | ⟨-, new⟩
  · obtain ⟨known, onTime⟩ := h e old
    exact ⟨by omega, by rwa [World.cycle_start_of_known known]⟩
  · rw [new, World.cycle_start_self]
    refine ⟨by rw [size]; exact Nat.lt_succ_self _, ?_⟩
    exact ⟨Int.le_refl 0, w.manager.config.changeInterval_pos⟩

end World.Punctual

/-- If all timers were on time, they still are. -/
def World.StaysPunctual (w w' : World γ) : Prop := w.Punctual → w'.Punctual

theorem World.StaysPunctual.refl (w : World γ) : w.StaysPunctual w := fun h => h

theorem World.StaysPunctual.trans {a b c : World γ} (h : a.StaysPunctual b)
    (h' : b.StaysPunctual c) : a.StaysPunctual c := fun before => h' (h before)

/-- **The contract of keeping timers on time.** -/
def Contract.punctual : Contract γ := .always World.StaysPunctual .refl .trans

theorem Contract.allows_punctual : (punctual : Contract γ).Allows where
  happened _ _ _ h := h.congr rfl fun _ mem => mem
  surroundings _ _ _ _ _ _ _ _ h := h.congr rfl fun _ mem => mem
  stopped _ zone h := h.congr rfl fun _ mem => Table.mem_of_mem_erase (z := zone) mem
  moved w m _ h := by
    obtain ⟨d, attempts, left⟩ := m.carryOut_worldLeft w
    rw [left]
    exact h.congr rfl fun _ mem => mem
  fail _ _ h := h

/-! ### What is asked of cycles -/

section Cycles

variable [RandomSource γ]

theorem Contract.letsRoll_punctual (id : CycleId) : (punctual : Contract γ).LetsRoll id where
  weather w f h before := before.edit id fun _ onTime => by
    obtain ⟨kind, intensity, same⟩ := h (w.cycle id)
    rw [same]
    exact onTime
  integer _ _ _ := .bind .get fun _ => Sim.integerOf_keeps allows_punctual _ _ _
  intensity := HalfNormal.draw_keeps (Sim.normal_keeps allows_punctual) fun _ h => h
  season w zone :=
    (Sim.dayOfYear_keeps allows_punctual w).mono
      (fun _ _ read before => (read before).congr rfl fun _ mem => mem) fun _ _ bad => bad

omit [RandomSource γ] in
theorem Contract.letsTell_punctual (id : CycleId) : (punctual : Contract γ).LetsTell id where
  clamped _ before := before.edit id fun _ onTime => onTime
  dispatched _ _ _ h := h.congr rfl fun _ mem => mem
  handed _ _ _ _ h := h.congr rfl fun _ mem => mem
  changed _ _ _ h := h.congr rfl fun _ mem => mem
  noKey _ _ h := h

variable {react : Reaction γ} (h : react.Keeps .punctual)
include h

/-- **An update leaves timers on time**: one that has come to its interval is set back before
anybody is called. -/
theorem CycleId.update_punctual (id : CycleId) (diff : Int) :
    (id.update react diff).Keeps .punctual := by
  have changes : (do id.passTime diff; id.changeWhenDue react : Sim γ Bool).Keeps .punctual := by
    intro w
    simp only [passTime, changeWhenDue, Sim.ends_bind, Sim.ends_editCycle]
    change (Sim.cycle id).Ends (w.passTime id diff) _ _
    rw [Sim.ends_cycle]
    split
    next passed =>
      have ripe (before : w.Punctual) : (w.ripe id diff).Punctual := by
        rw [World.ripe, World.passTime, w.editCycle_editCycle]
        refine before.edit id fun _ onTime => .reset ?_
        have := onTime.interval_pos
        simp only [Timer.pass]
        split <;> exact this
      have rolled := CycleId.regenerate_keeps (Contract.letsRoll_punctual (γ := γ) id)
      have told := broadcast_keeps (Contract.letsTell_punctual id) h true
      have rest : (do
          if ← id.regenerate then id.broadcast react true else pure true : Sim γ Bool).Keeps
            .punctual :=
        .bind rolled fun _ => .ite told (.pure _)
      rw [Sim.ends_bind, Sim.ends_editCycle]
      exact rest.ends_trans ripe
    next waiting =>
      rw [Sim.ends_pure]
      refine fun before => before.edit id fun known _ => Timer.onTime_pass ?_
      have timer : ((w.passTime id diff).cycle id).timer = (w.cycle id).timer.pass diff := by
        rw [World.passTime, w.cycle_editCycle known]
      rw [← timer]
      exact Bool.eq_false_iff.2 waiting
  rw [update, ← bind_assoc]
  refine .bind changes fun _ => .ite ?_ (.pure _)
  exact .bind (Hooks.notifyTicked_keeps h _ _) fun _ => .pure _

omit [RandomSource γ] in
theorem CycleId.setWeather_punctual (id : CycleId) (kind : WeatherKind) (intensity : Float)
    (trigger : Bool) : (id.setWeather react kind intensity trigger).Keeps .punctual := by
  refine .bind (.cycle id) fun now => .ite (.pure _) (.bind (fun w before => ?_) fun _ => ?_)
  · exact before.edit id fun _ onTime => onTime
  · exact .discard (broadcast_keeps (Contract.letsTell_punctual id) h trigger)

omit [RandomSource γ] in
theorem CycleId.sendTo_punctual (id : CycleId) (observer : ActorName) :
    (id.sendTo react observer).Keeps .punctual :=
  .bind (.cycle id) fun _ => .bind (fun _ before => before.congr rfl fun _ mem => mem) fun _ => h _

theorem Manager.update_punctual (diff : Int) : (update react diff).Keeps .punctual :=
  update_keeps (fun id => CycleId.update_punctual h id diff)
    (fun _ zone _ before => before.congr rfl fun _ mem => Table.mem_of_mem_erase (z := zone) mem)
    fun _ _ before => before.congr rfl fun _ mem => mem

omit h in
theorem Manager.add_punctual (zone : Value) : (add zone : Sim γ _).Keeps .punctual := by
  intro w
  rw [ends_add]
  split
  · cases w.manager.chances? zone with
    | none => exact fun before => before
    | some table =>
      have rolled := CycleId.regenerate_keeps (Contract.letsRoll_punctual (γ := γ) ⟨w.cycles.size⟩)
      exact rolled.ends_trans fun before => before.start zone table
  · exact fun before => before

end Cycles

/-! ### Commands and actors -/

/-- A command sets no timer by hand. -/
def Command.LeavesTimers : Command γ → Prop
  | cycle _ (.assign _ _ (some _)) => False
  | _ => True

/-- Actors set no timer by hand. -/
def Behaviour.LeavesTimers (behaviour : Behaviour γ) : Prop :=
  ∀ call w, ∀ action ∈ behaviour call w, action.command.LeavesTimers

section Actors

variable [RandomSource γ]

theorem Command.perform_punctual {react : Reaction γ} (h : react.Keeps .punctual) (stage : Stage)
    (inTick : Bool) {command : Command γ} (leaves : command.LeavesTimers) :
    (command.perform stage react inTick).Keeps .punctual := by
  have allows := Contract.allows_punctual (γ := γ)
  have update := Manager.update_punctual h
  refine command.perform_allowed allows h update stage inTick ?_ fun asked _ =>
    asked.perform_allowed allows h update Manager.add_punctual (CycleId.sendTo_punctual h)
      (CycleId.setWeather_punctual h)
  rintro name asked rfl id
  cases asked with
  | update diff => exact .bind (CycleId.update_punctual h id diff) fun _ => .pure _
  | regenerate =>
    exact .bind (CycleId.regenerate_keeps (Contract.letsRoll_punctual id)) fun _ => .pure _
  | broadcast trigger =>
    exact .bind (CycleId.broadcast_keeps (Contract.letsTell_punctual id) h trigger) fun _ => .pure _
  | setWeather kind intensity trigger =>
    exact .bind (CycleId.setWeather_punctual h id kind intensity trigger) fun _ => .pure _
  | sendTo observer => exact .bind (CycleId.sendTo_punctual h id observer) fun _ => .pure _
  | sendFineTo observer => exact .bind (CycleId.sendFineTo_keeps h observer) fun _ => .pure _
  | describe => exact .bind (.cycle id) fun _ => .pure _
  | profile => exact .bind (.cycle id) fun _ => .pure _
  | assign kind intensity elapsed =>
    cases elapsed with
    | none => exact .bind (fun _ before => before.edit id fun _ onTime => onTime) fun _ => .pure _
    | some elapsed => exact leaves.elim

theorem Stage.react_punctual (stage : Stage) {behaviour : Behaviour γ}
    (leaves : behaviour.LeavesTimers) (depth : Nat) :
    (stage.react behaviour depth).Keeps .punctual :=
  stage.react_allowed Contract.allows_punctual
    (fun h call w action mem => Command.perform_punctual h stage _ (leaves call w action mem)) depth

/-- **The worlds that can be reached without setting a timer by hand**, from one in which no weather
is running, by commands that return or fail, whatever else the actors do meanwhile. -/
inductive Undisturbed : World γ → Prop
  /-- No weather is running yet. -/
  | start {w : World γ} (idle : w.manager.live = .empty) : Undisturbed w
  /-- A command was given. -/
  | command {w : World γ} (stage : Stage) {behaviour : Behaviour γ}
      (actors : behaviour.LeavesTimers) (depth : Nat) (inTick : Bool) {command : Command γ}
      (leaves : command.LeavesTimers) (before : Undisturbed w) :
      Undisturbed ((command.perform stage (stage.react behaviour depth) inTick).worldLeft w)

theorem Undisturbed.reachable {w : World γ} (h : Undisturbed w) : Reachable w := by
  induction h with
  | start idle => exact .start idle
  | command stage actors depth inTick leaves before ih =>
    exact .command stage _ depth inTick _ ih

/-- **In such a world all timers are on time.** -/
theorem Undisturbed.punctual {w : World γ} (h : Undisturbed w) : w.Punctual := by
  induction h with
  | start idle =>
    intro e mem
    rw [idle] at mem
    cases mem
  | command stage actors depth inTick leaves before ih =>
    have react := stage.react_punctual actors depth
    exact (Command.perform_punctual react stage inTick leaves).worldLeft _ ih

theorem Undisturbed.afterAll {w : World γ} (h : Undisturbed w) (stage : Stage)
    {behaviour : Behaviour γ} (actors : behaviour.LeavesTimers) (depth : Nat)
    (commands : List (Command γ)) (leaves : ∀ c ∈ commands, c.LeavesTimers) :
    Undisturbed (w.afterAll stage behaviour depth commands) := by
  induction commands generalizing w with
  | nil => exact h
  | cons c rest ih =>
    exact ih (.command stage actors depth false (leaves c (by simp)) h)
      fun d mem => leaves d (by simp [mem])

end Actors

end Microclimate
