import Microclimate.Proofs.Steps
import Microclimate.Proofs.Views

/-!
# Actors who only take note

The simplest actors note that they are called and do nothing. With them, the operations of a cycle
touch that cycle only: whoever is where, whoever listens and whatever else is running stays as it
is, and of what happens meanwhile all is known but the draws.

* `Microclimate.Behaviour.recording` – these actors, with `Microclimate.Stage.react_recording`;
* `Microclimate.World.hearAll` – a world after some calls were noted;
* `Microclimate.World.Touches` – **one cycle is touched and nothing else**;
* `Microclimate.CycleId.regenerate_touches`, `Microclimate.CycleId.broadcast_recording` – rolling
  the weather of a cycle and telling of it.
-/

namespace Microclimate

variable {γ : Type}

/-- Actors who do nothing when they are called. -/
def Behaviour.recording : Behaviour γ := fun _ _ => []

/-- Actors who do nothing only take note of calls. -/
theorem Stage.react_recording [RandomSource γ] (stage : Stage) (depth : Nat) :
    (stage.react .recording (depth + 1) : Reaction γ) = Call.note := by
  funext call w
  rfl

/-! ### Noting calls -/

namespace World

/-- A world after a call was noted. -/
def hear (w : World γ) (call : Call) : World γ := (w.emit (call.event w)).countCall call.actor

/-- A world after some calls were noted, one after the other. -/
def hearAll (w : World γ) (calls : List Call) : World γ := calls.foldl hear w

/-- A call is the same event in all worlds of a scene. -/
theorem event_congr {w w' : World γ} (h : w'.toScene = w.toScene) (call : Call) :
    call.event w' = call.event w := by
  cases call <;> simp only [Call.event, h]

@[simp] theorem toScene_hearAll (w : World γ) (calls : List Call) :
    (w.hearAll calls).toScene = w.toScene := by
  induction calls generalizing w with
  | nil => rfl
  | cons call rest ih => exact ih (w.hear call)

@[simp] theorem ledger_hearAll (w : World γ) (calls : List Call) :
    (w.hearAll calls).ledger = w.ledger := by
  induction calls generalizing w with
  | nil => rfl
  | cons call rest ih => exact ih (w.hear call)

/-- What is added by noting calls: the calls. -/
theorem adds_hearAll (w : World γ) (calls : List Call) :
    w.Adds (calls.map fun call => ⟨call.event w, w.toScene⟩) (w.hearAll calls) := by
  induction calls generalizing w with
  | nil => exact .nothing rfl
  | cons call rest ih =>
    have heard : w.Adds [⟨call.event w, w.toScene⟩] (w.hear call) := .emit w _
    have later := ih (w.hear call)
    simp only [event_congr (show (w.hear call).toScene = w.toScene from rfl)] at later
    exact heard.trans later

end World

@[simp] theorem Sim.ends_note {w : World γ} {good : Unit → World γ → Prop}
    {bad : Fault → World γ → Prop} (call : Call) :
    (call.note : Sim γ Unit).Ends w good bad ↔ good () (w.hear call) := Iff.rfl

@[simp] theorem Sim.ends_forM_note {α : Type} {w : World γ} {good : PUnit → World γ → Prop}
    {bad : Fault → World γ → Prop} (l : List α) (call : α → Call) :
    (l.forM fun a => ((call a).note : Sim γ PUnit)).Ends w good bad ↔
      good ⟨⟩ (w.hearAll (l.map call)) := by
  induction l generalizing w with
  | nil => rfl
  | cons a rest ih =>
    rw [List.forM, Sim.ends_bind, Sim.ends_note]
    exact ih

/-! ### Touching one cycle -/

/-- **Only one cycle is touched**, and that one keeps what it was made with; whatever happens
meanwhile is of a certain kind. -/
structure World.Touches (kind : Event → Prop) (id : CycleId) (w w' : World γ) : Prop where
  scene : w'.toScene = { w.toScene with cycles := w'.cycles }
  size : w'.cycles.size = w.cycles.size
  others : ∀ {other}, other ≠ id → w'.cycle other = w.cycle other
  make : (w.cycle id).SameMake (w'.cycle id)
  ledger : w'.ledger = w.ledger
  moments : ∃ ms, w.Adds ms w' ∧ ∀ m ∈ ms, kind m.event

namespace World.Touches

variable {kind : Event → Prop} {id : CycleId}

theorem refl (w : World γ) : w.Touches kind id w :=
  ⟨rfl, rfl, fun _ => rfl, ⟨rfl, rfl, rfl⟩, rfl, [], .nothing rfl, by simp⟩

theorem trans {a b c : World γ} (h : a.Touches kind id b) (h' : b.Touches kind id c) :
    a.Touches kind id c where
  scene := by rw [h'.scene, h.scene]
  size := h'.size.trans h.size
  others ne := (h'.others ne).trans (h.others ne)
  make := ⟨h'.make.zone.trans h.make.zone, h'.make.table.trans h.make.table,
    h'.make.interval.trans h.make.interval⟩
  ledger := h'.ledger.trans h.ledger
  moments := by
    obtain ⟨ms, first, early⟩ := h.moments
    obtain ⟨ns, second, late⟩ := h'.moments
    refine ⟨ms ++ ns, first.trans second, fun m mem => ?_⟩
    exact (List.mem_append.1 mem).elim (early m) (late m)

theorem mono {kind' : Event → Prop} {w w' : World γ} (h : w.Touches kind id w')
    (imp : ∀ e, kind e → kind' e) : w.Touches kind' id w' := by
  obtain ⟨ms, adds, all⟩ := h.moments
  exact ⟨h.scene, h.size, h.others, h.make, h.ledger, ms, adds, fun m mem => imp _ (all m mem)⟩

theorem manager {w w' : World γ} (h : w.Touches kind id w') : w'.manager = w.manager := by
  rw [h.scene]

theorem directory {w w' : World γ} (h : w.Touches kind id w') : w'.directory = w.directory := by
  rw [h.scene]

theorem messenger {w w' : World γ} (h : w.Touches kind id w') : w'.messenger = w.messenger := by
  rw [h.scene]

/-- What leaves the scene alone touches nothing. -/
theorem of_scene {w w' : World γ} (scene : w'.toScene = w.toScene) (ledger : w'.ledger = w.ledger)
    {ms : List Moment} (adds : w.Adds ms w') (all : ∀ m ∈ ms, kind m.event) :
    w.Touches kind id w' := by
  refine ⟨by rw [scene], by rw [scene], fun _ => by rw [scene], ?_, ledger, ms, adds, all⟩
  rw [scene]
  exact ⟨rfl, rfl, rfl⟩

theorem emit (w : World γ) {e : Event} (h : kind e) : w.Touches kind id (w.emit e) :=
  .of_scene rfl rfl (.emit w e) (by simpa using h)

theorem dispatch (w : World γ) (receiver : Receiver) (packet : Packet) :
    w.Touches kind id (w.dispatch id receiver packet) :=
  .of_scene rfl rfl (.nothing rfl) (by simp)

theorem hearAll (w : World γ) {calls : List Call} (h : ∀ call ∈ calls, kind (call.event w)) :
    w.Touches kind id (w.hearAll calls) := by
  refine .of_scene (by simp) (by simp) (w.adds_hearAll calls) fun m mem => ?_
  obtain ⟨call, called, rfl⟩ := List.mem_map.1 mem
  exact h call called

theorem editCycle (w : World γ) (id : CycleId) {f : Cycle → Cycle}
    (make : ∀ c, Cycle.SameMake c (f c)) : w.Touches kind id (w.editCycle id f) where
  scene := rfl
  size := by simp
  others ne := w.cycle_editCycle_of_ne ne f
  make := by
    by_cases known : id.number < w.cycles.size
    · rw [w.cycle_editCycle known]
      exact make _
    · have same : (w.editCycle id f).cycle id = w.cycle id := by
        simp [Scene.cycle, known]
      rw [same]
      exact ⟨rfl, rfl, rfl⟩
  ledger := rfl
  moments := ⟨[], .nothing rfl, by simp⟩

end World.Touches

/-! ### Packets -/

/-- The packet that an observer receives in an event. -/
def Event.packetFor? (observer : ActorName) : Event → Option Packet
  | packet name p => if name = observer then some p else none
  | _ => none

/-- The packets that an observer has received, oldest first. -/
def World.received (w : World γ) (observer : ActorName) : List Packet :=
  w.history.toList.filterMap (·.event.packetFor? observer)

theorem World.Adds.received {w w' : World γ} {ms : List Moment} (h : w.Adds ms w')
    (observer : ActorName) :
    w'.received observer = w.received observer ++ ms.filterMap (·.event.packetFor? observer) := by
  rw [World.received, h, List.filterMap_append]
  rfl

/-- An event that no observer receives. -/
def Event.Unheard (e : Event) : Prop := ∀ observer, e.packetFor? observer = none

theorem World.Touches.received {id : CycleId} {w w' : World γ} (h : w.Touches Event.Unheard id w')
    (observer : ActorName) : w'.received observer = w.received observer := by
  obtain ⟨ms, adds, unheard⟩ := h.moments
  have none : ms.filterMap (·.event.packetFor? observer) = [] :=
    List.filterMap_eq_nil_iff.2 fun m mem => unheard m mem observer
  rw [adds.received, none, List.append_nil]

/-- Whoever is told receives the packet last, and nobody else receives anything. -/
theorem World.received_hearAll (w : World γ) (names : List ActorName) (p : Packet)
    (observer : ActorName) :
    ((w.hearAll (names.map (.packet · p))).received observer).getLast? =
      if observer ∈ names then some p else (w.received observer).getLast? := by
  have told : ∀ q, q ∈ ((names.map (Call.packet · p)).map fun call =>
      (⟨call.event w, w.toScene⟩ : Moment)).filterMap (·.event.packetFor? observer) ↔
        observer ∈ names ∧ q = p := by
    intro q
    simp only [List.mem_filterMap, List.mem_map, Call.event, Event.packetFor?]
    constructor
    · rintro ⟨_, ⟨_, ⟨name, mem, rfl⟩, rfl⟩, heard⟩
      obtain ⟨rfl, rfl⟩ : name = observer ∧ p = q := by
        simpa [Call.event, Event.packetFor?] using heard
      exact ⟨mem, rfl⟩
    · rintro ⟨mem, rfl⟩
      exact ⟨_, ⟨_, ⟨observer, mem, rfl⟩, rfl⟩, by simp⟩
  rw [(w.adds_hearAll _).received, List.getLast?_append]
  -- all packets that the observer receives are the same, so it does not matter which is the last
  split
  next mem =>
    obtain ⟨q, last⟩ := Option.isSome_iff_exists.1
      (List.getLast?_isSome.2 (List.ne_nil_of_mem ((told p).2 ⟨mem, rfl⟩)))
    rw [last, ((told q).1 (List.mem_of_getLast? last)).2, Option.some_or]
  next absent =>
    rw [List.eq_nil_iff_forall_not_mem.2 fun q mem => absent ((told q).1 mem).1]
    rfl

/-! ### Rolling the weather of a cycle -/

/-- What happens when weather is rolled. -/
def Event.IsRoll : Event → Prop
  | integerDrawn .. | normalDrawn .. | logged (.generating ..) => True
  | _ => False

/-- The contract of touching one cycle only. -/
def Contract.touching (kind : Event → Prop) (id : CycleId) : Contract γ :=
  .always (World.Touches kind id) .refl .trans

theorem Sim.draw_touches {kind : Event → Prop} {id : CycleId} {α : Type} (owner : Owner)
    (d : EStateM Fault γ α) (event : Option α → Event) (all : ∀ a, kind (event a)) :
    (Sim.draw owner d event).Keeps (.touching kind id) := by
  intro w
  have source (g : γ) : w.Touches kind id (w.setSource owner g) :=
    .of_scene (by simp) (by simp) (.nothing (by simp)) (by simp)
  rw [Sim.ends_draw]
  cases d (w.source owner) with
  | ok a g => exact (source g).trans (.emit _ (all _))
  | error f g => exact (source g).trans (.emit _ (all _))

/-- Touching one cycle only lets the weather of that cycle be rolled. -/
theorem Contract.letsRoll_touching [RandomSource γ] (id : CycleId) :
    (touching Event.IsRoll id : Contract γ).LetsRoll id := by
  have normal (mean spread : Float) :
      (Sim.normal mean spread : Sim γ Float).Keeps (.touching Event.IsRoll id) :=
    .bind .get fun _ => Sim.draw_touches _ _ _ fun _ => trivial
  refine ⟨fun w f h => .editCycle w id fun c => ?_, fun low high _ => ?_, ?_, fun w zone => ?_⟩
  · obtain ⟨kind, intensity, hf⟩ := h c
    rw [hf]
    exact ⟨rfl, rfl, rfl⟩
  · exact .bind .get fun _ => Sim.draw_touches _ _ _ fun _ => trivial
  · exact HalfNormal.draw_keeps normal fun w => .refl w
  · rw [Sim.ends_dayOfYear]
    cases w.clock.dayOfYear with
    | ok day => exact .emit w trivial
    | error f => exact .refl w

/-- **Rolling the weather of a cycle touches that cycle only**, whether it succeeds or fails. -/
theorem CycleId.regenerate_touches [RandomSource γ] (id : CycleId) :
    (id.regenerate : Sim γ Bool).Keeps (.touching Event.IsRoll id) :=
  regenerate_keeps (Contract.letsRoll_touching id)

/-! ### Telling of the weather of a cycle -/

/-- An event other than a report that nobody was reached. -/
def Event.NoReport (e : Event) : Prop := ∀ zone, e ≠ .logged (.removing zone)

/-- An event that is neither a report nor heard by any observer. -/
def Event.Silent (e : Event) : Prop := e.NoReport ∧ e.Unheard

theorem Event.IsRoll.silent {e : Event} (h : e.IsRoll) : e.Silent := by
  refine ⟨?_, fun observer => ?_⟩
  · rintro zone rfl
    exact h
  · cases e with
    | packet name p => exact h.elim
    | _ => rfl

/-- The world once a cycle has brought its intensity into the range that is broadcast and has sent
its weather to its zone, before anybody receives it. -/
def World.announce (w : World γ) (id : CycleId) : World γ :=
  let ready := w.editCycle id Cycle.clamp
  ready.dispatch id (.zone (ready.cycle id).zone) (ready.cycle id).packet

theorem World.touches_announce {kind : Event → Prop} (w : World γ) (id : CycleId) :
    w.Touches kind id (w.announce id) := by
  have clamped : w.Touches kind id (w.editCycle id Cycle.clamp) :=
    .editCycle w id fun _ => ⟨rfl, rfl, rfl⟩
  exact clamped.trans (.dispatch _ _ _)

/-- **Telling a zone of its weather, step by step**, through the directory: the observers in the
zone receive a packet, and if there are any, the listeners are notified. -/
theorem CycleId.ends_broadcast {react : Reaction γ} {w : World γ}
    (directory : w.messenger = .directory) (id : CycleId) (trigger : Bool)
    {good : Bool → World γ → Prop} {bad : Fault → World γ → Prop} :
    (id.broadcast react trigger).Ends w good bad ↔
      let c := (w.announce id).cycle id
      let members := w.directory.observers c.zone
      if c.zone.isKey then
        (members.forM fun observer => react (.packet observer c.packet)).Ends (w.announce id)
          (fun _ u =>
            if members.isEmpty then good false u
            else if trigger then
              (Hooks.notifyChanged react (some id) c.state (u.cycle id).intensity).Ends
                (u.emit (.logged (.changed c.zone c.state))) (fun _ => good true) bad
            else good true (u.emit (.logged (.changed c.zone c.state))))
          bad
      else bad (.notAKey c.zone) (w.announce id) := by
  have through : (w.announce id).messenger = .directory := directory
  have there : (w.announce id).directory = w.directory := rfl
  have now : (w.editCycle id Cycle.clamp).cycle id = (w.announce id).cycle id := rfl
  rw [broadcast, Sim.ends_bind, Sim.ends_editCycle, Sim.ends_bind, Sim.ends_cycle, Sim.ends_bind,
    Sim.ends_dispatch]
  change Sim.Ends _ (w.announce id) _ _ ↔ _
  simp only [Messenger.send, Directory.send, Sim.ends_bind, Sim.ends_get, through, there, now,
    Sim.ends_requireKey, Sim.ends_pure, Sim.ends_ite, Sim.ends_log, Sim.ends_cycle]
  cases (w.directory.observers ((w.announce id).cycle id).zone).isEmpty <;> simp

@[simp] theorem Hooks.ends_notifyTicked_note {w : World γ} {good : Unit → World γ → Prop}
    {bad : Fault → World γ → Prop} (cycle : Option CycleId) (diff : Int) :
    (Hooks.notifyTicked Call.note cycle diff).Ends w good bad ↔
      good () (w.hearAll (w.hooks.ticked.map (.ticked · cycle diff))) := by
  simp only [Hooks.notifyTicked, Sim.ends_bind, Sim.ends_get, Sim.ends_forM_note]

@[simp] theorem Hooks.ends_notifyChanged_note {w : World γ} {good : Unit → World γ → Prop}
    {bad : Fault → World γ → Prop} (cycle : Option CycleId) (state : WeatherState)
    (intensity : Float) :
    (Hooks.notifyChanged Call.note cycle state intensity).Ends w good bad ↔
      good () (w.hearAll (w.hooks.changed.map (.changed · cycle state intensity))) := by
  simp only [Hooks.notifyChanged, Sim.ends_bind, Sim.ends_get, Sim.ends_forM_note]

theorem World.Touches.hearTicked {id : CycleId} (w : World γ) (names : List ActorName)
    (cycle : Option CycleId) (diff : Int) :
    w.Touches Event.Silent id (w.hearAll (names.map (.ticked · cycle diff))) := by
  refine .hearAll w fun call mem => ?_
  obtain ⟨name, -, rfl⟩ := List.mem_map.1 mem
  exact ⟨fun _ => nofun, fun _ => rfl⟩

theorem World.Touches.hearChanged {id : CycleId} (w : World γ) (names : List ActorName)
    (cycle : Option CycleId) (state : WeatherState) (intensity : Float) :
    w.Touches Event.Silent id (w.hearAll (names.map (.changed · cycle state intensity))) := by
  refine .hearAll w fun call mem => ?_
  obtain ⟨name, -, rfl⟩ := List.mem_map.1 mem
  exact ⟨fun _ => nofun, fun _ => rfl⟩

/-- **Telling a zone of its weather**: the members of the zone receive the weather of the cycle,
brought into the range that is broadcast, and nobody else receives anything. -/
theorem CycleId.broadcast_recording {id : CycleId} {w : World γ}
    (directory : w.messenger = .directory) (known : id.number < w.cycles.size)
    (key : (w.cycle id).zone.isKey) (trigger : Bool) :
    (id.broadcast Call.note trigger).Ends w
      (fun told w' =>
        told = !(w.directory.observers (w.cycle id).zone).isEmpty ∧ w.Touches Event.NoReport id w' ∧
          w'.cycle id = (w.cycle id).clamp ∧
            ∀ observer, (w'.received observer).getLast? =
              if observer ∈ w.directory.observers (w.cycle id).zone then
                some (w.cycle id).clamp.packet
              else (w.received observer).getLast?)
      fun _ _ => False := by
  have clamped : (w.announce id).cycle id = (w.cycle id).clamp :=
    w.cycle_editCycle known Cycle.clamp
  have announced : w.Touches Event.Silent id (w.announce id) := w.touches_announce id
  rw [ends_broadcast directory]
  dsimp only
  rw [clamped, Cycle.zone_clamp, if_pos key, Sim.ends_forM_note]
  generalize members : w.directory.observers (w.cycle id).zone = names
  generalize w.announce id = w₁ at clamped announced
  have told : w₁.Touches Event.NoReport id
      (w₁.hearAll (names.map (.packet · (w.cycle id).clamp.packet))) := by
    refine .hearAll w₁ fun call mem => ?_
    obtain ⟨name, -, rfl⟩ := List.mem_map.1 mem
    exact fun _ => nofun
  have heard := w₁.received_hearAll names (w.cycle id).clamp.packet
  have scene := w₁.toScene_hearAll (names.map (.packet · (w.cycle id).clamp.packet))
  generalize w₁.hearAll (names.map (.packet · (w.cycle id).clamp.packet)) = w₂ at told heard scene ⊢
  -- what follows is not heard by any observer and leaves the cycle alone
  have finish {w' : World γ} (after : w₂.Touches Event.Silent id w')
      (same : w'.toScene = w₂.toScene) :
      w.Touches Event.NoReport id w' ∧ w'.cycle id = (w.cycle id).clamp ∧
        ∀ observer, (w'.received observer).getLast? =
          if observer ∈ names then some (w.cycle id).clamp.packet
          else (w.received observer).getLast? := by
    refine ⟨(announced.mono fun _ h => h.1).trans (told.trans (after.mono fun _ h => h.1)), ?_, ?_⟩
    · rw [same, scene, clamped]
    · intro observer
      rw [(after.mono fun _ h => h.2).received, heard, (announced.mono fun _ h => h.2).received]
  have logged (state : WeatherState) :
      w₂.Touches Event.Silent id (w₂.emit (.logged (.changed (w.cycle id).zone state))) :=
    .emit w₂ ⟨fun _ => nofun, fun _ => rfl⟩
  cases empty : names.isEmpty with
  | true => exact ⟨rfl, finish (.refl w₂) rfl⟩
  | false =>
    rw [if_neg Bool.false_ne_true]
    cases trigger with
    | false => exact ⟨rfl, finish (logged _) rfl⟩
    | true =>
      rw [if_pos rfl, Hooks.ends_notifyChanged_note]
      exact ⟨rfl, finish ((logged _).trans (.hearChanged _ _ _ _ _)) (by simp)⟩

end Microclimate
