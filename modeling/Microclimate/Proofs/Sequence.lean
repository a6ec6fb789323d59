import Microclimate.Proofs.Attempts

/-!
# What happens in an update, in order

An update may end in two ways. It ends early, and the cycle is no longer of use, if the interval has
elapsed, the weather has changed, and nobody is reached. Otherwise the listeners to updates are all
told, and before them, if the weather has changed, those who are in the zone, the log, and the
listeners to changes.

So with actors who only take note, everything that happens in an update is known in its order but
for the draws of the roll. This holds with a directory and with a messenger that only takes notes,
for a zone with chances and for one without, and whatever the timer shows.

* `Microclimate.Scene.isReached`, `Microclimate.Scene.deliveries` – what a messenger makes of a
  packet for a zone;
* `Microclimate.Scene.changeNotices`, `Microclimate.Scene.tickNotices` – what listeners hear;
* `Microclimate.CycleId.ends_broadcast_note` – telling a zone of its weather, step by step;
* `Microclimate.CycleId.Rolled` – how far an update has got once the weather was rolled, if it was;
* `Microclimate.CycleId.Sequel` – what follows from there on, and how the update ends;
* `Microclimate.CycleId.update_sequence` – **what happens in an update, and how it ends.**
-/

namespace Microclimate

variable {γ : Type}

/-! ### Messengers and listeners -/

namespace Scene

/-- Is anybody reached in a zone? -/
def isReached (s : Scene) (zone : Value) : Bool :=
  match s.messenger with
  | .directory => !(s.directory.observers zone).isEmpty
  | .recorder reaches => reaches

/-- Can packets be delivered to a zone? The directory has no zones that are no keys. -/
def canDeliver (s : Scene) (zone : Value) : Bool :=
  match s.messenger with
  | .directory => zone.isKey
  | .recorder _ => true

/-- What happens when a packet is delivered to a zone. -/
def deliveries (s : Scene) (zone : Value) (p : Packet) : List Event :=
  match s.messenger with
  | .directory => (s.directory.observers zone).map (.packet · p)
  | .recorder reaches => [.handed zone p reaches]

/-- What happens when a change of the weather of a cycle is made known: it is logged, and every
subscription to changes is served. -/
def changeNotices (s : Scene) (c : Cycle) : List Event :=
  .logged (.changed c.zone c.state) :: s.hooks.changed.map (.changed · c.zone c.state c.intensity)

/-- What happens when an update of a cycle is made known: all subscriptions to updates are
served. -/
def tickNotices (s : Scene) (c : Cycle) (diff : Int) : List Event :=
  s.hooks.ticked.map (.ticked · c.zone diff)

end Scene

namespace World

theorem events_hearAll (w : World γ) (calls : List Call) :
    (w.hearAll calls).events.toList = w.events.toList ++ calls.map (·.event w) := by
  rw [(w.adds_hearAll calls).events, List.map_map]
  rfl

/-- The world once a packet was delivered to a zone, and noted by those who received it. -/
def deliver (w : World γ) (zone : Value) (p : Packet) : World γ :=
  match w.messenger with
  | .directory => w.hearAll ((w.directory.observers zone).map (.packet · p))
  | .recorder reaches => w.emit (.handed zone p reaches)

@[simp] theorem toScene_deliver (w : World γ) (zone : Value) (p : Packet) :
    (w.deliver zone p).toScene = w.toScene := by
  rw [deliver]
  split
  · exact w.toScene_hearAll _
  · rfl

@[simp] theorem sent_hearAll (w : World γ) (calls : List Call) :
    (w.hearAll calls).sent = w.sent := by
  induction calls generalizing w with
  | nil => rfl
  | cons call rest ih => exact ih (w.hear call)

@[simp] theorem sent_deliver (w : World γ) (zone : Value) (p : Packet) :
    (w.deliver zone p).sent = w.sent := by
  rw [deliver]
  split
  · exact w.sent_hearAll _
  · rfl

theorem events_deliver (w : World γ) (zone : Value) (p : Packet) :
    (w.deliver zone p).events.toList = w.events.toList ++ w.deliveries zone p := by
  rw [deliver, Scene.deliveries]
  split
  · rw [events_hearAll, List.map_map]
    rfl
  · exact w.events_emit _

/-- The world once a change of the weather of a cycle was made known, and noted by all listeners. -/
def hearChange (w : World γ) (id : CycleId) : World γ :=
  let c := w.cycle id
  (w.emit (.logged (.changed c.zone c.state))).hearAll
    (w.hooks.changed.map (.changed · (some id) c.state c.intensity))

@[simp] theorem toScene_hearChange (w : World γ) (id : CycleId) :
    (w.hearChange id).toScene = w.toScene :=
  toScene_hearAll _ _

theorem events_hearChange (w : World γ) (id : CycleId) :
    (w.hearChange id).events.toList =
      w.events.toList ++ w.changeNotices (w.cycle id) := by
  rw [hearChange, events_hearAll, events_emit, List.append_assoc, List.map_map]
  rfl

theorem events_hearTicked (w : World γ) (id : CycleId) (diff : Int) :
    (w.hearTicked id diff).events.toList =
      w.events.toList ++ w.tickNotices (w.cycle id) diff := by
  rw [hearTicked, events_hearAll, List.map_map]
  rfl

end World

/-- Sending a packet to a zone, with actors who only take note. -/
theorem Messenger.ends_send_note {w : World γ} {good : Bool → World γ → Prop}
    {bad : Fault → World γ → Prop} (zone : Value) (p : Packet) :
    (Messenger.send Call.note zone p).Ends w good bad ↔
      if w.canDeliver zone then good (w.isReached zone) (w.deliver zone p)
      else bad (.notAKey zone) w := by
  rw [send, Sim.ends_bind, Sim.ends_get, Scene.canDeliver, Scene.isReached, World.deliver]
  cases w.messenger with
  | directory =>
    simp only [Directory.send, Sim.ends_bind, Sim.ends_requireKey, Sim.ends_get,
      Sim.ends_forM_note, Sim.ends_pure]
  | recorder reaches => rfl

/-- **Telling a zone of its weather, step by step**, with actors who only take note. -/
theorem CycleId.ends_broadcast_note {w : World γ} {good : Bool → World γ → Prop}
    {bad : Fault → World γ → Prop} (id : CycleId) (trigger : Bool) :
    (id.broadcast Call.note trigger).Ends w good bad ↔
      let c := (w.announce id).cycle id
      if w.canDeliver c.zone then
        let told := (w.announce id).deliver c.zone c.packet
        if w.isReached c.zone then
          if trigger then good true (told.hearChange id)
          else good true (told.emit (.logged (.changed c.zone c.state)))
        else good false told
      else bad (.notAKey c.zone) (w.announce id) := by
  have now : (w.editCycle id Cycle.clamp).cycle id = (w.announce id).cycle id := rfl
  have can (zone : Value) : (w.announce id).canDeliver zone = w.canDeliver zone := rfl
  have reaches (zone : Value) : (w.announce id).isReached zone = w.isReached zone := rfl
  rw [broadcast, Sim.ends_bind, Sim.ends_editCycle, Sim.ends_bind, Sim.ends_cycle, now,
    Sim.ends_bind, Sim.ends_dispatch, Sim.ends_bind]
  change Sim.Ends _ (w.announce id) _ _ ↔ _
  rw [Messenger.ends_send_note, can, reaches]
  dsimp only
  rw [Sim.ends_ite, Sim.ends_bind, Sim.ends_log, Sim.ends_ite]
  simp only [Sim.ends_bind, Sim.ends_cycle, Hooks.ends_notifyChanged_note, Sim.ends_pure,
    World.hearChange, World.toScene_emit, World.toScene_deliver]

/-- Whatever does not depend on the cycles stays as it is where only one cycle is touched. -/
theorem World.Touches.congr {α : Type} {kind : Event → Prop} {id : CycleId} {w w' : World γ}
    (h : w.Touches kind id w') (f : Scene → α)
    (blind : ∀ (s : Scene) (cycles : Array Cycle), f { s with cycles := cycles } = f s) :
    f w'.toScene = f w.toScene := by
  rw [h.scene]
  exact blind w.toScene w'.cycles

/-! ### Updates -/

variable [RandomSource γ]

/-- **How far an update has got** once the weather was rolled, if the interval has elapsed: whether
the weather changed, what happened while it was rolled, and the world from which the update goes on.
-/
inductive CycleId.Rolled (id : CycleId) (diff : Int) (w : World γ) :
    Bool → List Event → World γ → Prop
  /-- The interval has not elapsed, and nothing is rolled. -/
  | early (waiting : (w.cycle id).isDue diff = false) :
      Rolled id diff w false [] (w.passTime id diff)
  /-- The interval has elapsed; with the timer set back, the weather was rolled. -/
  | due {changed : Bool} {rolls : List Event} {v : World γ}
      (elapsed : (w.cycle id).isDue diff = true)
      (run : id.regenerate (w.ripe id diff) = .ok changed v)
      (events : v.events.toList = w.events.toList ++ rolls) (draws : ∀ e ∈ rolls, e.IsRoll) :
      Rolled id diff w changed rolls v

namespace CycleId

variable {id : CycleId} {w v : World γ} {diff : Int} {changed : Bool} {rolls : List Event}

/-- The weather changed if and only if the interval has elapsed and the roll says so. -/
theorem Rolled.changed_iff (h : id.Rolled diff w changed rolls v) :
    changed = true ↔ (w.cycle id).isDue diff = true ∧
      ∃ v, id.regenerate (w.ripe id diff) = .ok true v := by
  cases h with
  | early waiting => simp [waiting]
  | due elapsed run events draws => simp [elapsed, run]

theorem Rolled.touches (h : id.Rolled diff w changed rolls v) : w.Touches Event.IsRoll id v := by
  cases h with
  | early waiting => exact w.touches_passTime id diff
  | due elapsed run events draws =>
    exact (w.touches_ripe id diff).trans ((regenerate_touches id (w.ripe id diff)).of_ok run)

theorem Rolled.events (h : id.Rolled diff w changed rolls v) :
    v.events.toList = w.events.toList ++ rolls := by
  cases h with
  | early waiting => exact (List.append_nil _).symm
  | due elapsed run events draws => exact events

theorem Rolled.isRoll (h : id.Rolled diff w changed rolls v) : ∀ e ∈ rolls, e.IsRoll := by
  cases h with
  | early waiting => exact fun e mem => absurd mem List.not_mem_nil
  | due elapsed run events draws => exact draws

/-- A roll that was made adds nothing but draws, and the season. -/
theorem Rolled.of_run (elapsed : (w.cycle id).isDue diff = true)
    (run : id.regenerate (w.ripe id diff) = .ok changed v) :
    ∃ rolls, id.Rolled diff w changed rolls v := by
  have touched : w.Touches Event.IsRoll id v :=
    (w.touches_ripe id diff).trans ((regenerate_touches id (w.ripe id diff)).of_ok run)
  obtain ⟨ms, adds, all⟩ := touched.moments
  refine ⟨ms.map (·.event), .due elapsed run adds.events fun e mem => ?_⟩
  obtain ⟨m, among, rfl⟩ := List.mem_map.1 mem
  exact all m among

/-- **What follows a roll** in an update that answers `kept`. Nobody being reached, it is over.
Otherwise a change is made known, and then the update is. -/
structure Sequel (id : CycleId) (diff : Int) (w : World γ) (changed : Bool) (rolls : List Event)
    (v : World γ) (kept : Bool) (w' : World γ) : Prop where
  /-- The cycle is no longer of use if its weather changed and nobody is reached. -/
  answer : kept = false ↔ changed = true ∧ w.isReached (w.cycle id).zone = false
  /-- Weather that changed is brought into the range that is broadcast. -/
  cycle : w'.cycle id = if changed then (v.cycle id).clamp else v.cycle id
  /-- All that happens in the update, in order. -/
  events : w'.events.toList = w.events.toList ++ rolls ++
    (if changed then w.deliveries (w.cycle id).zone (w'.cycle id).packet else []) ++
      if kept = true then
        (if changed then w.changeNotices (w'.cycle id) else []) ++
          w.tickNotices (w'.cycle id) diff
      else []

/-- Where the weather did not change, only the update is made known. -/
theorem Rolled.unchanged (h : id.Rolled diff w false rolls v) :
    id.Sequel diff w false rolls v true (v.hearTicked id diff) where
  answer := by simp
  cycle := by
    rw [World.hearTicked, World.toScene_hearAll]
    rfl
  events := by
    have heard := h.touches.congr (·.tickNotices (v.cycle id) diff) fun _ _ => rfl
    rw [World.events_hearTicked, h.events, heard, World.hearTicked, World.toScene_hearAll]
    simp

/-- Where it changed, the zone is told first. -/
theorem Rolled.told (known : id.number < w.cycles.size) (h : id.Rolled diff w true rolls v) :
    (id.broadcast Call.note true).Ends v
      (fun told u => id.Sequel diff w true rolls v told (if told then u.hearTicked id diff else u))
      fun f _ => w.canDeliver (w.cycle id).zone = false ∧ f = .notAKey (w.cycle id).zone := by
  have announced : w.Touches Event.IsRoll id (v.announce id) :=
    h.touches.trans (v.touches_announce id)
  have zone : ((v.announce id).cycle id).zone = (w.cycle id).zone := announced.make.zone
  have clamped : (v.announce id).cycle id = (v.cycle id).clamp :=
    v.cycle_editCycle (h.touches.size.symm ▸ known) Cycle.clamp
  have events : (v.announce id).events.toList = w.events.toList ++ rolls := h.events
  -- neither the roll nor the announcement changes who is where, and who listens
  have deliver := h.touches.congr (·.canDeliver (w.cycle id).zone) fun _ _ => rfl
  have reach := h.touches.congr (·.isReached (w.cycle id).zone) fun _ _ => rfl
  have packets (p : Packet) :=
    announced.congr (·.deliveries (w.cycle id).zone p) fun _ _ => rfl
  have changes (c : Cycle) := announced.congr (·.changeNotices c) fun _ _ => rfl
  have ticks (c : Cycle) := announced.congr (·.tickNotices c diff) fun _ _ => rfl
  rw [ends_broadcast_note]
  dsimp only at deliver reach packets changes ticks ⊢
  rw [zone, deliver, reach]
  generalize v.announce id = a at zone clamped events packets changes ticks ⊢
  rw [if_pos (rfl : true = true)]
  split
  next can =>
    split
    next reached =>
      refine ⟨by simp [reached], ?_, ?_⟩
      · simp [World.hearTicked, clamped]
      · rw [if_pos rfl, World.events_hearTicked, World.events_hearChange, World.events_deliver,
          events, packets]
        simp [World.hearTicked, changes, ticks]
    next alone =>
      refine ⟨by simpa using alone, ?_, ?_⟩
      · simp [clamped]
      · simp [World.events_deliver, events, packets]
  next cannot => exact ⟨Bool.eq_false_iff.2 cannot, rfl⟩

/-- **What happens in an update, and how it ends**, with actors who only take note. -/
theorem update_sequence (known : id.number < w.cycles.size) (stage : Stage) (depth : Nat)
    (diff : Int) :
    (id.update (stage.react .recording (depth + 1)) diff).Ends w
      (fun kept w' => (w'.cycle id).timer = (w.cycle id).timer.turn diff ∧
        ∃ changed rolls v, id.Rolled diff w changed rolls v ∧
          (changed = true ↔ (w.cycle id).isDue diff = true ∧
            ∃ v, id.regenerate (w.ripe id diff) = .ok true v) ∧
          id.Sequel diff w changed rolls v kept w')
      fun f w' => (w.cycle id).isDue diff = true ∧
        (id.regenerate (w.ripe id diff) = .error f w' ∨
          (∃ v, id.regenerate (w.ripe id diff) = .ok true v) ∧
            w.canDeliver (w.cycle id).zone = false ∧ f = .notAKey (w.cycle id).zone) := by
  rw [Stage.react_recording]
  have timer := @ends_update_turn γ _ Call.note id w Reaction.note_sparesTimer known diff
  refine Sim.Ends.mono (timer.and ?_) (fun kept w' ⟨⟨_, timer⟩, rest⟩ => ⟨timer, rest⟩)
    fun _ _ failed => failed.2
  rw [ends_update_note known]
  split
  next elapsed =>
    refine (Sim.ends_self _ _).mono (fun changed v run => ?_) fun f w' run => ⟨elapsed, .inl run⟩
    obtain ⟨rolls, rolled⟩ := Rolled.of_run elapsed run
    cases changed with
    | false => exact ⟨false, rolls, v, rolled, rolled.changed_iff, rolled.unchanged⟩
    | true =>
      refine (rolled.told known).mono (fun told u sequel => ?_) fun f u cannot =>
        ⟨elapsed, .inr ⟨⟨v, run⟩, cannot⟩⟩
      cases told with
      | true => exact ⟨true, rolls, v, rolled, rolled.changed_iff, sequel⟩
      | false => exact ⟨true, rolls, v, rolled, rolled.changed_iff, sequel⟩
  next waiting =>
    have rolled : id.Rolled diff w false [] (w.passTime id diff) :=
      .early (Bool.eq_false_iff.2 waiting)
    exact ⟨false, [], _, rolled, rolled.changed_iff, rolled.unchanged⟩

end CycleId

/-! ### A shower that nobody sees -/

namespace Unseen

/-- It rains half of the time. -/
def table : SeasonTable := ⟨{ rain := 50 }, { rain := 50 }, { rain := 50 }, { rain := 50 }⟩

/-- A cycle in fine weather, with a listener to updates and one to changes, and nobody in its zone.
A little rain will come. -/
def before : World Script :=
  { cycles := #[
      { zone := .text "a", table := some table, timer := { interval := 10, current := 5 } }]
    messenger := .recorder false
    hooks := { ticked := ["tock"], changed := ["vane"] }
    clock := .fixed 100
    random := { integers := [40, 1], normals := [0.5] }
    engine := { tps_pos := standardTps_pos, random := {} } }

/-- The world when the interval has elapsed. -/
def after : World Script := (CycleId.update (Stage.react {} .recording 1) ⟨0⟩ 5).worldLeft before

theorem update_before :
    CycleId.update (Stage.react {} .recording 1) ⟨0⟩ 5 before = .ok false after := rfl

end Unseen

/-- The packet is handed over in vain, and no listener hears of anything. -/
theorem CycleId.update_sequence_unseen :
    0 < Unseen.before.cycles.size ∧
      CycleId.update (Stage.react {} .recording 1) ⟨0⟩ 5 Unseen.before = .ok false Unseen.after ∧
      (Unseen.after.cycle ⟨0⟩).timer.current = 0 ∧
      ∃ rolls, (∀ e ∈ rolls, e.IsRoll) ∧ Unseen.after.events.toList =
        rolls ++ [.handed (.text "a") (Unseen.after.cycle ⟨0⟩).packet false] := by
  have known : 0 < Unseen.before.cycles.size := by decide
  have sequence := @update_sequence Script _ ⟨0⟩ _ known {} 0 5
  obtain ⟨timer, changed, rolls, v, rolled, -, sequel⟩ := sequence.of_ok Unseen.update_before
  obtain ⟨rfl, -⟩ := sequel.answer.1 rfl
  refine ⟨known, Unseen.update_before, congrArg Timer.current timer, rolls, rolled.isRoll, ?_⟩
  simpa [Scene.deliveries, Unseen.before, World.events, Scene.cycle] using sequel.events

end Microclimate
