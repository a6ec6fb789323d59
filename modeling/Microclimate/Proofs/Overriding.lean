import Microclimate.Proofs.Climate
import Microclimate.Proofs.Sequence
import Microclimate.Random.Script

/-!
# Forcing the same weather again

Forcing some weather on a cycle does nothing if the cycle has that weather already. So one would
like to force it twice and see the second time come to nothing. But the weather that is forced is
brought into the range that is broadcast when the zone is told, and it is compared as it was asked
for. **An intensity out of that range is never found again**: whoever forces fine weather without
any intensity twice has the zone told twice.

What is not a number is out of the range as well, and it is not even equal to itself.

* `Microclimate.Scene.broadcasts` – what happens when a zone is told of the weather of a cycle;
* `Microclimate.World.TellsZone` – what that makes of a world;
* `Microclimate.CycleId.ends_setWeather` – forcing some weather, step by step;
* `Microclimate.CycleId.setWeather_again` – **the second time.**
-/

namespace Microclimate

variable {γ : Type}

/-! ### Telling a zone -/

/-- What happens when a zone is told of the weather of a cycle: a packet is delivered. If anybody is
reached, the change is logged, and the subscriptions to changes are served if `trigger` says so. -/
def Scene.broadcasts (s : Scene) (c : Cycle) (trigger : Bool) : List Event :=
  s.deliveries c.zone c.packet ++
    if s.isReached c.zone then
      if trigger then s.changeNotices c else [.logged (.changed c.zone c.state)]
    else []

/-- **A zone is told of the weather of a cycle**, which is brought into the range that is broadcast;
one packet is sent, and nothing else is touched. -/
structure World.TellsZone (w : World γ) (id : CycleId) (trigger : Bool) (w' : World γ) : Prop where
  scene : w'.toScene = (w.editCycle id Cycle.clamp).toScene
  sends : ∃ d, w.Sends [d] w' ∧ d.sender = id ∧ d.receiver = .zone (w.cycle id).zone ∧
    d.packet = (w'.cycle id).packet
  events : w'.events.toList = w.events.toList ++ w.broadcasts (w'.cycle id) trigger

theorem World.TellsZone.cycle {w w' : World γ} {id : CycleId} {trigger : Bool}
    (h : w.TellsZone id trigger w') (known : id.number < w.cycles.size) :
    w'.cycle id = (w.cycle id).clamp := by
  rw [h.scene]
  exact w.cycle_editCycle known Cycle.clamp

/-- Once a cycle has announced its weather, whatever leaves the scene alone and sends nothing more
tells the zone. -/
theorem World.tellsZone_of_announce {w w' : World γ} {id : CycleId} {trigger : Bool}
    (known : id.number < w.cycles.size) (scene : w'.toScene = (w.announce id).toScene)
    (sent : w'.sent = (w.announce id).sent)
    (events : w'.events.toList = w.events.toList ++ w.broadcasts (w.cycle id).clamp trigger) :
    w.TellsZone id trigger w' := by
  have clamped : (w.announce id).cycle id = (w.cycle id).clamp := w.cycle_editCycle known _
  have now : w'.cycle id = (w.cycle id).clamp := by rw [scene, clamped]
  have sends : w.Sends [_] (w.announce id) := .dispatch (w.editCycle id Cycle.clamp) id _ _
  refine ⟨scene, ⟨_, by rwa [Sends, sent], rfl, ?_, ?_⟩, by rwa [now]⟩
  · exact congrArg (Receiver.zone ·.zone) clamped
  · rw [now]
    exact congrArg Cycle.packet clamped

/-- **Telling a zone of the weather of a cycle**, with actors who only take note. -/
theorem CycleId.broadcast_tells {id : CycleId} {w : World γ} (known : id.number < w.cycles.size)
    (trigger : Bool) :
    (id.broadcast Call.note trigger).Ends w
      (fun told w' => told = w.isReached (w.cycle id).zone ∧
        w.canDeliver (w.cycle id).zone = true ∧ w.TellsZone id trigger w')
      fun f _ => w.canDeliver (w.cycle id).zone = false ∧ f = .notAKey (w.cycle id).zone := by
  have clamped : (w.announce id).cycle id = (w.cycle id).clamp := w.cycle_editCycle known _
  rw [ends_broadcast_note, clamped]
  dsimp only
  rw [Cycle.zone_clamp]
  have delivered := (w.announce id).events_deliver (w.cycle id).zone (w.cycle id).clamp.packet
  have scene := (w.announce id).toScene_deliver (w.cycle id).zone (w.cycle id).clamp.packet
  have sent := (w.announce id).sent_deliver (w.cycle id).zone (w.cycle id).clamp.packet
  generalize (w.announce id).deliver (w.cycle id).zone (w.cycle id).clamp.packet = u
    at delivered scene sent ⊢
  have there : u.cycle id = (w.cycle id).clamp := by rw [scene, clamped]
  split
  next can =>
    split
    next reached =>
      split
      next loud =>
        refine ⟨reached.symm, can, World.tellsZone_of_announce known ?_ ?_ ?_⟩
        · rw [World.toScene_hearChange, scene]
        · rw [World.hearChange, World.sent_hearAll]
          exact sent
        · rw [World.events_hearChange, delivered, there, scene, Scene.broadcasts, Cycle.zone_clamp,
            if_pos reached, if_pos loud, ← List.append_assoc]
          rfl
      next quiet =>
        refine ⟨reached.symm, can, World.tellsZone_of_announce known scene sent ?_⟩
        rw [World.events_emit, delivered, Scene.broadcasts, Cycle.zone_clamp, if_pos reached,
          if_neg quiet, ← List.append_assoc]
        rfl
    next alone =>
      refine ⟨(Bool.eq_false_iff.2 alone).symm, can,
        World.tellsZone_of_announce known scene sent ?_⟩
      rw [delivered, Scene.broadcasts, Cycle.zone_clamp, if_neg alone, List.append_nil]
      rfl
  next cannot => exact ⟨Bool.eq_false_iff.2 cannot, rfl⟩

/-! ### Forcing some weather -/

/-- **An intensity is found again as it was asked for** if and only if it lies in the range that is
broadcast. -/
theorem Cycle.hasWeather_clamp_iff (c : Cycle) (kind : WeatherKind) (intensity : Float) :
    (c.withWeather kind intensity).clamp.HasWeather kind intensity ↔ InBroadcast intensity := by
  have stored : (c.withWeather kind intensity).clamp.HasWeather kind intensity ↔
      (clampIntensity intensity == intensity) = true := and_iff_right rfl
  rw [stored]
  constructor
  · intro found
    obtain ⟨clamped, number⟩ := isNumber_of_compare (beq_def.1 found)
    obtain ⟨low, high⟩ := inBroadcast_clampIntensity number
    rw [le_iff_place value_minIntensity.1.isNumber clamped] at low
    rw [le_iff_place clamped value_maxIntensity.1.isNumber] at high
    rw [(beq_iff_place clamped number).1 found] at low high
    exact ⟨(le_iff_place value_minIntensity.1.isNumber number).2 low,
      (le_iff_place number value_maxIntensity.1.isNumber).2 high⟩
  · intro seen
    have number := seen.isFinite.isNumber
    rw [seen.clampIntensity_eq]
    exact (beq_iff_place number number).2 rfl

/-- **Forcing some weather, step by step.** -/
theorem CycleId.ends_setWeather {react : Reaction γ} {w : World γ} {id : CycleId}
    {good : Unit → World γ → Prop} {bad : Fault → World γ → Prop} (kind : WeatherKind)
    (intensity : Float) (trigger : Bool) :
    (id.setWeather react kind intensity trigger).Ends w good bad ↔
      if (w.cycle id).HasWeather kind intensity then good () w
      else (id.broadcast react trigger).Ends (w.editCycle id (·.withWeather kind intensity))
        (fun _ w' => good () w') bad := by
  have condition : ((w.cycle id).kind = kind && (w.cycle id).intensity == intensity) = true ↔
      (w.cycle id).HasWeather kind intensity := by
    rw [Bool.and_eq_true, decide_eq_true_eq]
    rfl
  rw [setWeather, Sim.ends_bind, Sim.ends_cycle, Sim.ends_ite, Sim.ends_bind, Sim.ends_editCycle,
    Sim.ends_discard, Sim.ends_pure]
  simp only [condition]

/-- Forcing weather that a cycle does not have tells its zone. -/
theorem CycleId.setWeather_tells {id : CycleId} {w : World γ} (known : id.number < w.cycles.size)
    {kind : WeatherKind} {intensity : Float} (trigger : Bool)
    (other : ¬(w.cycle id).HasWeather kind intensity) :
    (id.setWeather Call.note kind intensity trigger).Ends w
      (fun _ w' => w.canDeliver (w.cycle id).zone = true ∧
        (w.editCycle id (·.withWeather kind intensity)).TellsZone id trigger w')
      fun _ _ => w.canDeliver (w.cycle id).zone = false := by
  have forced := w.cycle_editCycle known (·.withWeather kind intensity)
  rw [ends_setWeather, if_neg other]
  refine (broadcast_tells (by simpa using known) trigger).mono (fun _ w' tells => ?_)
    fun _ _ cannot => ?_
  · rw [forced] at tells
    exact tells.2
  · rw [forced] at cannot
    exact cannot.1

/-- A cycle that a change leaves as it is may as well not be changed. -/
theorem World.editCycle_of_eq {w : World γ} {id : CycleId} {f : Cycle → Cycle}
    (same : f (w.cycle id) = w.cycle id) :
    w.editCycle id f = w := by
  have cycles : w.cycles.modify id.number f = w.cycles := by
    apply Array.ext
    · simp
    · intro i _ there
      rw [Array.getElem_modify]
      split
      next this =>
        subst this
        simpa [Scene.cycle, there] using same
      next => rfl
  rw [editCycle, cycles]

variable [RandomSource γ]

/-- **Forcing the same weather again.** Some weather has been forced on a cycle, with actors who
only take note. Forcing it once more changes nothing at all if the cycle had it from the beginning,
or if the intensity lies in the range that is broadcast. Otherwise the cycle stays as it is, but its
zone is told once more, and so are the listeners. -/
theorem CycleId.setWeather_again {id : CycleId} {w w' : World γ}
    (known : id.number < w.cycles.size) (stage : Stage) (depth : Nat) (kind : WeatherKind)
    (intensity : Float) (trigger : Bool)
    (run : id.setWeather (stage.react .recording (depth + 1)) kind intensity trigger w =
      .ok () w') :
    (id.setWeather (stage.react .recording (depth + 1)) kind intensity trigger).Ends w'
      (fun _ w'' =>
        if (w.cycle id).HasWeather kind intensity ∨ InBroadcast intensity then w'' = w'
        else
          w''.toScene = w'.toScene ∧
            (∃ d, w'.Sends [d] w'' ∧ d.sender = id ∧ d.receiver = .zone (w'.cycle id).zone ∧
              d.packet = (w'.cycle id).packet) ∧
            w''.events.toList = w'.events.toList ++ w'.broadcasts (w'.cycle id) trigger)
      fun _ _ => False := by
  rw [Stage.react_recording] at run ⊢
  by_cases had : (w.cycle id).HasWeather kind intensity
  · have stays : (id.setWeather Call.note kind intensity trigger).Ends w (fun _ v => w = v)
        fun _ _ => False := by
      rw [ends_setWeather, if_pos had]
    obtain rfl := stays.of_ok run
    rw [ends_setWeather, if_pos had, if_pos (.inl had)]
  · obtain ⟨can, tells⟩ := (setWeather_tells known trigger had).of_ok run
    have forced := w.cycle_editCycle known (·.withWeather kind intensity)
    have now := tells.cycle (by simpa using known)
    rw [forced] at now
    have known' : id.number < w'.cycles.size := by simpa [tells.scene] using known
    have again := (w.cycle id).hasWeather_clamp_iff kind intensity
    rw [← now] at again
    by_cases seen : InBroadcast intensity
    · rw [ends_setWeather, if_pos (again.2 seen), if_pos (.inr seen)]
    · simp only [if_neg (not_or.2 ⟨had, seen⟩)]
      -- what is told the second time is what was told before
      have back :
          (w'.editCycle id (·.withWeather kind intensity)).editCycle id Cycle.clamp = w' := by
        rw [World.editCycle_editCycle]
        exact World.editCycle_of_eq (by rw [now]; rfl)
      have reaches : w'.canDeliver (w'.cycle id).zone = true := by
        rw [now, tells.scene]
        exact can
      refine (setWeather_tells known' trigger (mt again.1 seen)).mono (fun _ w'' told => ?_)
        fun _ _ cannot => absurd reaches (Bool.eq_false_iff.1 cannot)
      obtain ⟨-, scene, ⟨d, sends, sender, receiver, packet⟩, events⟩ := told
      rw [back] at scene
      rw [w'.cycle_editCycle known'] at receiver
      rw [scene] at packet events
      exact ⟨scene, ⟨d, sends, sender, receiver, packet⟩, events⟩

/-! ### Fine weather that is forced twice -/

namespace Clearing

/-- A cycle in the rain, with somebody in its zone and a listener to changes. -/
def before : World Script :=
  { cycles := #[
      { zone := .text "a", table := none, timer := { interval := 10 }, kind := .rain,
        intensity := 0.5 }]
    messenger := .recorder true
    hooks := { changed := ["vane"] }
    random := {}
    engine := { tps_pos := standardTps_pos, random := {} } }

/-- Forces fine weather. -/
def force : Sim Script Unit := CycleId.setWeather (Stage.react {} .recording 1) ⟨0⟩ .fine 0.0 true

/-- The world once fine weather was forced. -/
def after : World Script := force.worldLeft before

/-- The world once it was forced again. -/
def again : World Script := force.worldLeft after

theorem force_before : force before = .ok () after := rfl

theorem force_after : force after = .ok () again := rfl

end Clearing

/-- Fine weather without any intensity is told again, as if it were new. -/
theorem CycleId.setWeather_again_clearing :
    0 < Clearing.before.cycles.size ∧ Clearing.force Clearing.before = .ok () Clearing.after ∧
      Clearing.force Clearing.after = .ok () Clearing.again ∧
      Clearing.again.events.toList = Clearing.after.events.toList ++
        [.handed (.text "a") ⟨.fine, Cycle.minIntensity⟩ true,
          .logged (.changed (.text "a") .fine),
          .changed "vane" (.text "a") .fine Cycle.minIntensity] := by
  have known : 0 < Clearing.before.cycles.size := by decide
  have other : ¬((Clearing.before.cycle ⟨0⟩).HasWeather .fine 0.0 ∨ InBroadcast 0.0) := by decide
  have told := (@setWeather_again Script _ ⟨0⟩ _ _ known {} 0 .fine 0.0 true
    Clearing.force_before).of_ok Clearing.force_after
  rw [if_neg other] at told
  exact ⟨known, Clearing.force_before, Clearing.force_after, told.2.2⟩

end Microclimate
