import Microclimate.Proofs.Departures
import Microclimate.Proofs.Upkeep

/-!
# Intensities stay in range

Whatever the manager is asked to do, and whatever the actors ask of it while they are being called,
the intensity of everything that is running stays **from 0 up to 1, without 1**. The weather may be
forced to any intensity that is a number, infinities included, and the random source may answer with
doubles that are none. What is sent to a zone lies in the narrower range that is broadcast, and the
state in a packet is always the one that belongs to the intensity in that packet.

This holds at every moment, not only between operations, and also when operations fail.

* `Microclimate.Climate.bounded` – the intensities as a climate;
* `Microclimate.Run.bounded` – **the law**.
-/

namespace Microclimate

variable {γ : Type}

/-- **Every intensity lies between 0 and 1**, and any number may be forced. -/
def Climate.bounded : Climate where
  Admits c := InUnit c.intensity
  Forced _ x := IsNumber x
  Rolled _ := True
  timer _ h := h
  fresh _ _ _ := show InUnit 0.0 by decide
  clears _ := show InUnit 0.0 by decide
  clamps h := (inBroadcast_clampIntensity h.isFinite.isNumber).inUnit
  selects _ h _ _ _ := h
  settles _ _ h := h
  changes h _ change := by
    refine (inBroadcast_clampIntensity ?_).inUnit
    rcases change with rfl | rfl | rfl | rfl
    · exact h.nearest_sub_third.finite.isNumber
    · exact h.nearest_add_third.finite.isNumber
    · exact value_maxIntensity.1.isNumber
    · exact h.nearest_sub_twoThirds.finite.isNumber
  forces _ number := (inBroadcast_clampIntensity number).inUnit

theorem Climate.fed_bounded [RandomSource γ] : bounded.Fed γ := fun _ _ _ _ => trivial

/-- What is running is under the climate. -/
theorem Scene.Under.running {s : Scene} {C : Climate} {first : Nat} (h : s.Under C first) :
    ∀ e ∈ s.running, C.Admits e.2 := by
  intro e mem
  obtain ⟨⟨zone, id⟩, entered, rfl⟩ := List.mem_map.1 mem
  obtain ⟨new, made⟩ := h.live entered
  exact h.weather new made.known

/-- **Intensities stay in range, at every moment of every run**: those of everything that is running
lie from 0 up to 1. A packet that a cycle sends tells the state that belongs to the kind of its
weather and to the intensity told, and what is sent to a zone lies in the range that is broadcast.
No other packets are received or handed over, but for those that tell of a clear sky where no
weather is running. -/
theorem Run.bounded [RandomSource γ] {start w : World γ} (run : Run .bounded start w)
    (idle : start.manager.live = .empty) :
    ∃ ms ds, start.Adds ms w ∧ start.Sends ds w ∧ (∀ e ∈ w.running, InUnit e.2.intensity) ∧
      (∀ m ∈ ms, (∀ e ∈ m.scene.running, InUnit e.2.intensity) ∧ m.event.ComesFrom ds) ∧
      ∀ d ∈ ds, d.packet.state = classify (d.scene.cycle d.sender).kind d.packet.intensity ∧
        InUnit d.packet.intensity ∧
          ∀ zone, d.receiver = .zone zone → InBroadcast d.packet.intensity := by
  have prevails := run.prevails Climate.fed_bounded idle
  obtain ⟨ms, ds, adds, sends, moments, proper⟩ := prevails.record
  refine ⟨ms, ds, adds, sends, prevails.under.running, fun m mem => ?_, fun d mem => ?_⟩
  · exact ⟨(moments m mem).1.running, (moments m mem).2⟩
  · have sent := proper d mem
    have unit : InUnit (d.scene.cycle d.sender).intensity := sent.under.weather sent.new sent.known
    rw [sent.packet]
    refine ⟨rfl, unit, fun zone receiver => ?_⟩
    obtain ⟨-, c, clamped⟩ := sent.clamped receiver
    rw [clamped] at unit
    rw [clamped]
    exact inBroadcast_clampIntensity (isNumber_of_clampIntensity unit.isFinite.isNumber)

/-! ### Weather that is forced beyond all bounds -/

namespace TwoZones

/-- Whoever hears of rain asks for a storm in the second zone, as heavy as it gets. -/
def overreaching : Behaviour Script := fun call _ =>
  match call with
  | .changed _ _ ⟨5⟩ _ =>
    [{ command := .manager (.setWeather (.text "b") .storm (1.0 / 0.0) true) }]
  | _ => []

/-- The weather runs in neither zone yet. -/
def waiting : World Script := idle { integers := [0, 0] }

/-- The world once rain was asked for in the first zone, as heavy as it gets. -/
def forced : World Script :=
  (Command.perform {} (Stage.react {} overreaching 2) false
    (.manager (.setWeather (.text "a") .rain (1.0 / 0.0) true))).worldLeft
    { waiting with messenger := .recorder true, hooks := { changed := ["listener"] } }

theorem run_forced : Run .bounded waiting forced := by
  refine .command (.surroundings .nothing (.recorder true) waiting.directory
    { changed := ["listener"] } waiting.clock waiting.engine waiting.random waiting.calls)
    {} overreaching ?_ 2 false (show IsNumber (1.0 / 0.0) by decide)
  intro call w action mem
  unfold overreaching at mem
  split at mem
  · obtain rfl := List.mem_singleton.1 mem
    exact show IsNumber (1.0 / 0.0) by decide
  · cases mem

theorem running_forced : forced.running.map (fun e => (e.2.kind, e.2.intensity)) =
    [(.rain, Cycle.maxIntensity), (.storm, Cycle.maxIntensity)] := by
  decide +kernel

theorem packets_forced : forced.sent.toList.map (·.packet) =
    [⟨⟨5⟩, Cycle.maxIntensity⟩, ⟨⟨42⟩, Cycle.maxIntensity⟩] := by
  decide +kernel

end TwoZones

/-- A storm breaks out while the rain is being told of, both as heavy as they get. What runs, what
is seen on the way, and what is sent stays in range. -/
theorem Run.bounded_forced :
    Run .bounded TwoZones.waiting TwoZones.forced ∧ TwoZones.waiting.manager.live = .empty ∧
      TwoZones.forced.running.map (fun e => (e.2.kind, e.2.intensity)) =
        [(.rain, Cycle.maxIntensity), (.storm, Cycle.maxIntensity)] ∧
      (∀ e ∈ TwoZones.forced.running, InUnit e.2.intensity) ∧
      ∃ (ms : List Moment) (ds : List Dispatch), TwoZones.waiting.Adds ms TwoZones.forced ∧
        (∀ m ∈ ms, ∀ e ∈ m.scene.running, InUnit e.2.intensity) ∧
        ds.map (·.packet) =
          [⟨⟨5⟩, Cycle.maxIntensity⟩, ⟨⟨42⟩, Cycle.maxIntensity⟩] ∧
        ∀ d ∈ ds, d.packet.state = classify (d.scene.cycle d.sender).kind d.packet.intensity := by
  have idle : TwoZones.waiting.manager.live = .empty := rfl
  obtain ⟨ms, ds, adds, sends, running, moments, packets⟩ :=
    Run.bounded TwoZones.run_forced idle
  have sent : TwoZones.forced.sent.toList = ds := sends
  exact ⟨TwoZones.run_forced, idle, TwoZones.running_forced, running, ms, ds, adds,
    fun m mem => (moments m mem).1, sent ▸ TwoZones.packets_forced, fun d mem => (packets d mem).1⟩

end Microclimate
