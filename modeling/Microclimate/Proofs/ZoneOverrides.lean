import Microclimate.Proofs.Departures
import Microclimate.Proofs.Informed
import Microclimate.Proofs.Overriding

/-!
# Whom forced weather reaches

Whoever forces the weather of a zone would like everybody in the zone to know of it when the
manager says that it was done. Those who went into the zone without a word to the manager were never
told of its weather, and what is forced on a cycle that has it already is not told. The cycle may
have been started for the occasion, too, and then it has the weather **that was rolled without
telling anybody**. If that is what was asked for, everybody keeps what they were told last, be it of
a storm that is long over.

It cannot go wrong in any other way.

* `Microclimate.Manager.getOrCreate_quiet` – asking for the weather of a zone tells nobody anything;
* `Microclimate.CycleId.setWeather_reaches` – forcing the weather of a cycle, as its zone sees it;
* `Microclimate.Reachable.setZoneWeather_reaches` – **whom forced weather reaches**;
* `Microclimate.Reachable.setZoneWeather_unheard` – fine weather that a visitor does not hear of.
-/

namespace Microclimate

variable {γ : Type} {w : World γ}

/-- **Forcing the weather of a cycle, as its zone sees it**: nothing happens if the cycle has that
weather, and otherwise everybody in the zone is told of it last. -/
theorem CycleId.setWeather_reaches {zone : Value} {id : CycleId} (made : w.MadeFor zone id)
    (directory : w.messenger = .directory) (kind : WeatherKind) (intensity : Float)
    (trigger : Bool) :
    (id.setWeather Call.note kind intensity trigger).Ends w
      (fun _ w' =>
        if (w.cycle id).HasWeather kind intensity then w' = w
        else
          w'.manager = w.manager ∧ w'.directory = w.directory ∧
            w'.cycle id = ((w.cycle id).withWeather kind intensity).clamp ∧
              ∀ observer ∈ w.directory.observers zone,
                (w'.received observer).getLast? = some (w'.cycle id).packet)
      fun _ _ => False := by
  have forced := w.cycle_editCycle made.known (·.withWeather kind intensity)
  have edited : w.Touches (fun _ => True) id (w.editCycle id (·.withWeather kind intensity)) :=
    .editCycle w id fun _ => ⟨rfl, rfl, rfl⟩
  have key : (w.cycle id).zone.isKey := (Value.sameKey_iff.1 made.place).1
  rw [ends_setWeather]
  split
  next => rfl
  next =>
    generalize w.editCycle id (·.withWeather kind intensity) = v at forced edited
    have telling := broadcast_recording (edited.messenger.trans directory)
      (edited.size.symm ▸ made.known) (by rw [forced]; exact key) trigger
    rw [forced, edited.directory] at telling
    refine telling.mono (fun told w' ⟨_, touched, clamped, last⟩ => ?_) fun _ _ h => h
    refine ⟨touched.manager.trans edited.manager, touched.directory.trans edited.directory,
      clamped, fun observer here => ?_⟩
    rw [last, clamped]
    exact if_pos (w.directory.observers_congr made.place ▸ here)

variable [RandomSource γ]

/-- **Asking for the weather of a zone tells nobody anything**, and moves nobody, whether it has to
be started or not; where it is running nothing happens at all. -/
theorem Manager.getOrCreate_quiet (registered : w.Registered) (zone : Value) :
    (getOrCreate zone).Ends w
      (fun found v => v.Registered ∧ v.manager.find? zone = found ∧ v.directory = w.directory ∧
        v.messenger = w.messenger ∧ (∀ observer, v.received observer = w.received observer) ∧
        ∀ id, w.manager.find? zone = some id → v = w)
      fun _ _ => True := by
  rw [ends_getOrCreate]
  split
  case isFalse => trivial
  split
  next id running => exact ⟨registered, running, rfl, rfl, fun _ => rfl, fun _ _ => rfl⟩
  next idle =>
    rw [ends_add]
    split
    case isFalse => trivial
    split
    next => exact ⟨registered, idle, rfl, rfl, fun _ => rfl, fun _ _ => rfl⟩
    next table chances =>
      refine (CycleId.regenerate_touches ⟨w.cycles.size⟩ (w.start zone table)).mono
        (fun _ v rolled => ?_) fun _ _ _ => trivial
      have started := (World.Proceeds.of_start chances registered).1
      have found : (w.start zone table).manager.find? zone = some ⟨w.cycles.size⟩ :=
        (w.manager.live.find?_insert zone _ zone).trans
          (if_pos (Table.sameKey_self_of_find? chances))
      refine ⟨rolled.registered started, by rw [rolled.manager, found], rolled.directory,
        rolled.messenger, fun observer => ?_, fun _ running => ?_⟩
      · rw [(rolled.mono fun _ h => h.silent.2).received, World.received_start]
      · rw [idle] at running
        cases running

/-- **Whom forced weather reaches.** From a reachable world on, the weather of a zone is forced,
with actors who only take note, and this is said to be done. Then a cycle runs in the zone, as
before or started first. If it has that weather already, nothing happens to it, and everybody keeps
what they received. Otherwise it has the weather that was asked for, as it is broadcast, and
everybody in the zone received that last. -/
theorem Reachable.setZoneWeather_reaches {w' : World γ} (reachable : Reachable w)
    (directory : w.messenger = .directory) (stage : Stage) (depth : Nat) (zone : Value)
    (kind : WeatherKind) (intensity : Float) (trigger : Bool)
    (run : Manager.setZoneWeather (stage.react .recording (depth + 1)) zone kind intensity trigger
      w = .ok true w') :
    ∃ id v, Manager.getOrCreate zone w = .ok (some id) v ∧
      (∀ running, w.manager.find? zone = some running → v = w) ∧
      w'.manager.find? zone = some id ∧ w'.directory = w.directory ∧
      if (v.cycle id).HasWeather kind intensity then
        w' = v ∧ ∀ observer, w'.received observer = w.received observer
      else
        w'.cycle id = ((v.cycle id).withWeather kind intensity).clamp ∧
          ∀ observer ∈ w'.directory.observers zone,
            (w'.received observer).getLast? = some (w'.cycle id).packet := by
  rw [Stage.react_recording, Manager.setZoneWeather] at run
  obtain ⟨found, v, asked, run⟩ := Sim.bind_ok_iff.1 run
  obtain ⟨registered, there, members, messenger, received, ran⟩ :=
    (Manager.getOrCreate_quiet reachable.registered zone).of_ok asked
  cases found with
  | none => cases run
  | some id =>
    obtain ⟨_, u, forced, done⟩ := Sim.bind_ok_iff.1 run
    cases done
    have reaches := (CycleId.setWeather_reaches (registered.madeFor there)
      (messenger.trans directory) kind intensity trigger).of_ok forced
    refine ⟨id, v, asked, ran, ?_⟩
    split at reaches
    next has =>
      subst reaches
      exact ⟨there, members, by rw [if_pos has]; exact ⟨rfl, received⟩⟩
    next other =>
      obtain ⟨manager, same, clamped, last⟩ := reaches
      refine ⟨by rw [manager, there], same.trans members, ?_⟩
      rw [if_neg other, same]
      exact ⟨clamped, last⟩

/-! ### Somebody who comes without a word -/

namespace Visitor

/-- Somebody goes into the first zone and does not ask for the weather. -/
def visited : World Script :=
  (TwoZones.idle { integers := [0, 0] }).afterAll {} .recording 1
    [.directory (.enter "visitor" (.text "a"))]

/-- A storm is forced there. -/
def storm : Sim Script Bool :=
  Manager.setZoneWeather (Stage.react {} .recording 1) (.text "a") .storm 0.75 true

/-- The world in the storm. -/
def struck : World Script :=
  visited.afterAll {} .recording 1 [.manager (.setWeather (.text "a") .storm 0.75 true)]

theorem storm_visited : storm visited = .ok true struck := rfl

/-- The storm is over, for the weather of the zone was stopped. -/
def calm : World Script := struck.afterAll {} .recording 1 [.manager (.remove (.text "a"))]

theorem reachable_calm : Reachable calm :=
  .afterAll (.afterAll (.afterAll (.start rfl) _ _ _ _) _ _ _ _) _ _ _ _

/-- Fine weather is forced. -/
def clear : Sim Script Bool :=
  Manager.setZoneWeather (Stage.react {} .recording 1) (.text "a") .fine 0.0 true

/-- The world in fine weather. -/
def cleared : World Script := clear.worldLeft calm

theorem clear_calm : clear calm = .ok true cleared := rfl

end Visitor

/-- A storm is forced, and the visitor receives it. -/
theorem Reachable.setZoneWeather_reaches_storm :
    Reachable Visitor.visited ∧ Visitor.visited.messenger = .directory ∧
      Visitor.storm Visitor.visited = .ok true Visitor.struck ∧
      (Visitor.struck.received "visitor").getLast? =
        some ⟨Family.storm.state .heavy, 0.75⟩ := by
  have reachable : Reachable Visitor.visited := .afterAll (.start rfl) _ _ _ _
  obtain ⟨id, v, asked, -, -, -, reached⟩ := reachable.setZoneWeather_reaches rfl {} 0 (.text "a")
    .storm 0.75 true Visitor.storm_visited
  refine ⟨reachable, rfl, Visitor.storm_visited, ?_⟩
  have fresh : Manager.getOrCreate (.text "a") Visitor.visited =
      .ok (some ⟨0⟩) ((Manager.getOrCreate (.text "a")).worldLeft Visitor.visited) := rfl
  rw [fresh] at asked
  cases asked
  rw [if_neg (by decide +kernel)] at reached
  exact (reached.2 "visitor" (by decide)).trans (by decide +kernel)

/-- **Fine weather that a visitor does not hear of**: it was rolled without telling anybody before
it was forced, and the visitor still has the storm. -/
theorem Reachable.setZoneWeather_unheard :
    Reachable Visitor.calm ∧ Visitor.calm.messenger = .directory ∧
      Visitor.clear Visitor.calm = .ok true Visitor.cleared ∧
      ("visitor" : ActorName) ∈ Visitor.cleared.directory.observers (.text "a") ∧
      Visitor.cleared.manager.find? (.text "a") = some ⟨1⟩ ∧
      (Visitor.cleared.cycle ⟨1⟩).packet = .fine ∧
      (Visitor.cleared.received "visitor").getLast? =
        some ⟨Family.storm.state .heavy, 0.75⟩ :=
  ⟨Visitor.reachable_calm, rfl, Visitor.clear_calm, by decide, by decide, by decide +kernel,
    by decide +kernel⟩

end Microclimate
