import Microclimate.Proofs.Registry
import Microclimate.Random.Script

/-!
# Who takes a cycle out

An update of the manager goes through the cycles that are running when it begins, and drops whatever
runs under the zone of one that reports that nobody was reached. One would like every cycle that is
gone when the update is over to have been taken out rightfully: on its own report, or because an
actor stopped or replaced it. That is not so. An actor who is called early in the update may start
the weather of a zone whose turn is still to come, and when the old cycle of that zone makes its
report, **the new one is dropped in its place**.

This is the only way in which it can go wrong. A cycle that is dropped on the report of another one
was started while the update was going on, and the reporter had been running under its zone before.

* `Microclimate.Deed.TakesOut`, `Microclimate.Deed.Rightful` – a deed takes out a cycle, and does so
  rightfully;
* `Microclimate.Deed.AllRightful` – whoever is gone after some deeds was taken out rightfully;
* `Microclimate.Manager.update_departures` – **how cycles depart** in the course of an update.
-/

namespace Microclimate

variable {γ : Type}

namespace Deed

/-- The cycle that reports that nobody was reached. -/
def reports? : Deed → Option CycleId
  | drop _ reporter => some reporter
  | _ => none

/-- A deed takes out a cycle that was running. -/
def TakesOut (id : CycleId) (live : Table CycleId) (d : Deed) : Prop :=
  id ∈ live.values ∧ id ∉ (d.apply live).values

/-- A deed may rightfully take out a cycle: it is done on request, or it is the report of that very
cycle. -/
def Rightful (id : CycleId) : Deed → Prop
  | start .. | stop _ => True
  | drop _ reporter => reporter = id

/-- Whoever is running at some moment in the course of some deeds, and is gone after the last of
them, was taken out rightfully. -/
def AllRightful (live : Table CycleId) (deeds : List Deed) : Prop :=
  ∀ before after id, deeds = before ++ after → id ∈ (replay before live).values →
    id ∉ (replay deeds live).values →
      ∃ between d rest, after = between ++ d :: rest ∧
        d.TakesOut id (replay (before ++ between) live) ∧ d.Rightful id

/-- What a deed takes out was under the zone that it names. -/
theorem TakesOut.find? {live : Table CycleId} (h : live.Distinct) {id : CycleId} {zone : Value}
    {reporter : CycleId} (out : (drop zone reporter).TakesOut id live) :
    live.find? zone = some id :=
  h.find?_of_lost_erase out.1 out.2

theorem distinct_replay {live : Table CycleId} (h : live.Distinct) (deeds : List Deed) :
    (replay deeds live).Distinct := by
  induction deeds generalizing live with
  | nil => exact h
  | cons d rest ih =>
    refine ih ?_
    cases d with
    | start zone id => exact h.insert zone id
    | stop zone => exact h.erase zone
    | drop zone reporter => exact h.erase zone

/-- **Whoever is gone in the end was taken out by one of the deeds.** -/
theorem exists_takesOut {id : CycleId} {live : Table CycleId} {deeds : List Deed}
    (there : id ∈ live.values) (gone : id ∉ (replay deeds live).values) :
    ∃ before d after, deeds = before ++ d :: after ∧ d.TakesOut id (replay before live) := by
  induction deeds generalizing live with
  | nil => exact absurd there gone
  | cons d rest ih =>
    by_cases stays : id ∈ (d.apply live).values
    · obtain ⟨before, d', after, rfl, out⟩ := ih stays gone
      exact ⟨d :: before, d', after, rfl, out⟩
    · exact ⟨[], d, rest, rfl, there, stays⟩

/-- Each of some fair deeds is fair at its moment. -/
theorem AllFair.at {old : Nat} {live : Table CycleId} {before after : List Deed} {d : Deed}
    (h : AllFair old live (before ++ d :: after)) : d.Fair old (replay before live) := by
  induction before generalizing live with
  | nil => exact h.1
  | cons e rest ih => exact ih h.2

end Deed

/-! ### No return -/

/-- A cycle that is running at some moment of a story is not started afterwards. -/
theorem World.Story.not_started {w w' : World γ} (registered : w.Registered)
    {before after : List Deed}
    (story : w.Story (before ++ after) w') {id : CycleId}
    (there : id ∈ (Deed.replay before w.manager.live).values) : id ∉ Deed.started after := by
  intro again
  have split : Deed.started (before ++ after) = Deed.started before ++ Deed.started after :=
    List.filterMap_append
  obtain ⟨⟨zone, _⟩, mem, rfl⟩ := List.mem_map.1 there
  -- a cycle from before the story is not new, and one from within it was started already
  rcases Deed.mem_replay mem with old | started
  · have known := (registered.made old).known
    have new := (story.fresh (split ▸ List.mem_append_right _ again)).1
    exact absurd known (Nat.not_lt.2 new)
  · have once := story.once
    rw [split, List.nodup_append] at once
    exact once.2.2 _ started _ again rfl

/-- Whoever was taken out does not come back. -/
theorem World.Story.gone {w w' : World γ} (registered : w.Registered) {before after : List Deed}
    {d : Deed} (story : w.Story (before ++ d :: after) w') {id : CycleId}
    (out : d.TakesOut id (Deed.replay before w.manager.live)) {between rest : List Deed}
    (split : after = between ++ rest) :
    id ∉ (Deed.replay (before ++ d :: between) w.manager.live).values := by
  intro back
  have none := story.not_started registered out.1
  rw [Deed.replay_append] at back
  obtain ⟨⟨zone, _⟩, mem, rfl⟩ := List.mem_map.1 back
  change _ ∈ (Deed.replay between _).entries at mem
  -- it is back either because it was never out or because it was started again
  rcases Deed.mem_replay mem with still | started
  · exact out.2 (List.mem_map_of_mem still)
  · refine none ?_
    rw [split]
    obtain ⟨e, he, starts⟩ := List.mem_filterMap.1 started
    exact List.mem_filterMap.2 ⟨e, by simp [he], starts⟩

/-! ### Departures -/

namespace World.Story

variable {w w' : World γ} {deeds : List Deed}

/-- Whoever is running at some moment of a story and gone at its end was taken out, rightfully or on
the report of another cycle; in the second case it was started in the course of the story. -/
theorem departure (registered : w.Registered) (story : w.Story deeds w') {before after : List Deed}
    {id : CycleId} (split : deeds = before ++ after)
    (there : id ∈ (Deed.replay before w.manager.live).values)
    (gone : id ∉ (Deed.replay deeds w.manager.live).values) :
    ∃ between d rest, after = between ++ d :: rest ∧
      d.TakesOut id (Deed.replay (before ++ between) w.manager.live) ∧
        (d.Rightful id ∨ ∃ zone reporter, d = .drop zone reporter ∧
          id ∈ Deed.started (before ++ between)) := by
  subst split
  rw [Deed.replay_append] at gone
  obtain ⟨between, d, rest, rfl, out⟩ := Deed.exists_takesOut there gone
  rw [← Deed.replay_append] at out
  refine ⟨between, d, rest, rfl, out, ?_⟩
  -- only a drop can be wrong, and if it is, then fairness says that its victim is young
  cases d with
  | start zone new => exact .inl trivial
  | stop zone => exact .inl trivial
  | drop zone reporter =>
    have distinct := Deed.distinct_replay registered.distinct (before ++ between)
    have fair := story.fair
    rw [← List.append_assoc] at fair
    rcases fair.at id (out.find? distinct) with rfl | young
    · exact .inl rfl
    · refine .inr ⟨zone, reporter, rfl, ?_⟩
      obtain ⟨⟨k, _⟩, mem, rfl⟩ := List.mem_map.1 out.1
      rcases Deed.mem_replay mem with old | started
      · exact absurd (registered.made old).known (Nat.not_lt.2 young)
      · exact started

/-- All departures are rightful if and only if every cycle that is dropped made the report itself.
-/
theorem allRightful_iff (registered : w.Registered) (story : w.Story deeds w') :
    Deed.AllRightful w.manager.live deeds ↔
      ∀ before zone reporter after id, deeds = before ++ .drop zone reporter :: after →
        (Deed.drop zone reporter).TakesOut id (Deed.replay before w.manager.live) →
          reporter = id := by
  constructor
  · rintro rightful before zone reporter after id rfl out
    have gone := story.gone registered out (List.append_nil after).symm
    obtain ⟨between, d, rest, split, out', right⟩ := rightful before _ id rfl out.1 gone
    cases between with
    | nil =>
      obtain ⟨rfl, -⟩ := List.cons.inj split
      exact right
    | cons e between =>
      -- after it was dropped the cycle was not there to be taken out again
      obtain ⟨rfl, tail⟩ := List.cons.inj split
      exact absurd out'.1 (story.gone registered out tail)
  · rintro own before after id split there gone
    obtain ⟨between, d, rest, rfl, out, why⟩ := story.departure registered split there gone
    refine ⟨between, d, rest, rfl, out, ?_⟩
    rcases why with right | ⟨zone, reporter, rfl, -⟩
    · exact right
    · exact own (before ++ between) zone reporter rest id (by simp [split]) out

end World.Story

/-- **How cycles depart.** From every reachable world on, whatever the actors do and whether the
update returns or fails, the update does some deeds, and whoever is running at some moment of it and
gone at its end was taken out by one of them: rightfully, or on the report of another cycle, and
then it had been started while the update was going on. All departures are rightful exactly if no
cycle is dropped but the one that made the report. -/
theorem Manager.update_departures [RandomSource γ] (stage : Stage) (behaviour : Behaviour γ)
    (depth : Nat) (diff : Int) (w : World γ) (h : Reachable w) :
    let w' := (update (stage.react behaviour depth) diff).worldLeft w
    ∃ deeds, w'.ledger.toList = w.ledger.toList ++ deeds ∧
      w'.manager.live = Deed.replay deeds w.manager.live ∧
      (∀ before after id, deeds = before ++ after →
        id ∈ (Deed.replay before w.manager.live).values → id ∉ w'.manager.live.values →
          ∃ between d rest, after = between ++ d :: rest ∧
            d.TakesOut id (Deed.replay (before ++ between) w.manager.live) ∧
              (d.Rightful id ∨ ∃ zone reporter, d = .drop zone reporter ∧
                id ∈ Deed.started (before ++ between))) ∧
      (Deed.AllRightful w.manager.live deeds ↔
        ∀ before zone reporter after id, deeds = before ++ .drop zone reporter :: after →
          (Deed.drop zone reporter).TakesOut id (Deed.replay before w.manager.live) →
            reporter = id) := by
  intro w'
  have proceeds : w.Proceeds w' :=
    (update_orderly (stage.react_orderly behaviour depth) diff).worldLeft w
  obtain ⟨-, deeds, story⟩ := proceeds h.registered
  refine ⟨deeds, story.ledger, story.live, ?_, story.allRightful_iff h.registered⟩
  intro before after id split there gone
  rw [story.live] at gone
  exact story.departure h.registered split there gone

/-! ### An update that drops a new cycle -/

namespace TwoZones

/-- It rains all year round. -/
def rainy : SeasonTable := ⟨{ rain := 100 }, { rain := 100 }, { rain := 100 }, { rain := 100 }⟩

variable {γ : Type}

/-- Weather can be started in two zones, and nobody is in either. -/
def idle (source : γ) : World γ :=
  { random := source
    engine := { tps_pos := standardTps_pos, random := source }
    clock := .fixed 100
    manager := { data := ⟨[(.text "a", rainy), (.text "b", rainy)]⟩ } }

/-- The weather is running in both zones, and somebody listens to updates. -/
def running [RandomSource γ] (source : γ) : World γ :=
  (idle source).afterAll {} (fun _ _ => []) 1
    [.manager (.getOrCreate (.text "a")), .manager (.getOrCreate (.text "b")),
      .hooks (.onTicked "listener")]

theorem reachable_running [RandomSource γ] (source : γ) : Reachable (running source) :=
  .afterAll (.start rfl) _ _ _ _

/-- Whoever hears of an update starts the weather of the second zone anew. -/
def restarting : Behaviour Script := fun call _ =>
  match call with
  | .ticked .. => [{ command := .manager (.add (.text "b")) }]
  | _ => []

/-- The world in which the weather of the first zone will stay as it is and that of the second one
will change radically. -/
def before : World Script := running { integers := [0, 0, 0, 0, 95, 1, 0], normals := [0.5] }

/-- The world after an update in which the weather of the second zone is started anew. -/
def after : World Script := (Manager.update (Stage.react {} restarting 2) 600000).worldLeft before

theorem after_eq :
    (Manager.update (Stage.react {} restarting 2) 600000).worldLeft before = after := rfl

theorem names_after : after.ledger.toList.map (fun d => (d.starts?, d.reports?)) =
    before.ledger.toList.map (fun d => (d.starts?, d.reports?)) ++
      [(some ⟨2⟩, none), (none, some ⟨1⟩)] := by
  decide +kernel

theorem values_after : after.manager.live.values = [⟨0⟩] := by decide +kernel

end TwoZones

/-- A cycle that is started and then gone, with nobody but another one making a report, was not
taken out rightfully. -/
theorem Deed.not_allRightful {live : Table CycleId} {deeds : List Deed} {id reporter : CycleId}
    (names : deeds.map (fun d => (d.starts?, d.reports?)) =
      [(some id, none), (none, some reporter)])
    (other : reporter ≠ id) (gone : id ∉ (replay deeds live).values)
    (own : AllRightful live deeds → ∀ before zone reporter after id,
      deeds = before ++ .drop zone reporter :: after →
        (drop zone reporter).TakesOut id (replay before live) → reporter = id) :
    ¬AllRightful live deeds := by
  intro rightful
  obtain ⟨d, e, rfl⟩ : ∃ d e, deeds = [d, e] := by
    obtain ⟨d, rest, rfl, -, names⟩ := List.map_eq_cons_iff.1 names
    obtain ⟨e, rest, rfl, -, names⟩ := List.map_eq_cons_iff.1 names
    exact ⟨d, e, by rw [List.map_eq_nil_iff.1 names]⟩
  cases d with
  | start zone new =>
    cases e with
    | drop zone' r =>
      simp only [List.map_cons, List.map_nil, starts?, reports?, List.cons.injEq, Prod.mk.injEq,
        Option.some.injEq] at names
      obtain ⟨⟨rfl, -⟩, ⟨-, rfl⟩, -⟩ := names
      have there : new ∈ (replay [start zone new] live).values :=
        Table.mem_values_insert live zone new
      exact other (own rightful [start zone new] zone' r [] new rfl ⟨there, gone⟩)
    | _ => simp [reports?] at names
  | _ => simp [starts?] at names

/-- The listener hears of the update of the first zone and starts the weather of the second one
anew. Then the old cycle of that zone reports that nobody was reached, and the new one is dropped.
-/
theorem Manager.update_departures_restarted :
    Reachable TwoZones.before ∧ ∃ deeds,
      TwoZones.after.ledger.toList = TwoZones.before.ledger.toList ++ deeds ∧
        ¬Deed.AllRightful TwoZones.before.manager.live deeds := by
  have reachable : Reachable TwoZones.before := TwoZones.reachable_running _
  have departures := update_departures {} TwoZones.restarting 2 600000 TwoZones.before reachable
  rw [TwoZones.after_eq] at departures
  obtain ⟨deeds, ledger, live, -, rightful⟩ := departures
  refine ⟨reachable, deeds, ledger, ?_⟩
  have names := TwoZones.names_after
  rw [ledger, List.map_append, List.append_cancel_left_eq] at names
  refine Deed.not_allRightful names (by decide) ?_ rightful.1
  rw [← live, TwoZones.values_after]
  decide

end Microclimate
