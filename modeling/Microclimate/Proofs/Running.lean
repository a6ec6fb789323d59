import Microclimate.Proofs.Courses
import Microclimate.Proofs.Departures

/-!
# What is running

Cycles are started, replaced and dropped by many operations, some of them in the middle of others,
and some fail half-way. At every moment all the same **every running cycle is one of its zone**: it
was made with the chances that the data has for the zone, for a zone that is the same key, and with
the interval of the configuration. No two of them run in one zone.

A cycle is entered before anything else is done with it, and what it was made with never changes. So
the register is in order not only when an operation is over but whenever something happens.

* `Microclimate.Scene.RunsBy` – every running cycle is one of its zone;
* `Microclimate.World.StaysInOrder` – the register stays in order from one world to another, and at
  every moment between them, with `Microclimate.Contract.ordering`;
* `Microclimate.World.Course.runsBy` – **every running cycle is one of its zone, at every moment**.
-/

namespace Microclimate

variable {γ : Type}

/-- **Every running cycle is one of its zone**, by some data and some configuration. -/
structure Scene.RunsBy (s : Scene) (data : Table SeasonTable) (config : Config) : Prop where
  /-- No two cycles run in the same zone. -/
  apart : s.manager.live.entries.Pairwise fun e f => e.1.sameKey f.1 = false ∧ e.2 ≠ f.2
  /-- A cycle that runs is known. -/
  known : ∀ {zone id}, (zone, id) ∈ s.manager.live.entries → id.number < s.cycles.size
  /-- A zone in which a cycle runs has chances, and the cycle was made with them. -/
  chances : ∀ {zone id}, (zone, id) ∈ s.manager.live.entries →
    ∃ table, data.find? zone = some table ∧ (s.cycle id).table = some table
  /-- The zone of the cycle and the zone under which it runs are the same key. -/
  place : ∀ {zone id}, (zone, id) ∈ s.manager.live.entries → (s.cycle id).zone.sameKey zone = true
  /-- The cycle has the interval of the configuration, which is positive. -/
  interval : ∀ {zone id}, (zone, id) ∈ s.manager.live.entries →
    (s.cycle id).timer.interval = config.changeInterval ∧ 0 < (s.cycle id).timer.interval

/-- Where the register is in order, every running cycle is one of its zone. -/
theorem Scene.Registered.runsBy_self {s : Scene} (h : s.Registered) :
    s.RunsBy s.manager.data s.manager.config where
  apart := h.distinct.and (List.pairwise_map.1 h.ids)
  known entered := (h.made entered).known
  chances entered := by
    have made := h.made entered
    obtain ⟨table, found⟩ := Option.isSome_iff_exists.1 made.chances
    exact ⟨table, found, made.table.trans found⟩
  place entered := (h.made entered).place
  interval entered := by
    rw [(h.made entered).interval]
    exact ⟨rfl, s.manager.config.changeInterval_pos⟩

/-! ### From one world to another -/

/-- **The register stays in order** from one world to another, and whenever something happens. -/
structure World.OrderedTo (w w' : World γ) : Prop where
  grows : Scene.Grows w.toScene w'.toScene
  registered : w'.Registered
  moments : ∃ news, w.Adds news w' ∧
    ∀ m ∈ news, Scene.Grows w.toScene m.scene ∧ m.scene.Registered

/-- The register stays in order from one world to another if it was in order. -/
def World.StaysInOrder (w w' : World γ) : Prop := w.Registered → w.OrderedTo w'

namespace World.StaysInOrder

theorem trans {a b c : World γ} (h : a.StaysInOrder b) (h' : b.StaysInOrder c) :
    a.StaysInOrder c := by
  intro registered
  obtain ⟨grown, between, early, first, before⟩ := h registered
  obtain ⟨grown', after, late, second, past⟩ := h' between
  refine ⟨grown.trans grown', after, early ++ late, first.trans second, fun m mem => ?_⟩
  rcases List.mem_append.1 mem with mem | mem
  · exact before m mem
  · exact (past m mem).imp_left grown.trans

/-- The register stays in order where everything goes on in an orderly way and nothing happens. -/
theorem of_proceeds {w w' : World γ} (h : w.Proceeds w') (history : w'.history = w.history) :
    w.StaysInOrder w' := by
  intro registered
  obtain ⟨after, deeds, story⟩ := h registered
  exact ⟨story.toGrows, after, [], .nothing history, by simp⟩

theorem refl (w : World γ) : w.StaysInOrder w := of_proceeds (.refl w) rfl

/-- Something may happen at any time. -/
theorem emit (w : World γ) (e : Event) : w.StaysInOrder (w.emit e) := fun registered =>
  ⟨.refl _, registered, [⟨e, w.toScene⟩], .emit w e, fun m mem => by
    obtain rfl := List.mem_singleton.1 mem
    exact ⟨.refl _, registered⟩⟩

theorem of_step {w w' : World γ} (step : w.Step w') : w.StaysInOrder w' := by
  have proceeds := World.Proceeds.of_step step
  cases step with
  | happened e => exact emit w e
  | started zone table chances =>
    -- when it is logged that the cycle starts it is not entered yet
    intro registered
    obtain ⟨after, deeds, story⟩ := proceeds registered
    refine ⟨story.toGrows, after, _, w.adds_start zone table, fun m mem => ?_⟩
    obtain rfl := List.mem_singleton.1 mem
    have kept : Scene.Grows w.toScene { w.toScene with cycles := (w.start zone table).cycles } :=
      ⟨rfl, rfl, story.size, story.make⟩
    exact ⟨kept, registered.grows kept rfl⟩
  | moved m allowed =>
    obtain ⟨d, attempts, left⟩ := m.carryOut_worldLeft w
    rw [left] at proceeds ⊢
    exact of_proceeds proceeds rfl
  | _ => exact of_proceeds proceeds rfl

theorem discard (w : World γ) (zone : Value) (reporter : CycleId) :
    w.StaysInOrder (w.discard zone reporter) := by
  refine (emit w (.logged (.removing zone))).trans fun registered => ?_
  have grows : Scene.Grows w.toScene (w.discard zone reporter).toScene := .of_cycles rfl rfl rfl
  exact ⟨grows, registered.erase grows rfl, [], .nothing rfl, by simp⟩

end World.StaysInOrder

/-- **The contract of order**: the register stays in order. -/
def Contract.ordering : Contract γ := .always World.StaysInOrder .refl .trans

theorem Contract.admits_ordering : (ordering : Contract γ).Admits where
  step := World.StaysInOrder.of_step
  fail _ w := .refl w
  discard := World.StaysInOrder.discard

variable [RandomSource γ]

/-- **Every running cycle is one of its zone**, by the data and the configuration of the manager. In
every course of events that starts when no weather is running, this is true at the end and whenever
something happens in between, and the data and the configuration stay. -/
theorem World.Course.runsBy {start w : World γ} (course : start.Course w)
    (idle : start.manager.live = .empty) :
    w.RunsBy start.manager.data start.manager.config ∧
      w.manager.data = start.manager.data ∧ w.manager.config = start.manager.config ∧
      ∃ news, start.Adds news w ∧ ∀ m ∈ news,
        m.scene.RunsBy start.manager.data start.manager.config := by
  have h := course.keeps Contract.admits_ordering (Reachable.start idle).registered
  obtain ⟨news, adds, ordered⟩ := h.moments
  have runs {s : Scene} (grows : start.Grows s) (registered : s.Registered) :
      s.RunsBy start.manager.data start.manager.config :=
    grows.data ▸ grows.config ▸ registered.runsBy_self
  exact ⟨runs h.grows h.registered, h.grows.data, h.grows.config, news, adds, fun m mem =>
    runs (ordered m mem).1 (ordered m mem).2⟩

namespace TwoZones

/-- No weather is running, and the only zone that can have some is numbered. -/
def numbered : World Script :=
  { idle { integers := [0, 0] } with manager := { data := ⟨[(.int 1, rainy)]⟩ } }

/-- The weather of the zone is started, and then anew under another name; in between somebody asks
for the weather of what is no key. -/
def renamed : World Script :=
  numbered.afterAll {} (fun _ _ => []) 1
    [.manager (.add (.bool true)), .manager (.add (.list [])), .manager (.add (.float 1.0))]

theorem values_renamed : renamed.manager.live.values = [⟨1⟩] := by decide +kernel

end TwoZones

/-- The second cycle runs under the first name of the zone. -/
theorem World.Course.runsBy_renamed :
    TwoZones.numbered.manager.live = .empty ∧ TwoZones.numbered.Course TwoZones.renamed ∧
      TwoZones.renamed.RunsBy TwoZones.numbered.manager.data TwoZones.numbered.manager.config ∧
      TwoZones.renamed.manager.live.values = [⟨1⟩] := by
  have course : TwoZones.numbered.Course TwoZones.renamed := .afterAll ..
  exact ⟨rfl, course, (course.runsBy rfl).1, TwoZones.values_renamed⟩

end Microclimate
