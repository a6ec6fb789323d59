import Mathlib.Data.List.Induction
import Microclimate.Proofs.Running

/-!
# The order in which zones are listed

The zones whose weather is running are listed in the order of their entries, and one would like that
to be the order in which their cycles were created. An entry keeps its place when its cycle is
replaced, though. So a cycle that is started where weather is already running **cuts in** before all
that is listed further down, and all of that is older.

There is no other way to get out of order. A cycle that is started where nothing is running goes to
the end of the list, and there it is the youngest one; what is taken out leaves a gap that closes.

* `Microclimate.Deed.CutsIn` – a cycle was started in the place of one that was listed before
  another one;
* `Microclimate.World.Chronicle` – the deeds that lead from one world to another, with new cycles in
  the order of their numbers, and `Microclimate.Contract.chronicled`;
* `Microclimate.Deed.pairwise_listed` – **of two cycles the one listed first is the younger one if
  and only if it cut in**;
* `Microclimate.World.Course.zones_inOrder` – the law, for all courses of events.
-/

namespace Microclimate

variable {γ : Type}

/-- An order of what is listed stays one when something is written, if that comes after all that is
listed, and before all that follows what it replaces. -/
theorem Table.Distinct.pairwise_insert {α : Type} {t : Table α} (distinct : t.Distinct)
    {r : α → α → Prop} (h : t.values.Pairwise r) {key : Value} {a : α}
    (last : ∀ b ∈ t.values, r b a)
    (cuts : ∀ replaced b, t.find? key = some replaced → [replaced, b].Sublist t.values → r a b) :
    (t.insert key a).values.Pairwise r := by
  obtain ⟨entries⟩ := t
  simp only [values, Table.insert, insertBy] at h last cuts ⊢
  rcases put_eq key a entries with
    ⟨-, written⟩ | ⟨before, k, replaced, after, rfl, same, written⟩
  · rw [written, List.map_append, List.pairwise_append]
    refine ⟨h, List.pairwise_singleton _ _, fun b there c added => ?_⟩
    obtain rfl := List.mem_singleton.1 added
    exact last b there
  · have found := distinct.find?_of_mem (a := replaced) (by simp) same
    rw [written]
    simp only [List.map_append, List.map_cons, List.pairwise_append, List.pairwise_cons] at h ⊢
    refine ⟨h.1, ⟨fun b later => cuts replaced b found ?_, h.2.1.2⟩, fun b there c mem => ?_⟩
    · rw [List.map_append, List.map_cons]
      exact ((List.singleton_sublist.2 later).cons_cons _).trans (List.sublist_append_right _ _)
    · rcases List.mem_cons.1 mem with rfl | later
      · exact last b (by simp [there])
      · exact h.2.2 b there c (List.mem_cons_of_mem _ later)

namespace Deed

/-- **A cycle cut in before another one**: in the course of some deeds, done when nothing was
running, it was started in the place of a cycle that was listed before the other one. -/
def CutsIn (deeds : List Deed) (id other : CycleId) : Prop :=
  ∃ before zone replaced after, deeds = before ++ .start zone id :: after ∧
    (replay before .empty).find? zone = some replaced ∧
    [replaced, other].Sublist (replay before .empty).values

theorem started_append (ds es : List Deed) : started (ds ++ es) = started ds ++ started es :=
  List.filterMap_append

/-- What is running once some deeds were done, and was not before, was started by them. -/
theorem mem_started {deeds : List Deed} {id : CycleId} (h : id ∈ (replay deeds .empty).values) :
    id ∈ started deeds := by
  obtain ⟨e, mem, rfl⟩ := List.mem_map.1 h
  exact (mem_replay mem).resolve_left List.not_mem_nil

/-- Cycles are started in the order of their numbers. -/
def Numbered (deeds : List Deed) : Prop :=
  (started deeds).Pairwise fun id other => id.number < other.number

theorem Numbered.before {before after : List Deed} (h : Numbered (before ++ after)) :
    Numbered before := by
  rw [Numbered, started_append, List.pairwise_append] at h
  exact h.1

/-- A cycle that is started is younger than all that is running. -/
theorem Numbered.lt {before after : List Deed} {zone : Value} {id other : CycleId}
    (h : Numbered (before ++ .start zone id :: after))
    (there : other ∈ (replay before .empty).values) : other.number < id.number := by
  rw [Numbered, started_append, List.pairwise_append] at h
  exact h.2.2 other (mem_started there) id List.mem_cons_self

/-- Whoever cuts in is younger than those before whom they do. -/
theorem CutsIn.lt {deeds : List Deed} {id other : CycleId} (h : CutsIn deeds id other)
    (numbered : Numbered deeds) : other.number < id.number := by
  obtain ⟨before, zone, replaced, after, rfl, -, listed⟩ := h
  exact numbered.lt (listed.mem (by simp))

/-- Whoever cut in by the end of some deeds had done so before the last one, or did so with it. -/
theorem cutsIn_concat {deeds : List Deed} {d : Deed} {id other : CycleId} :
    CutsIn (deeds ++ [d]) id other ↔ CutsIn deeds id other ∨
      ∃ zone replaced, d = .start zone id ∧ (replay deeds .empty).find? zone = some replaced ∧
        [replaced, other].Sublist (replay deeds .empty).values := by
  constructor
  · rintro ⟨before, zone, replaced, after, split, found, listed⟩
    rcases List.eq_nil_or_concat' after with rfl | ⟨after, last, rfl⟩
    · obtain ⟨rfl, last⟩ := List.append_inj' split rfl
      exact .inr ⟨zone, replaced, (List.cons.inj last).1, found, listed⟩
    · rw [← List.cons_append, ← List.append_assoc] at split
      obtain ⟨rfl, -⟩ := List.append_inj' split rfl
      exact .inl ⟨before, zone, replaced, after, rfl, found, listed⟩
  · rintro (⟨before, zone, replaced, after, rfl, rest⟩ | ⟨zone, replaced, rfl, rest⟩)
    · exact ⟨before, zone, replaced, after ++ [d], by simp, rest⟩
    · exact ⟨deeds, zone, replaced, [], rfl, rest⟩

/-- Of two cycles that are listed, the first one is the younger one if and only if it cut in before
the other one. -/
def Explains (deeds : List Deed) (id other : CycleId) : Prop :=
  other.number < id.number ↔ CutsIn deeds id other

/-- That is so in any case if the first one is older. -/
theorem Numbered.explains {deeds : List Deed} (numbered : Numbered deeds) {id other : CycleId}
    (older : id.number < other.number) : Explains deeds id other := by
  constructor
  · intro younger
    omega
  · intro cut
    exact cut.lt numbered

/-- One more deed does not cut in before what is running. -/
theorem Explains.concat {deeds : List Deed} {d : Deed} (numbered : Numbered (deeds ++ [d]))
    {id other : CycleId} (there : id ∈ (replay deeds .empty).values) (h : Explains deeds id other) :
    Explains (deeds ++ [d]) id other := by
  refine Iff.trans h (Iff.trans (or_iff_left ?_).symm cutsIn_concat.symm)
  rintro ⟨zone, replaced, rfl, -⟩
  exact absurd (numbered.lt there) (Nat.lt_irrefl _)

/-- **Of two cycles the one listed first is the younger one if and only if it cut in.** By induction
on the deeds: what was listed stays in its order, and a new cycle is the youngest one, at the end of
the list or in the place of another cycle. -/
theorem pairwise_listed {deeds : List Deed} (numbered : Numbered deeds) :
    (replay deeds .empty).values.Pairwise (Explains deeds) := by
  induction deeds using List.reverseRecOn with
  | nil => exact .nil
  | append_singleton deeds d ih =>
    have before : (replay deeds .empty).values.Pairwise (Explains (deeds ++ [d])) :=
      (ih numbered.before).imp_of_mem fun there _ => Explains.concat numbered there
    have distinct := distinct_replay Table.distinct_empty deeds
    rw [replay_append]
    change (d.apply (replay deeds .empty)).values.Pairwise _
    cases d with
    | stop zone => exact before.sublist (List.eraseP_sublist.map _)
    | drop zone reporter => exact before.sublist (List.eraseP_sublist.map _)
    | start zone id =>
      refine distinct.pairwise_insert before
        (fun other there => numbered.explains (numbered.lt there)) ?_
      intro replaced other found listed
      exact iff_of_true (numbered.lt (listed.mem (by simp)))
        ⟨deeds, zone, replaced, [], rfl, found, listed⟩

end Deed

/-! ### Chronicles -/

/-- **The deeds that lead from one world to another**: they are what is new in the ledger, and they
make the running cycles what they are. Whatever they start is new, and numbered in order. -/
structure World.Chronicle (w : World γ) (deeds : List Deed) (w' : World γ) : Prop where
  size : w.cycles.size ≤ w'.cycles.size
  ledger : w'.ledger.toList = w.ledger.toList ++ deeds
  live : w'.manager.live = Deed.replay deeds w.manager.live
  fresh : ∀ id ∈ Deed.started deeds, w.cycles.size ≤ id.number ∧ id.number < w'.cycles.size
  numbered : Deed.Numbered deeds

namespace World.Chronicle

variable {w w' : World γ}

/-- Nothing was done. -/
theorem nothing (size : w.cycles.size ≤ w'.cycles.size) (ledger : w'.ledger = w.ledger)
    (live : w'.manager.live = w.manager.live) : w.Chronicle [] w' where
  size := size
  ledger := by simp [ledger]
  live := live
  fresh _ mem := absurd mem List.not_mem_nil
  numbered := .nil

theorem trans {a b c : World γ} {ds es : List Deed} (h : a.Chronicle ds b) (h' : b.Chronicle es c) :
    a.Chronicle (ds ++ es) c where
  size := Nat.le_trans h.size h'.size
  ledger := by rw [h'.ledger, h.ledger, List.append_assoc]
  live := by rw [h'.live, h.live, Deed.replay_append]
  fresh id mem := by
    rw [Deed.started_append, List.mem_append] at mem
    rcases mem with early | late
    · exact ⟨(h.fresh id early).1, Nat.lt_of_lt_of_le (h.fresh id early).2 h'.size⟩
    · exact ⟨Nat.le_trans h.size (h'.fresh id late).1, (h'.fresh id late).2⟩
  numbered := by
    rw [Deed.Numbered, Deed.started_append, List.pairwise_append]
    refine ⟨h.numbered, h'.numbered, fun id early other late => ?_⟩
    exact Nat.lt_of_lt_of_le (h.fresh id early).2 (h'.fresh other late).1

/-- A cycle is taken out. -/
theorem erased {d : Deed} (none : d.starts? = none) (cycles : w'.cycles = w.cycles)
    (ledger : w'.ledger = w.ledger.push d) (live : w'.manager.live = d.apply w.manager.live) :
    w.Chronicle [d] w' where
  size := Nat.le_of_eq (by rw [cycles])
  ledger := by simp [ledger]
  live := live
  fresh id mem := by simp [Deed.started, none] at mem
  numbered := by simp [Deed.Numbered, Deed.started, none]

/-- The weather of a zone is started. -/
theorem started (w : World γ) (zone : Value) (table : SeasonTable) :
    w.Chronicle [.start zone ⟨w.cycles.size⟩] (w.start zone table) where
  size := by simp [World.start]
  ledger := by simp [World.start]
  live := rfl
  fresh id mem := by
    obtain rfl : id = ⟨w.cycles.size⟩ := by simpa [Deed.started, Deed.starts?] using mem
    exact ⟨Nat.le_refl _, by simp [World.start]⟩
  numbered := by simp [Deed.Numbered, Deed.started, Deed.starts?]

end World.Chronicle

/-- There are deeds that lead from one world to another. -/
def World.Chronicled (w w' : World γ) : Prop := ∃ deeds, w.Chronicle deeds w'

namespace World.Chronicled

theorem nothing {w w' : World γ} (size : w.cycles.size ≤ w'.cycles.size)
    (ledger : w'.ledger = w.ledger) (live : w'.manager.live = w.manager.live) : w.Chronicled w' :=
  ⟨[], .nothing size ledger live⟩

theorem refl (w : World γ) : w.Chronicled w := nothing (Nat.le_refl _) rfl rfl

theorem trans {a b c : World γ} (h : a.Chronicled b) (h' : b.Chronicled c) : a.Chronicled c := by
  obtain ⟨ds, first⟩ := h
  obtain ⟨es, second⟩ := h'
  exact ⟨ds ++ es, first.trans second⟩

end World.Chronicled

/-- **The contract of chronicles**: whatever is done to the running cycles can be told by deeds. -/
def Contract.chronicled : Contract γ := .always World.Chronicled .refl .trans

theorem Contract.admits_chronicled : (chronicled : Contract γ).Admits where
  step {w w'} h := by
    cases h with
    | edited id f make => exact .nothing (by simp) rfl rfl
    | started zone table chances => exact ⟨_, .started w zone table⟩
    | stopped zone => exact ⟨_, .erased rfl rfl rfl rfl⟩
    | moved m allowed =>
      obtain ⟨d, attempts, left⟩ := m.carryOut_worldLeft w
      rw [left]
      exact .nothing (Nat.le_refl _) rfl rfl
    | _ => exact .nothing (Nat.le_refl _) rfl rfl
  fail _ w := .refl w
  discard w zone reporter := ⟨_, .erased (d := .drop zone reporter) rfl rfl rfl rfl⟩

/-! ### The order of the zones -/

/-- What is found under a zone is listed, under that zone or one that is the same key. -/
theorem Manager.find?_isSome_iff (m : Manager) (zone : Value) :
    (m.find? zone).isSome ↔ ∃ z ∈ m.zones, z.sameKey zone = true := by
  simp [find?, Table.find?, zones, Table.keys]

variable [RandomSource γ]

/-- **The order in which zones are listed.** In every course of events that starts when no weather
is running, every zone whose weather is running is listed once. Cycles are created in the order of
their numbers, and of the cycles of two zones the one that is listed first is the younger one if and
only if it cut in before the other one. So the zones are listed in the order in which their cycles
were created if and only if none of these cycles cut in before another one. -/
theorem World.Course.zones_inOrder {start w : World γ} (course : start.Course w)
    (idle : start.manager.live = .empty) :
    w.manager.zones.Pairwise (fun y z => y.sameKey z = false) ∧
      (∀ zone, (w.manager.find? zone).isSome ↔ ∃ z ∈ w.manager.zones, z.sameKey zone = true) ∧
      ∃ deeds, w.ledger.toList = start.ledger.toList ++ deeds ∧
        w.manager.live = Deed.replay deeds .empty ∧
        (Deed.started deeds).Pairwise (fun id other => id.number < other.number) ∧
        w.manager.live.values.Pairwise
          (fun id other => other.number < id.number ↔ Deed.CutsIn deeds id other) ∧
        (w.manager.live.values.Pairwise (fun id other => id.number < other.number) ↔
          w.manager.live.values.Pairwise fun id other => ¬Deed.CutsIn deeds id other) := by
  obtain ⟨deeds, chronicle⟩ := course.keeps Contract.admits_chronicled
  have registered :=
    (course.keeps Contract.admits_ordering (Reachable.start idle).registered).registered
  have live := chronicle.live
  rw [idle] at live
  have listed : w.manager.live.values.Pairwise (Deed.Explains deeds) :=
    live ▸ Deed.pairwise_listed chronicle.numbered
  refine ⟨List.pairwise_map.2 registered.distinct, w.manager.find?_isSome_iff, deeds,
    chronicle.ledger, live, chronicle.numbered, listed, ?_⟩
  have apart := listed.and registered.ids
  constructor
  · intro inOrder
    refine (apart.and inOrder).imp fun {id other} ⟨⟨explains, _⟩, older⟩ cut => ?_
    have younger := explains.2 cut
    omega
  · intro none
    refine (apart.and none).imp fun {id other} ⟨⟨explains, ne⟩, uncut⟩ => ?_
    have notYounger : ¬other.number < id.number := fun younger => uncut (explains.1 younger)
    have differ : id.number ≠ other.number := fun same => ne (congrArg CycleId.mk same)
    omega

namespace TwoZones

/-- Weather can be started in two zones, and the dice are there. -/
def quiet : World Script := idle { integers := [0, 0, 0] }

/-- The weather of both zones is started, and then that of the first one anew. -/
def replaced : World Script :=
  quiet.afterAll {} (fun _ _ => []) 1
    [.manager (.add (.text "a")), .manager (.add (.text "b")), .manager (.add (.text "a"))]

theorem zones_replaced : replaced.manager.zones = [.text "a", .text "b"] := rfl

theorem values_replaced : replaced.manager.live.values = [⟨2⟩, ⟨1⟩] := by decide +kernel

end TwoZones

/-- The first zone stays where it was, so its new cycle cut in. -/
theorem World.Course.zones_inOrder_replaced :
    TwoZones.quiet.manager.live = .empty ∧ TwoZones.quiet.Course TwoZones.replaced ∧
      TwoZones.replaced.manager.zones = [.text "a", .text "b"] ∧
      ∃ deeds, TwoZones.replaced.ledger.toList = TwoZones.quiet.ledger.toList ++ deeds ∧
        Deed.CutsIn deeds ⟨2⟩ ⟨1⟩ := by
  have course : TwoZones.quiet.Course TwoZones.replaced := .afterAll ..
  obtain ⟨-, -, deeds, ledger, -, -, listed, -⟩ := course.zones_inOrder rfl
  rw [TwoZones.values_replaced] at listed
  have cut := (List.rel_of_pairwise_cons listed (List.mem_singleton_self _)).1 (by decide)
  exact ⟨rfl, course, TwoZones.zones_replaced, deeds, ledger, cut⟩

end Microclimate
