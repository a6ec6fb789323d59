import Microclimate.Proofs.Moves

/-!
# Going into what is no zone

Whoever goes into a zone leaves the one before, and only then does it turn out whether there can be
a zone of that name. One would like whoever is refused to stay where they were. They do not: **they
are nowhere then**, as if they had left for good.

That is all. Nobody is refused a zone that is a key, whoever was nowhere has lost nothing, and
nobody else is concerned: the others are where they were, in the order in which they were.

* `Microclimate.World.Course.enter_refused` – **what a refusal leaves of the directory.**
-/

namespace Microclimate

variable {γ : Type}

namespace Directory

/-- All others are where they were once somebody has left. -/
theorem zoneOf?_without_of_ne (d : Directory) {observer other : ActorName} (ne : other ≠ observer) :
    (d.without observer).zoneOf? other = d.zoneOf? other := by
  rw [zoneOf?, zoneOf?, without, forget, List.find?_filter]
  congr 2
  funext e
  by_cases same : e.1 = other
  · simp [same, ne]
  · simp [same]

/-- Whoever is nowhere leaves a tidy directory as it is. -/
theorem Tidy.without_of_nowhere {d : Directory} (h : d.Tidy) {observer : ActorName}
    (nowhere : d.zoneOf? observer = none) : d.without observer = d := by
  have left := h.leave_eq observer
  rw [leave_of_nowhere nowhere] at left
  exact (EStateM.Result.ok.inj left).2.symm

end Directory

variable [RandomSource γ]

/-- **What a refusal leaves of the directory.** In every course of events that starts when nobody is
anywhere, whoever tries to go into a zone is refused only if it is no key. Then they have left the
zone in which they were, if any, and all others are where they were, in the same order. -/
theorem World.Course.enter_refused {start w : World γ} (course : start.Course w)
    (nobody : start.directory.members = .empty) (observer : ActorName) (zone : Value) :
    (Directory.enter observer zone).Ends w (fun _ _ => zone.isKey = true) fun f w' =>
      zone.isKey = false ∧ f = .notAKey zone ∧
        Directory.leave observer w.directory = .ok () w'.directory ∧
        (w.directory.zoneOf? observer = none → w'.directory = w.directory) ∧
        w'.directory.zoneOf? observer = none ∧
        (∀ z, w'.directory.observers z = (w.directory.observers z).filter (· ≠ observer)) ∧
        ∀ other, other ≠ observer →
          w'.directory.zoneOf? other = w.directory.zoneOf? other := by
  have tidy := course.tidy nobody
  rw [Sim.Ends, tidy.enter_eq]
  by_cases key : zone.isKey = true
  · rw [if_pos key]
    exact key
  · rw [if_neg key]
    refine ⟨Bool.eq_false_iff.2 key, rfl, tidy.leave_eq observer, tidy.without_of_nowhere,
      Directory.zoneOf?_without _ _, tidy.observers_without observer, fun other ne => ?_⟩
    exact Directory.zoneOf?_without_of_ne _ ne

namespace TwoZones

/-- The rover and the settler are in a zone. -/
def gathered : World Script :=
  (idle {} : World Script).afterAll {} (fun _ _ => []) 1
    [.directory (.enter rover (.int 1)), .directory (.enter settler (.int 1))]

/-- The world once the rover was refused. -/
def refused : World Script := (Directory.enter rover (.list [])).worldLeft gathered

theorem enter_gathered :
    Directory.enter rover (.list []) gathered = .error (.notAKey (.list [])) refused := rfl

end TwoZones

/-- The rover is refused and nowhere; the settler stays. -/
theorem World.Course.enter_refused_rover :
    (TwoZones.idle {} : World Script).Course TwoZones.gathered ∧
      (TwoZones.idle {} : World Script).directory.members = .empty ∧
      Directory.enter TwoZones.rover (.list []) TwoZones.gathered =
        .error (.notAKey (.list [])) TwoZones.refused ∧
      TwoZones.refused.directory.zoneOf? TwoZones.rover = none ∧
      TwoZones.refused.directory.observers (.int 1) = [TwoZones.settler] := by
  have course : (TwoZones.idle {} : World Script).Course TwoZones.gathered := .afterAll ..
  have refusal := course.enter_refused rfl TwoZones.rover (.list [])
  rw [Sim.Ends, TwoZones.enter_gathered] at refusal
  obtain ⟨-, -, -, -, nowhere, order, -⟩ := refusal
  exact ⟨course, rfl, TwoZones.enter_gathered, nowhere, (order (.int 1)).trans (by decide +kernel)⟩

/-- **Whoever is refused does not stay where they were.** -/
theorem Directory.enter_refused_moves :
    (TwoZones.idle {} : World Script).Course TwoZones.gathered ∧
      (TwoZones.idle {} : World Script).directory.members = .empty ∧
      Directory.enter TwoZones.rover (.list []) TwoZones.gathered =
        .error (.notAKey (.list [])) TwoZones.refused ∧
      TwoZones.gathered.directory.zoneOf? TwoZones.rover = some (.int 1) ∧
      TwoZones.refused.directory.zoneOf? TwoZones.rover = none ∧
      TwoZones.rover ∈ TwoZones.gathered.directory.observers (.int 1) ∧
      TwoZones.rover ∉ TwoZones.refused.directory.observers (.int 1) := by
  refine ⟨.afterAll .., rfl, TwoZones.enter_gathered, rfl, rfl, ?_, ?_⟩
  · decide +kernel
  · decide +kernel

end Microclimate
