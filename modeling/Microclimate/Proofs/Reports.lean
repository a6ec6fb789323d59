import Microclimate.Proofs.Decisions

/-!
# What a roll reports

A roll of the weather reports whether it changed anything, and most of the time it does not look:
to alter the intensity counts as a change. That is right for every intensity from 0 up to 1, for no
change is so small there that it would be rounded away. Where new weather was selected the roll
compares it with the old weather, as that was before it was set to fine.

Weather is the same if it is of the same kind and its intensities compare as equal. So the two zeros
are the same intensity.

* `Microclimate.Cycle.Alters.differs` – an intensity that is altered is another one;
* `Microclimate.Cycle.Decides.reports_iff` – each row of the decision table reports a change if and
  only if it makes one;
* `Microclimate.CycleId.regenerate_reports_iff` – **the report of a roll is exact**.
-/

namespace Microclimate

variable {γ : Type}

/-- Intensities with different values do not compare as equal. -/
theorem IsFinite.bne_of_value_ne {x y : Float} (hx : IsFinite x) (hy : IsFinite y)
    (ne : value x ≠ value y) : (x != y) = true := by
  have apart : ¬(x == y) = true := fun same => ne ((hx.beq_iff hy).1 same)
  simpa [bne] using apart

/-- **An intensity that is altered is another one.** -/
theorem Cycle.Alters.differs {c : Cycle} {o : Owner} {u : Int} {es : List Event} {x : Float}
    (unit : InUnit c.intensity) (h : c.Alters o u es (some x)) : (x != c.intensity) = true := by
  have finite := unit.isFinite
  have quarter := thirdValue_bounds.1
  cases h with
  | improves wet better enough =>
    rw [value_third.1.le_iff finite, value_third.2] at enough
    exact unit.nearest_sub_third.finite.bne_of_value_ne finite (unit.sub_third_ne (by linarith))
  | worsens =>
    exact unit.nearest_add_third.finite.bne_of_value_ne finite unit.add_third_ne
  | peaks wet radical light =>
    rw [finite.lt_iff value_third.1, value_third.2] at light
    refine value_maxIntensity.1.bne_of_value_ne finite fun same => ?_
    rw [← same, value_maxIntensity.2] at light
    norm_num [thirdValue] at light
  | eases wet radical heavy half =>
    rw [value_twoThirds.1.lt_iff finite, value_twoThirds.2] at heavy
    exact unit.nearest_sub_twoThirds.finite.bne_of_value_ne finite
      (unit.sub_twoThirds_ne (by linarith))

/-- Each row of the decision table reports a change if and only if it makes one. -/
theorem Cycle.Decides.reports_iff {c : Cycle} {table : SeasonTable} {clock : Clock} {o : Owner}
    {es : List Event} {kind : WeatherKind} {x : Float} {changed : Bool}
    (unit : InUnit c.intensity) (h : c.Decides table clock o es kind x changed) :
    changed = true ↔ kind ≠ c.kind ∨ (x != c.intensity) = true := by
  cases h with
  | stays calm =>
    have same : (c.intensity == c.intensity) = true :=
      (unit.isFinite.beq_iff unit.isFinite).2 rfl
    simp [bne, same]
  | alters stirred reads altered => simp [altered.differs unit]
  | renews stirred reads gone selected => simp

variable [RandomSource γ]

/-- **The report of a roll is exact.** For every cycle that has chances, of any kind of weather and
with any intensity from 0 up to 1, whatever is drawn: the roll reports a change if and only if the
cycle has another kind of weather afterwards or another intensity. It fails only if the clock shows
no day, or at a draw. -/
theorem CycleId.regenerate_reports_iff {id : CycleId} {w : World γ}
    (known : id.number < w.cycles.size) (chances : (w.cycle id).table.isSome)
    (unit : InUnit (w.cycle id).intensity) :
    id.regenerate.Ends w
      (fun changed w' => changed = true ↔ (w'.cycle id).kind ≠ (w.cycle id).kind ∨
        ((w'.cycle id).intensity != (w.cycle id).intensity) = true)
      fun f w' => w.clock.dayOfYear = .error f ∨ w.StopsShort w' f := by
  obtain ⟨table, chances⟩ := Option.isSome_iff_exists.1 chances
  refine (regenerate_goes known chances unit.isFinite.isNumber).mono ?_ fun _ _ failed => failed
  rintro changed w' ⟨es, kind, x, decided, rolls⟩
  rw [rolls.cycle]
  exact decided.reports_iff unit

namespace HeavyStorm

/-- The storm is about to worsen. -/
def rising : World Script := { before with random := { integers := [60] } }

/-- The world in which it has. -/
def risen : World Script := (CycleId.regenerate ⟨0⟩).worldLeft rising

theorem returns_rising : (CycleId.regenerate ⟨0⟩).returns rising = true := by decide

theorem intensity_risen :
    ((risen.cycle ⟨0⟩).intensity != (rising.cycle ⟨0⟩).intensity) = true := by
  decide

end HeavyStorm

/-- The storm worsens, and the roll says so. -/
theorem CycleId.regenerate_reports_iff_risen :
    0 < HeavyStorm.rising.cycles.size ∧ (HeavyStorm.rising.cycle ⟨0⟩).table.isSome ∧
      InUnit (HeavyStorm.rising.cycle ⟨0⟩).intensity ∧
      CycleId.regenerate ⟨0⟩ HeavyStorm.rising = .ok true HeavyStorm.risen := by
  have unit : InUnit (HeavyStorm.rising.cycle ⟨0⟩).intensity := by decide
  have exact := @regenerate_reports_iff Script _ ⟨0⟩ HeavyStorm.rising (by decide) rfl unit
  obtain ⟨changed, run⟩ := Sim.ok_of_returns HeavyStorm.returns_rising
  obtain rfl := (exact.of_ok run).2 (.inr HeavyStorm.intensity_risen)
  exact ⟨by decide, rfl, unit, run⟩

end Microclimate
