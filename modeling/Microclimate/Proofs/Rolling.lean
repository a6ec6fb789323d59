import Microclimate.Proofs.Recording
import Microclimate.Proofs.Unsigned

/-!
# What comes of rolling the weather

A roll of the weather says whether kind or intensity changed, and it says so by comparing. What it
says can be relied on as long as intensities have no sign: a roll that reports no change has left
the weather as it was. New weather is of that sort whatever the source draws, and so is all weather
that is broadcast.

* `Microclimate.Sim.Yields` – whatever a change of a world answers has some property;
* `Microclimate.Cycle.HasWeather` – a cycle has some weather already;
* `Microclimate.CycleId.ends_regenerate` – a roll of the weather, step by step;
* `Microclimate.CycleId.regenerate_stands` – a roll that reports no change left the weather as it
  was, **as doubles compare**, whatever it was;
* `Microclimate.CycleId.regenerate_settles` – **a roll that reports no change changed nothing**, and
  fine weather gives way to an intensity without a sign.
-/

namespace Microclimate

variable {γ : Type}

/-! ### Answers -/

/-- Whatever a change answers when it returns has some property. -/
def Sim.Yields {α : Type} (x : Sim γ α) (P : α → Prop) : Prop :=
  ∀ w, x.Ends w (fun a _ => P a) fun _ _ => True

namespace Sim.Yields

variable {α β : Type} {P : α → Prop} {Q : β → Prop}

theorem pure {a : α} (h : P a) : (pure a : Sim γ α).Yields P := fun _ => h

theorem throw (f : Fault) : (throw f : Sim γ α).Yields P := fun _ => trivial

theorem any (x : Sim γ α) : x.Yields fun _ => True :=
  fun w => (ends_self x w).mono (fun _ _ _ => trivial) fun _ _ _ => trivial

theorem bind {x : Sim γ α} {f : α → Sim γ β} (hx : x.Yields P) (hf : ∀ a, P a → (f a).Yields Q) :
    (x >>= f).Yields Q := by
  intro w
  rw [ends_bind]
  exact (hx w).mono (fun a w' h => hf a h w') fun _ _ _ => trivial

theorem ite {p : Prop} [Decidable p] {x y : Sim γ α} (hx : x.Yields P) (hy : y.Yields P) :
    (if p then x else y).Yields P := by
  split
  · exact hx
  · exact hy

end Sim.Yields

/-! ### Rolling, step by step -/

/-- **A cycle has some weather already**, as doubles compare. -/
def Cycle.HasWeather (c : Cycle) (kind : WeatherKind) (intensity : Float) : Prop :=
  c.kind = kind ∧ (c.intensity == intensity) = true

instance (c : Cycle) (kind : WeatherKind) (intensity : Float) :
    Decidable (c.HasWeather kind intensity) := inferInstanceAs (Decidable (_ ∧ _))

/-- What a roll reports once new weather was selected: the cycle does not have the weather it
had. -/
theorem Cycle.not_hasWeather_eq (c : Cycle) (kind : WeatherKind) (intensity : Float) :
    (!decide (c.HasWeather kind intensity)) =
      (decide (c.kind ≠ kind) || c.intensity != intensity) := by
  rw [Bool.eq_iff_iff, Bool.not_eq_true', decide_eq_false_iff_not, HasWeather, not_and_or]
  simp [bne]

variable [RandomSource γ]

section Steps

variable {id : CycleId} {w : World γ} {good : Bool → World γ → Prop} {bad : Fault → World γ → Prop}

/-- Without chances the weather is fine from now on, and no change is reported. -/
theorem CycleId.ends_regenerate_of_none (without : (w.cycle id).table = none) :
    id.regenerate.Ends w good bad ↔ good false (w.editCycle id (·.withWeather .fine 0.0)) := by
  rw [regenerate, Sim.ends_bind, Sim.ends_cycle, without, Sim.ends_bind, become, Sim.ends_editCycle,
    Sim.ends_pure]

/-- **A roll of the weather, step by step.** It may stay as it is, or be changed as far as the first
roll allows, or else new weather is selected and compared with what there was. -/
theorem CycleId.ends_regenerate {table : SeasonTable} (chances : (w.cycle id).table = some table) :
    id.regenerate.Ends w good bad ↔
      (Sim.integer 0 99).Ends w
        (fun roll w₁ =>
          if roll < 30 then good false w₁
          else
            Sim.dayOfYear.Ends w₁
              (fun day w₂ =>
                (id.changeWeather roll).Ends
                  (w₂.emit (.logged (.generating (.ofDay day) (w.cycle id).zone)))
                  (fun done w₃ =>
                    if done then good true w₃
                    else
                      (id.selectWeather (table.chances (.ofDay day)) (90 ≤ roll)).Ends w₃
                        (fun _ w₄ =>
                          good (!decide ((w₄.cycle id).HasWeather (w.cycle id).kind
                            (w.cycle id).intensity)) w₄)
                        bad)
                  bad)
              bad)
        bad := by
  rw [regenerate, Sim.ends_bind, Sim.ends_cycle, chances]
  simp only [Sim.ends_bind, Sim.ends_ite, Sim.ends_pure, Sim.ends_log, Sim.ends_cycle,
    Cycle.not_hasWeather_eq]

end Steps

/-! ### New weather -/

/-- Drawing an integer leaves the scene alone. -/
theorem Sim.integer_scene (low high : Int) (w : World γ) :
    (integer low high).Ends w (fun _ w' => w'.toScene = w.toScene) fun _ _ => True := by
  rw [integer, ends_bind, ends_get, integerOf, ends_draw]
  split
  · simp
  · trivial

/-- Intensities that are drawn have no sign. -/
theorem HalfNormal.draw_unsigned : (draw : Sim γ Float).Yields Unsigned := by
  have within (tries : Nat) : (drawWithin tries : Sim γ Float).Yields Unsigned := by
    induction tries with
    | zero => exact .throw _
    | succ tries ih => exact .bind (.any _) fun x _ => .ite (.pure (unsigned_abs x)) ih
  exact .bind (.any _) fun _ _ => within _

namespace CycleId

theorem newIntensity_unsigned (radical : Bool) :
    (newIntensity radical : Sim γ Float).Yields Unsigned := by
  have part {x : Float} (h : Unsigned x) : Unsigned (x * third) := h.mul unsigned_third
  refine .ite (.bind HalfNormal.draw_unsigned fun x h => .pure (part h)) ?_
  refine .bind (.any _) fun n _ => .ite ?_ ?_
  · exact .bind HalfNormal.draw_unsigned fun x h => .pure ((part h).add unsigned_third)
  · exact .bind HalfNormal.draw_unsigned fun x h => .pure ((part h).add unsigned_twoThirds)

/-- The intensity of weather that was selected has no sign. -/
theorem selectWeather_unsigned {id : CycleId} {w : World γ} (known : id.number < w.cycles.size)
    (chances : Chances) (radical : Bool) :
    (id.selectWeather chances radical).Ends w (fun _ w' => Unsigned (w'.cycle id).intensity)
      fun _ _ => True := by
  have becomes {v : World γ} (there : id.number < v.cycles.size) (kind : WeatherKind) {x : Float}
      (h : Unsigned x) : (id.become kind x).Ends v (fun _ w' => Unsigned (w'.cycle id).intensity)
        fun _ _ => True := by
    rw [become, Sim.ends_editCycle, v.cycle_editCycle there]
    exact h
  have letsRoll := Contract.letsRoll_touching (γ := γ) id
  rw [selectWeather, Sim.ends_bind]
  refine (letsRoll.integer 1 100 (by decide) w).mono (fun n w₁ first => ?_) fun _ _ _ => trivial
  have there : id.number <
      (w₁.editCycle id fun c => { c with kind := chances.select n }).cycles.size := by
    simpa [first.size] using known
  rw [Sim.ends_bind, Sim.ends_editCycle]
  generalize w₁.editCycle id (fun c => { c with kind := chances.select n }) = w₂ at there ⊢
  rw [Sim.ends_ite]
  split
  · exact becomes there _ unsigned_zero
  · have drawn := (newIntensity_keeps letsRoll radical w₂).and (newIntensity_unsigned radical w₂)
    rw [Sim.ends_bind]
    refine drawn.mono (fun x w₃ ⟨second, unsigned⟩ => ?_) fun _ _ _ => trivial
    exact becomes (second.size.symm ▸ there) _ unsigned

/-! ### Rolling -/

/-- Fine weather always gives way to weather that has to be selected, and at most its intensity is
taken away before. -/
theorem changeWeather_fine {id : CycleId} {w : World γ} (known : id.number < w.cycles.size)
    (fine : (w.cycle id).kind = .fine) (roll : Int) :
    (id.changeWeather roll).Ends w
      (fun done w' => done = false ∧ (w' = w ∨ w' = w.editCycle id (·.withWeather .fine 0.0)))
      fun _ _ => False := by
  have edited : ((w.editCycle id (·.withWeather .fine 0.0)).cycle id).kind = .fine := by
    rw [w.cycle_editCycle known]
    rfl
  rw [changeWeather, Sim.ends_bind, Sim.ends_cycle, Sim.ends_ite]
  split
  · rw [Sim.ends_bind, become, Sim.ends_editCycle, Sim.ends_bind, Sim.ends_cycle, if_pos edited]
    exact ⟨rfl, .inr rfl⟩
  · rw [Sim.ends_bind, Sim.ends_cycle, if_pos fine]
    exact ⟨rfl, .inl rfl⟩

/-- Changing the present weather keeps the cycle, and leaves it to a selection if the weather is
fine. -/
theorem changeWeather_settles {id : CycleId} {w : World γ} (known : id.number < w.cycles.size)
    (roll : Int) :
    (id.changeWeather roll).Ends w
      (fun done w' => id.number < w'.cycles.size ∧ ((w.cycle id).kind = .fine → done = false))
      fun _ _ => True := by
  have touches := changeWeather_keeps (Contract.letsRoll_touching (γ := γ) id) roll w
  by_cases fine : (w.cycle id).kind = .fine
  · have both := touches.and (changeWeather_fine known fine roll)
    exact both.mono (fun _ _ h => ⟨h.1.size.symm ▸ known, fun _ => h.2.1⟩) fun _ _ _ => trivial
  · refine touches.mono (fun _ _ h => ?_) fun _ _ _ => trivial
    exact ⟨h.size.symm ▸ known, fun h => absurd h fine⟩

/-- **A roll that reports no change left the weather as it was**, as doubles compare. -/
theorem regenerate_stands {id : CycleId} {w : World γ} (chances : (w.cycle id).table.isSome) :
    id.regenerate.Ends w
      (fun changed w' => changed = false → w'.cycle id = w.cycle id ∨
        (w'.cycle id).HasWeather (w.cycle id).kind (w.cycle id).intensity)
      fun _ _ => True := by
  obtain ⟨table, made⟩ := Option.isSome_iff_exists.1 chances
  rw [ends_regenerate made]
  refine (Sim.integer_scene 0 99 w).mono (fun roll w₁ scene => ?_) fun _ _ _ => trivial
  split
  · exact fun _ => .inl (by rw [scene])
  refine (Sim.ends_self Sim.dayOfYear w₁).mono (fun day w₂ _ => ?_) fun _ _ _ => trivial
  refine (Sim.ends_self (id.changeWeather roll) _).mono (fun done w₃ _ => ?_) fun _ _ _ => trivial
  cases done with
  | true => exact nofun
  | false =>
    rw [if_neg Bool.false_ne_true]
    exact (Sim.ends_self _ w₃).mono (fun _ _ _ report => .inr (by simpa using report))
      fun _ _ _ => trivial

/-- **A roll that reports no change changed nothing**, if the intensity had no sign. And if the
weather was fine, the intensity has none afterwards. -/
theorem regenerate_settles {id : CycleId} {w : World γ} (known : id.number < w.cycles.size)
    (chances : (w.cycle id).table.isSome) (unsigned : Unsigned (w.cycle id).intensity) :
    id.regenerate.Ends w
      (fun changed w' =>
        (changed = false → (w'.cycle id).packet = (w.cycle id).packet) ∧
          (changed = false ∨ (w.cycle id).kind = .fine → Unsigned (w'.cycle id).intensity))
      fun _ _ => True := by
  obtain ⟨table, made⟩ := Option.isSome_iff_exists.1 chances
  rw [ends_regenerate made]
  refine (Sim.integer_scene 0 99 w).mono (fun roll w₁ scene => ?_) fun _ _ _ => trivial
  have same : w₁.cycle id = w.cycle id := by rw [scene]
  have there : id.number < w₁.cycles.size := by rwa [scene]
  split
  · rw [same]
    exact ⟨fun _ => rfl, fun _ => unsigned⟩
  rw [Sim.ends_dayOfYear]
  cases w₁.clock.dayOfYear with
  | error f => trivial
  | ok day =>
    refine (changeWeather_settles (w := w₁.emit _) there roll).mono ?_ fun _ _ _ => trivial
    rintro done w₂ ⟨there, fine⟩
    cases done with
    -- fine weather is never changed without a selection
    | true =>
      constructor
      · rintro ⟨⟩
      · rintro (kept | dry)
        · cases kept
        · cases fine (same ▸ dry)
    | false =>
      refine (selectWeather_unsigned there _ _).mono (fun _ w₃ after => ?_) fun _ _ _ => trivial
      -- the report compares doubles, which is as good as equality where there are no signs
      refine ⟨fun report => ?_, fun _ => after⟩
      obtain ⟨kind, intensity⟩ :
          (w₃.cycle id).HasWeather (w.cycle id).kind (w.cycle id).intensity :=
        by simpa using report
      rw [Cycle.packet, Cycle.state, kind, after.eq_of_beq unsigned intensity]
      rfl

end CycleId

end Microclimate
