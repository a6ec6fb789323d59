import Microclimate.Proofs.Creations

/-!
# The selection of new weather

A roll of the weather comes to the selection of a new kind, or it does not, and which of the two is
to be seen from what happens: an integer from 1 to 100 is drawn. No other part of a roll draws from
that range. So whoever knows the draws of a roll knows the kind that the cycle is left with, and
that goes by **the chances of the season** of the day that the clock shows.

It does not matter what else is drawn afterwards, nor whether the intensity can be drawn at all, for
the kind is set before.

* `Microclimate.World.Draws` – some integer is drawn on the way from one world to another;
* `Microclimate.World.Picks` – a cycle has the kind that was selected, if any was;
* `Microclimate.CycleId.selectWeather_picks` – a selection leaves the kind that was selected;
* `Microclimate.CycleId.regenerate_picks` – **so does every roll of the weather**, by the chances of
  the season.
-/

namespace Microclimate

variable {γ : Type}

/-! ### Draws and selections -/

/-- Anything that happens but the draw of an integer from 1 to 100. -/
def Event.Unselective (e : Event) : Prop := ∀ owner answer, e ≠ .integerDrawn owner 1 100 answer

/-- Some integer from a range is drawn for the weather on the way from one world to another. -/
def World.Draws (w : World γ) (low high n : Int) (w' : World γ) : Prop :=
  ∃ ms, w.Adds ms w' ∧ ∃ m ∈ ms, m.event = .integerDrawn w.weatherOwner low high (some n)

/-- What was drawn stays drawn, whatever happens later. -/
theorem World.Draws.later {u v w : World γ} {low high n : Int} (draws : u.Draws low high n v)
    (more : ∃ ns, v.Adds ns w) : u.Draws low high n w := by
  obtain ⟨ms, adds, m, mem, drawn⟩ := draws
  obtain ⟨ns, more⟩ := more
  exact ⟨ms ++ ns, adds.trans more, m, List.mem_append_left ns mem, drawn⟩

/-- What is drawn later is drawn on the way, too. -/
theorem World.Draws.earlier {u v w : World γ} {low high n : Int} {ms : List Moment}
    (adds : u.Adds ms v) (owner : v.weatherOwner = u.weatherOwner) (draws : v.Draws low high n w) :
    u.Draws low high n w := by
  obtain ⟨ns, more, m, mem, drawn⟩ := draws
  exact ⟨ms ++ ns, adds.trans more, m, List.mem_append_right ms mem, owner ▸ drawn⟩

/-- **A cycle has the kind that was selected**, if any was on the way from one world to another: the
integer drawn from 1 to 100 selects it. -/
def World.Picks (w : World γ) (id : CycleId) (c : Chances) (w' : World γ) : Prop :=
  ∃ ms, w.Adds ms w' ∧ ∀ m ∈ ms, ∀ owner r, m.event = .integerDrawn owner 1 100 (some r) →
    (w'.cycle id).kind = c.select r

namespace World.Picks

variable {id : CycleId} {c : Chances} {u v w : World γ}

/-- Where nothing is selected, nothing has to be shown. -/
theorem of_touches (touched : u.Touches Event.Unselective id v) : u.Picks id c v := by
  obtain ⟨ms, adds, all⟩ := touched.moments
  exact ⟨ms, adds, fun m mem owner r same => absurd same (all m mem owner _)⟩

/-- Where one thing happened, only that could be a selection. -/
theorem of_moment {m : Moment} (adds : u.Adds [m] v)
    (picked : ∀ owner r, m.event = .integerDrawn owner 1 100 (some r) →
      (v.cycle id).kind = c.select r) : u.Picks id c v :=
  ⟨[m], adds, fun _ mem owner r found => picked owner r (List.mem_singleton.1 mem ▸ found)⟩

/-- Before the selection anything may happen but a selection. -/
theorem after (touched : u.Touches Event.Unselective id v) (picks : v.Picks id c w) :
    u.Picks id c w := by
  obtain ⟨ms, adds, all⟩ := touched.moments
  obtain ⟨ns, more, picked⟩ := picks
  refine ⟨ms ++ ns, adds.trans more, fun m mem owner r same => ?_⟩
  rcases List.mem_append.1 mem with early | late
  · exact absurd same (all m early owner _)
  · exact picked m late owner r same

/-- After the selection too, as long as the kind is kept. -/
theorem before (picks : u.Picks id c v) (touched : v.Touches Event.Unselective id w)
    (kind : (w.cycle id).kind = (v.cycle id).kind) : u.Picks id c w := by
  obtain ⟨ms, adds, picked⟩ := picks
  obtain ⟨ns, more, all⟩ := touched.moments
  refine ⟨ms ++ ns, adds.trans more, fun m mem owner r same => ?_⟩
  rcases List.mem_append.1 mem with early | late
  · exact kind.trans (picked m early owner r same)
  · exact absurd same (all m late owner _)

end World.Picks

variable [RandomSource γ]

section Unselective

variable (id : CycleId)

theorem Sim.integer_unselective :
    (integer 0 99 : Sim γ Int).Keeps (.touching Event.Unselective id) :=
  .bind .get fun _ => draw_touches _ _ _ fun _ _ _ => nofun

theorem HalfNormal.draw_unselective :
    (draw : Sim γ Float).Keeps (.touching Event.Unselective id) :=
  draw_keeps (fun _ _ => .bind .get fun _ => Sim.draw_touches _ _ _ fun _ _ _ => nofun)
    fun w => .refl w

omit [RandomSource γ]

theorem CycleId.become_unselective (kind : WeatherKind) (intensity : Float) :
    (id.become kind intensity : Sim γ Unit).Keeps (.touching Event.Unselective id) :=
  fun w => .editCycle w id fun _ => ⟨rfl, rfl, rfl⟩

/-- Setting the kind that a cycle has anyway keeps what was selected. -/
theorem World.Picks.become {id : CycleId} {c : Chances} {w v : World γ} (picks : w.Picks id c v)
    (known : id.number < v.cycles.size) {kind : WeatherKind} (same : kind = (v.cycle id).kind)
    (intensity : Float) :
    (id.become kind intensity).Ends v (fun _ w' => w.Picks id c w')
      fun _ w' => w.Picks id c w' := by
  rw [CycleId.become, Sim.ends_editCycle]
  refine picks.before (id.become_unselective kind intensity v) ?_
  rw [v.cycle_editCycle known, ← same]
  rfl

end Unselective

/-- Drawing an integer is one event, and leaves the cycles alone. -/
theorem Sim.integer_adds (low high : Int) (w : World γ) :
    (integer low high).Ends w
      (fun n w' => w'.cycles = w.cycles ∧ ∃ m, w.Adds [m] w' ∧
        m.event = .integerDrawn w.weatherOwner low high (some n))
      fun _ w' => ∃ m, w.Adds [m] w' ∧ m.event = .integerDrawn w.weatherOwner low high none := by
  have source (g : γ) : w.Adds [] (w.setSource w.weatherOwner g) := .nothing (by simp)
  rw [integer, ends_bind, ends_get, integerOf, ends_draw]
  split
  · exact ⟨by simp, _, (source _).trans (.emit _ _), rfl⟩
  · exact ⟨_, (source _).trans (.emit _ _), rfl⟩

/-- An integer is drawn as the source gives it. -/
theorem Sim.integer_of {low high n : Int} {w : World γ} {g : γ}
    (next : RandomSource.integer low high (w.source w.weatherOwner) = .ok n g) :
    (integer low high).Ends w
      (fun m w' => m = n ∧ w'.toScene = w.toScene ∧ w'.weatherOwner = w.weatherOwner ∧
        w'.source w.weatherOwner = g ∧ w.Draws low high n w')
      fun _ _ => False := by
  have source : w.Adds [] (w.setSource w.weatherOwner g) := .nothing (by simp)
  rw [integer, ends_bind, ends_get, integerOf, ends_draw, next]
  refine ⟨rfl, by simp, ?_, ?_, _, source.trans (.emit _ _), _, List.mem_singleton_self _, rfl⟩
  · exact w.weatherOwner_setSource _ g
  · exact w.source_setSource _ g

/-! ### The kind that a roll leaves -/

namespace CycleId

variable {id : CycleId} {w : World γ}

/-- **A selection leaves the kind that was selected**, also where drawing the intensity fails. -/
theorem selectWeather_picks (known : id.number < w.cycles.size) (chances : Chances)
    (radical : Bool) :
    (id.selectWeather chances radical).Ends w (fun _ w' => w.Picks id chances w')
      fun _ w' => w.Picks id chances w' := by
  rw [selectWeather, Sim.ends_bind]
  refine (Sim.integer_adds 1 100 w).mono ?_ ?_
  · rintro n w₁ ⟨same, m, adds, drawn⟩
    let w₂ := w₁.editCycle id fun c => { c with kind := chances.select n }
    have there : id.number < w₁.cycles.size := by rwa [same]
    have kind : (w₂.cycle id).kind = chances.select n := by rw [w₁.cycle_editCycle there]
    have picked : w.Picks id chances w₂ := .of_moment adds fun owner r found => by
      rw [drawn] at found
      cases found
      exact kind
    have known₂ : id.number < w₂.cycles.size := by simpa [w₂] using there
    rw [Sim.ends_bind, Sim.ends_editCycle, Sim.ends_ite]
    split
    · exact picked.become known₂ kind.symm 0.0
    · have drawing := newIntensity_keeps_of (Sim.integer_unselective id)
        (HalfNormal.draw_unselective id) radical w₂
      have aside := newIntensity_keeps_of (Sim.integer_same 0 99) HalfNormal.draw_same radical w₂
      rw [Sim.ends_bind]
      refine (drawing.and aside).mono ?_ ?_
      · rintro x w₃ ⟨touched, still⟩
        have now := World.cycle_congr still id
        exact (picked.before touched (by rw [now])).become (touched.size.symm ▸ known₂)
          (by rw [now, kind]) x
      · rintro _ w₃ ⟨touched, still⟩
        exact picked.before touched (by rw [World.cycle_congr still id])
  · rintro _ w₁ ⟨m, adds, refused⟩
    exact .of_moment adds fun owner r found => by
      rw [refused] at found
      cases found

/-- **A roll of the weather leaves the kind that was selected**, if it came to a selection. -/
theorem regenerate_picks (known : id.number < w.cycles.size) {table : SeasonTable} {day : Int}
    (made : (w.cycle id).table = some table) (clock : w.clock.dayOfYear = .ok day) :
    id.regenerate.Ends w (fun _ w' => w.Picks id (table.chances (.ofDay day)) w')
      fun _ w' => w.Picks id (table.chances (.ofDay day)) w' := by
  rw [ends_regenerate made]
  have rolling := (Sim.integer_unselective id w).and (Sim.integer_scene 0 99 w)
  refine rolling.mono ?_ fun _ _ refused => .of_touches refused.1
  rintro roll w₁ ⟨rolled, scene⟩
  split
  · exact .of_touches rolled
  rw [Sim.ends_dayOfYear, scene, clock]
  have noted := rolled.trans
    (.emit w₁ (e := .logged (.generating (.ofDay day) (w.cycle id).zone)) fun _ _ => nofun)
  have changing := changeWeather_keeps_of id.become_unselective
    (Sim.integer_unselective (γ := γ) id) roll
  refine (changing.ends_trans noted).mono (fun done w₂ touched => ?_) fun _ _ touched =>
    .of_touches touched
  split
  · exact .of_touches touched
  · exact (selectWeather_picks (touched.size.symm ▸ known) _ _).mono
      (fun _ _ picks => .after touched picks) fun _ _ picks => .after touched picks

end CycleId

end Microclimate
