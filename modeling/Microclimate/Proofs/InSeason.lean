import Microclimate.Proofs.Selecting

/-!
# Weather in season

Whenever weather is generated the season is noted, and it is that of the day that the clock shows
then. Nothing that can be asked of a world notes another one, whatever it makes the actors do. So
the season of some weather depends on when the clock was set or advanced, and on nothing else; the
weather itself leaves the clock alone.

What is noted need not be what is gone by. But a season is noted in the middle of a roll only, rolls
are made as a whole, and the kind that a roll selects goes by the chances of the very season.

* `Microclimate.Moment.Seasonal` – if weather is generated, the season noted is that of the day;
* `Microclimate.Contract.seasonal` – nothing else is noted, with
  `Microclimate.Stage.react_seasonal`, **no actor breaks that**;
* `Microclimate.Contract.timeless` – the clock is left alone;
* `Microclimate.World.GoesBySeason` – a roll goes by the season that it notes, with
  `Microclimate.World.goesBySeason`, every roll does;
* `Microclimate.World.InSeason` – whatever notes a season is a roll that goes by it, with
  `Microclimate.Stage.react_inSeason`, **no actor breaks that either**;
* `Microclimate.Manager.update_seasonal`, `Microclimate.Manager.update_timeless`,
  `Microclimate.Manager.update_inSeason` – updates of the weather keep these contracts.
-/

namespace Microclimate

variable {γ α : Type}

/-- If weather is generated at a moment, the season noted is that of the day by the clock. -/
def Moment.Seasonal (m : Moment) : Prop :=
  ∀ season zone, m.event = .logged (.generating season zone) →
    ∃ day, m.scene.clock.dayOfYear = .ok day ∧ season = Season.ofDay day

/-- Whatever happens from one world to another satisfies some condition. -/
def World.Sees (good : Moment → Prop) (w w' : World γ) : Prop :=
  ∃ ms, w.Adds ms w' ∧ ∀ m ∈ ms, good m

namespace World.Sees

variable {good : Moment → Prop}

theorem nothing {w w' : World γ} (history : w'.history = w.history) : w.Sees good w' :=
  ⟨[], .nothing history, by simp⟩

theorem refl (w : World γ) : w.Sees good w := nothing rfl

theorem emit (w : World γ) {e : Event} (h : good ⟨e, w.toScene⟩) : w.Sees good (w.emit e) :=
  ⟨_, .emit w e, fun _ mem => List.mem_singleton.1 mem ▸ h⟩

theorem trans {a b c : World γ} (h : a.Sees good b) (h' : b.Sees good c) : a.Sees good c := by
  obtain ⟨ms, first, early⟩ := h
  obtain ⟨ns, second, late⟩ := h'
  refine ⟨ms ++ ns, first.trans second, fun m mem => ?_⟩
  exact (List.mem_append.1 mem).elim (early m) (late m)

theorem mono {good' : Moment → Prop} {w w' : World γ} (h : w.Sees good w')
    (imp : ∀ m, good m → good' m) : w.Sees good' w' := by
  obtain ⟨ms, adds, all⟩ := h
  exact ⟨ms, adds, fun m mem => imp m (all m mem)⟩

/-- What happens from one world to another is the same, however it is looked at. -/
theorem mem {w w' : World γ} (h : w.Sees good w') {ms : List Moment} (adds : w.Adds ms w') :
    ∀ m ∈ ms, good m := by
  obtain ⟨ns, adds', all⟩ := h
  rw [World.Adds, adds'] at adds
  rwa [← List.append_cancel_left adds]

end World.Sees

/-! ### Contracts about seasons -/

section Seasonless

variable {R : World γ → World γ → Prop} {refl : ∀ w, R w w}
  {trans : ∀ {a b c : World γ}, R a b → R b c → R a c}
  (aside : ∀ {w w' : World γ}, w.Sees (·.event.Seasonless) w' → R w w')
include aside

/-- Where nothing but seasons matters, all small steps are allowed that note none. -/
theorem Contract.allows_of_seasonless : (Contract.always R refl trans).Allows where
  happened w _ plain := aside (.emit w plain)
  surroundings _ _ _ _ _ _ _ _ := aside (.nothing rfl)
  stopped _ _ := aside (.nothing rfl)
  moved w m _ := by
    obtain ⟨d, attempts, left⟩ := m.carryOut_worldLeft w
    rw [left]
    exact aside (.nothing rfl)
  fail _ w := refl w

variable [RandomSource γ]

/-- Where nothing but seasons matters, all that is asked of a cycle may be done if its weather may
be rolled. -/
theorem Contract.serves_of_seasonless
    (rolled : ∀ id : CycleId, id.regenerate.Keeps (.always R refl trans)) :
    (Contract.always R refl trans).Serves where
  toAllows := allows_of_seasonless aside
  started w zone table _ := by
    let interval := w.manager.config.changeInterval
    let kept : World γ := { w with
      cycles := w.cycles.push
        { zone := zone, table := some table, timer := { interval := interval } } }
    have starting :
        kept.Sees (·.event.Seasonless) (kept.emit (.logged (.starting zone interval))) :=
      .emit kept fun _ _ => nofun
    exact aside (.trans (.nothing rfl) (starting.trans (.nothing rfl)))
  cycles id :=
    { rolled := rolled id
      clamped := fun _ => aside (.nothing rfl)
      dispatched := fun _ _ _ => aside (.nothing rfl)
      handed := fun w _ _ _ => aside (.emit w fun _ _ => nofun)
      changed := fun w _ _ => aside (.emit w fun _ _ => nofun)
      noKey := fun _ => refl
      timed := fun _ _ _ => aside (.nothing rfl)
      edited := fun _ _ _ => aside (.nothing rfl) }

theorem Manager.update_keeps_of_seasonless (serves : (Contract.always R refl trans).Serves)
    {react : Reaction γ} (h : react.Keeps (.always R refl trans)) (diff : Int) :
    (update react diff).Keeps (.always R refl trans) := by
  have noted (w : World γ) (zone : Value) :
      w.Sees (·.event.Seasonless) (w.emit (.logged (.removing zone))) := .emit w fun _ _ => nofun
  refine update_keeps (fun id => CycleId.update_keeps h (serves.cycles id).toLetsUpdate diff)
    (fun w zone _ => ?_) fun w zone => aside (noted w zone)
  exact aside ((noted w zone).trans (.nothing rfl))

end Seasonless

/-! ### The season of the day -/

/-- An event that does not say which season it is happens in season. -/
theorem Event.Seasonless.seasonal {e : Event} (h : e.Seasonless) (s : Scene) :
    Moment.Seasonal ⟨e, s⟩ := fun season zone same => absurd same (h season zone)

theorem World.Sees.seasonal {w w' : World γ} (aside : w.Sees (·.event.Seasonless) w') :
    w.Sees Moment.Seasonal w' :=
  aside.mono fun m plain => plain.seasonal m.scene

/-- **Weather is generated in season.** -/
def Contract.seasonal : Contract γ := .always (World.Sees Moment.Seasonal) .refl .trans

/-- Where a day is told, the season of that day may be noted. -/
theorem World.Sees.season (w : World γ) (zone : Value) : Sim.dayOfYear.Ends w
    (fun day w' => w.Sees Moment.Seasonal
      (w'.emit (.logged (.generating (Season.ofDay day) zone))))
    fun _ w' => w.Sees Moment.Seasonal w' := by
  rw [Sim.ends_dayOfYear]
  cases shown : w.clock.dayOfYear with
  | ok day =>
    refine .emit w fun season zone same => ⟨day, shown, ?_⟩
    cases same
    rfl
  | error fault => exact .refl w

section Weather

variable [RandomSource γ]

theorem Contract.letsRoll_seasonal (id : CycleId) : (seasonal : Contract γ).LetsRoll id where
  weather _ _ _ := .nothing rfl
  integer _ _ _ := .bind .get fun _ => Sim.integerOf_keeps (allows_of_seasonless .seasonal) _ _ _
  intensity :=
    HalfNormal.draw_keeps (Sim.normal_keeps (allows_of_seasonless .seasonal)) .refl
  season := World.Sees.season

theorem Contract.serves_seasonal : (seasonal : Contract γ).Serves :=
  serves_of_seasonless .seasonal fun id => CycleId.regenerate_keeps (letsRoll_seasonal id)

theorem Manager.update_seasonal {react : Reaction γ} (h : react.Keeps .seasonal) (diff : Int) :
    (update react diff).Keeps .seasonal :=
  update_keeps_of_seasonless .seasonal Contract.serves_seasonal h diff

/-- **No actor makes weather be generated out of season**, whatever they do. -/
theorem Stage.react_seasonal (stage : Stage) (behaviour : Behaviour γ) (depth : Nat) :
    (stage.react behaviour depth).Keeps .seasonal :=
  stage.react_keeps Contract.serves_seasonal Manager.update_seasonal behaviour depth

end Weather

/-! ### The clock left alone -/

/-- The clock stays as it is, and so it was whenever something happened. -/
structure World.Timeless (w w' : World γ) : Prop where
  clock : w'.clock = w.clock
  sees : w.Sees (·.scene.clock = w.clock) w'

namespace World.Timeless

theorem nothing {w w' : World γ} (clock : w'.clock = w.clock) (history : w'.history = w.history) :
    w.Timeless w' :=
  ⟨clock, .nothing history⟩

theorem refl (w : World γ) : w.Timeless w := nothing rfl rfl

theorem emit (w : World γ) (e : Event) : w.Timeless (w.emit e) := ⟨rfl, .emit w rfl⟩

theorem trans {a b c : World γ} (h : a.Timeless b) (h' : b.Timeless c) : a.Timeless c :=
  ⟨h'.clock.trans h.clock, h.sees.trans (h.clock ▸ h'.sees)⟩

theorem setSource (w : World γ) (owner : Owner) (g : γ) : w.Timeless (w.setSource owner g) :=
  nothing (by cases owner <;> rfl) (by simp)

end World.Timeless

/-- **What actors do who leave the clock alone.** -/
def Contract.timeless : Contract γ := .always World.Timeless .refl .trans

theorem Call.note_timeless : Reaction.Keeps (Call.note : Reaction γ) .timeless :=
  fun call w => (World.Timeless.emit w (call.event w)).trans (.nothing rfl rfl)

theorem Sim.draw_timeless (owner : Owner) (d : EStateM Fault γ α) (event : Option α → Event) :
    (Sim.draw owner d event).Keeps .timeless := by
  intro w
  have noted (g : γ) (a : Option α) : w.Timeless ((w.setSource owner g).emit (event a)) :=
    (World.Timeless.setSource w owner g).trans (.emit _ _)
  rw [Sim.ends_draw]
  split
  · exact noted _ _
  · exact noted _ _

section Weather

variable [RandomSource γ]

theorem Contract.letsRoll_timeless (id : CycleId) : (timeless : Contract γ).LetsRoll id where
  weather _ _ _ := .nothing rfl rfl
  integer _ _ _ := .bind .get fun _ => Sim.draw_timeless _ _ _
  intensity :=
    HalfNormal.draw_keeps (fun _ _ => .bind .get fun _ => Sim.draw_timeless _ _ _) .refl
  season w zone := by
    rw [Sim.ends_dayOfYear]
    cases w.clock.dayOfYear with
    | ok day => exact .emit w _
    | error fault => exact .refl w

theorem Contract.letsUpdate_timeless (id : CycleId) : (timeless : Contract γ).LetsUpdate id where
  rolled := CycleId.regenerate_keeps (letsRoll_timeless id)
  clamped _ := .nothing rfl rfl
  dispatched _ _ _ := .nothing rfl rfl
  handed w _ _ _ := .emit w _
  changed w _ _ := .emit w _
  noKey _ := .refl
  timed _ _ _ := .nothing rfl rfl

/-- **Updates of the weather leave the clock alone**, if the actors do. -/
theorem Manager.update_timeless {react : Reaction γ} (h : react.Keeps .timeless) (diff : Int) :
    (update react diff).Keeps .timeless :=
  update_keeps (fun id => CycleId.update_keeps h (Contract.letsUpdate_timeless id) diff)
    (fun w _ _ => (World.Timeless.emit w _).trans (.nothing rfl rfl)) fun w _ => .emit w _

end Weather

/-! ### Whole rolls -/

/-- **A roll of the weather of a cycle goes by the season** of the day that the clock shows: new
weather is selected by the chances of that season. Meanwhile the clock stays as it is, and no other
season is noted. -/
structure World.GoesBySeason (w : World γ) (id : CycleId) (w' : World γ) : Prop where
  picks : ∀ {table : SeasonTable} {day : Int}, (w.cycle id).table = some table →
    w.clock.dayOfYear = .ok day → w.Picks id (table.chances (.ofDay day)) w'
  notes : w.Sees (fun m => m.Seasonal ∧ m.scene.clock = w.clock) w'

section Weather

variable [RandomSource γ]

/-- **Every roll goes by the season**, whether it returns or fails. -/
theorem World.goesBySeason (w : World γ) (id : CycleId) :
    w.GoesBySeason id (id.regenerate.worldLeft w) where
  picks := by
    intro table day made clock
    have known : id.number < w.cycles.size := by
      by_contra unknown
      have lacking : w.cycle id = default := by simp [Scene.cycle, unknown]
      rw [lacking] at made
      cases made
    exact (CycleId.regenerate_picks known made clock).worldLeft
  notes := by
    obtain ⟨ms, adds, seasonal⟩ :=
      (CycleId.regenerate_keeps (Contract.letsRoll_seasonal id)).worldLeft w
    have still := (CycleId.regenerate_keeps (Contract.letsRoll_timeless id)).worldLeft w
    exact ⟨ms, adds, fun m mem => ⟨seasonal m mem, still.sees.mem adds m mem⟩⟩

/-- **All weather is rolled in season** on the way from one world to another: rolls are made, each
of them as a whole and by the season of its day, and whatever else happens notes no season. -/
inductive World.InSeason : World γ → World γ → Prop
  /-- Something else happens. -/
  | other {w w' : World γ} (aside : w.Sees (·.event.Seasonless) w') : InSeason w w'
  /-- The weather of a cycle is rolled. -/
  | roll {w : World γ} {id : CycleId} (season : w.GoesBySeason id (id.regenerate.worldLeft w)) :
      InSeason w (id.regenerate.worldLeft w)
  /-- More happens after something. -/
  | trans {a b c : World γ} (first : InSeason a b) (rest : InSeason b c) : InSeason a c

/-- The contract of rolling all weather in season. -/
def Contract.inSeason : Contract γ := .always World.InSeason (fun w => .other (.refl w)) .trans

theorem Contract.serves_inSeason : (inSeason : Contract γ).Serves := by
  refine serves_of_seasonless .other fun id w => ?_
  have roll : w.InSeason (id.regenerate.worldLeft w) := .roll (w.goesBySeason id)
  rw [Sim.worldLeft] at roll
  refine (Sim.ends_self id.regenerate w).mono (fun _ _ run => ?_) fun _ _ run => ?_
  · rwa [run] at roll
  · rwa [run] at roll

theorem Manager.update_inSeason {react : Reaction γ} (h : react.Keeps .inSeason) (diff : Int) :
    (update react diff).Keeps .inSeason :=
  update_keeps_of_seasonless .other Contract.serves_inSeason h diff

/-- **No actor makes weather be rolled by the chances of another season**, whatever they do. -/
theorem Stage.react_inSeason (stage : Stage) (behaviour : Behaviour γ) (depth : Nat) :
    (stage.react behaviour depth).Keeps .inSeason :=
  stage.react_keeps Contract.serves_inSeason Manager.update_inSeason behaviour depth

end Weather

end Microclimate
