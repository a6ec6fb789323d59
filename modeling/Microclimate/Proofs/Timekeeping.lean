import Microclimate.Proofs.Courses
import Microclimate.Proofs.Pacing
import Microclimate.Proofs.SingleRounding

/-!
# How well an engine keeps time

Systems are told how much time has elapsed. What they are told is the number of ticks times the
length of a tick, so whatever the length is off by adds up, tick by tick. It is off by a half of a
millisecond at most, and so the time is off by a half of a millisecond **for each tick**. It is what
it should be at every tick if and only if the rate divides a thousand.

Nothing that is asked of an engine, and nothing that actors ask of it while they are called, changes
the rate or takes a tick back. So this holds at all times, of an engine that is driven as well as of
one whose ticks fail, and whoever else makes ticks in the middle of one.

* `Microclimate.Contract.going` – the contract that engines go on, which everything keeps;
* `Microclimate.TickContext.KeepsTime` – what systems are told is right, as far as that goes;
* `Microclimate.Stretch.keepsTime`, `Microclimate.Logbook.keepsTime` – so it is in all calls that an
  engine makes;
* `Microclimate.Engine.create_keepsTime` – **how well an engine of any rate keeps time.**
-/

namespace Microclimate

variable {γ : Type}

/-! ### Engines that go on -/

/-- The engine of a world has gone on. -/
def World.GoesOn (w w' : World γ) : Prop := w.engine.GoesOn w'.engine

theorem World.GoesOn.refl (w : World γ) : w.GoesOn w := Engine.GoesOn.refl _

theorem World.GoesOn.trans {a b c : World γ} (h : a.GoesOn b) (h' : b.GoesOn c) : a.GoesOn c :=
  Engine.GoesOn.trans h h'

/-- The contract that the engine goes on. -/
def Contract.going : Contract γ := .always World.GoesOn .refl .trans

/-- **Everything lets the engine go on.** -/
theorem Contract.admits_going : (going : Contract γ).Admits where
  step {w _} step := by
    cases step with
    | surroundings messenger hooks clock engine random calls goes => exact goes
    | moved m allowed =>
      obtain ⟨d, attempts, left⟩ := m.carryOut_worldLeft w
      rw [left]
      exact .refl w
    | _ => exact .refl _
  fail _ w := .refl w
  discard w _ _ := .refl w

/-! ### What systems are told -/

/-- The time that should have elapsed. -/
def TickContext.ideal (tps : Int) (c : TickContext) : ℚ := 1000 * c.tick / tps

/-- **What systems are told keeps time** at some rate: each tick takes the same number of
milliseconds, so that the time elapsed is off by a half of one for each tick at most; it is what it
should be before the first tick, and afterwards just if the rate divides a thousand. -/
structure TickContext.KeepsTime (tps : Int) (c : TickContext) : Prop where
  nonneg : 0 ≤ c.tick
  length : c.tickLength = Engine.lengthOf tps
  elapsed : c.elapsed = c.tick * Engine.lengthOf tps
  near : 2 * |tps * c.elapsed - 1000 * c.tick| ≤ c.tick * tps
  ideal : (c.elapsed : ℚ) = c.ideal tps ↔ c.tick = 0 ∨ tps ∣ 1000

/-- The engine of a world has some rate, and it has made no fewer than no ticks. -/
structure World.RunsAt (tps : Int) (w : World γ) : Prop where
  rate : w.engine.tps = tps
  nonneg : 0 ≤ w.engine.tick

namespace World.RunsAt

variable {tps : Int} {w w' : World γ}

theorem goesOn (runs : w.RunsAt tps) (goes : w.GoesOn w') : w'.RunsAt tps :=
  ⟨goes.tps.trans runs.rate, runs.nonneg.trans goes.tick⟩

theorem nextTick (runs : w.RunsAt tps) : w.nextTick.RunsAt tps :=
  ⟨runs.rate, Int.add_nonneg runs.nonneg Int.one_nonneg⟩

theorem stopping (runs : w.RunsAt tps) (b : Bool) : (w.stopping b).RunsAt tps :=
  ⟨runs.rate, runs.nonneg⟩

/-- **What systems are told at any time keeps time.** -/
theorem keepsTime (runs : w.RunsAt tps) : w.engine.context.KeepsTime tps := by
  obtain ⟨rfl, nonneg⟩ := runs
  have pos := w.engine.tps_pos
  exact ⟨nonneg, rfl, rfl, Engine.lengthOf_near_mul pos nonneg,
    Engine.mul_lengthOf_eq_ideal_iff pos⟩

end World.RunsAt

variable [RandomSource γ] {react : Reaction γ} {rounds : Nat} {tps : Int} {w w' : World γ}

/-- In a round all are told the same. -/
theorem Round.told {list : Engine γ → List System} {stoppable : Bool} {context : TickContext}
    {place : Nat} {vs : List (Visit γ)}
    (round : Round react list stoppable context rounds place w vs w') :
    ∀ v ∈ vs, v.context = context := by
  induction round with
  | ended => simp
  | cut => simp
  | next stands returns go rest ih => simpa using ih

section Going

variable (goes : react.Keeps .going)
include goes

theorem Phase.Leads.keepsTime {p : Phase γ} (leads : p.Leads react rounds w w')
    (runs : w.RunsAt tps) : (∀ v ∈ p.visits, v.context.KeepsTime tps) ∧ w'.RunsAt tps := by
  have allows := Contract.admits_going (γ := γ).toPermits.allows
  have updates := Manager.update_admitted Contract.admits_going goes
  cases leads with
  | tick tick =>
    refine ⟨fun v mem => tick.told v mem ▸ runs.nextTick.keepsTime, runs.goesOn ?_⟩
    have made := Engine.makeTick_ok_iff.2 ⟨_, tick⟩
    exact (Engine.makeTick_keeps allows goes updates rounds w).of_ok made
  | @hooks list _ _ _ fired =>
    refine ⟨fun v mem => fired.told v mem ▸ runs.keepsTime, runs.goesOn ?_⟩
    have made := Engine.fire_ok_iff.2 ⟨_, fired⟩
    exact (Engine.fire_keeps allows goes updates rounds list w).of_ok made

/-- **In a stretch of ticks and hooks all that systems are told keeps time.** -/
theorem Stretch.keepsTime {ps : List (Phase γ)} (stretch : Stretch react rounds w ps w')
    (runs : w.RunsAt tps) :
    (∀ p ∈ ps, ∀ v ∈ p.visits, v.context.KeepsTime tps) ∧ w'.RunsAt tps := by
  induction stretch with
  | ended => exact ⟨by simp, runs⟩
  | next leads rest ih =>
    obtain ⟨first, runs'⟩ := leads.keepsTime goes runs
    obtain ⟨others, runs''⟩ := ih runs'
    exact ⟨by simpa using ⟨first, others⟩, runs''⟩

/-- **So it does whenever an engine is driven**, by single steps and by runs. -/
theorem Logbook.keepsTime {ds : List Drive} {ps : List (Phase γ)}
    (book : Logbook react rounds ds w ps w') (runs : w.RunsAt tps) :
    (∀ p ∈ ps, ∀ v ∈ p.visits, v.context.KeepsTime tps) ∧ w'.RunsAt tps := by
  induction book with
  | nothing => exact ⟨by simp, runs⟩
  | drive phases rest ih =>
    obtain ⟨first, runs'⟩ := phases.stretch.keepsTime goes (runs.stopping false)
    obtain ⟨others, runs''⟩ := ih runs'
    refine ⟨fun p mem => ?_, runs''⟩
    exact (List.mem_append.1 mem).elim (first p) (others p)

end Going

/-! ### The law -/

/-- A single tick counts, also when it fails. -/
theorem Engine.step_ticks (goes : react.Keeps .going) (rounds : Nat) (w : World γ) :
    (step react rounds).Ends w (fun _ w' => w.nextTick.GoesOn w')
      fun _ w' => w.nextTick.GoesOn w' := by
  have allows := Contract.admits_going (γ := γ).toPermits.allows
  have updates := Manager.update_admitted Contract.admits_going goes
  have begun : w.nextTick.GoesOn (w.stopping false).nextTick := .of_eq rfl rfl
  exact (callFrom_keeps allows goes updates _ _ _ rounds 0).ends_trans begun

/-- Every engine can be brought to make a tick. -/
theorem World.Course.exists_ticked (start : World γ) :
    ∃ w, start.Course w ∧ start.engine.tick < w.engine.tick := by
  let stage : Stage := {}
  let react : Reaction γ := stage.react .recording 1
  have goes : react.Keeps .going := stage.react_admitted Contract.admits_going _ _
  refine ⟨_, .command .nothing stage .recording 1 false (.engine .step), ?_⟩
  have ticked (w' : World γ) (on : start.nextTick.GoesOn w') :
      start.engine.tick < w'.engine.tick := Int.lt_of_add_one_le on.tick
  have ends : ((Command.engine .step).perform stage react false).Ends start
      (fun _ w' => start.engine.tick < w'.engine.tick)
      fun _ w' => start.engine.tick < w'.engine.tick := by
    have present : stage.require .engine = (pure () : Sim γ Unit) := rfl
    rw [Command.perform, present, Sim.ends_bind, Sim.ends_pure, EngineCommand.perform,
      Sim.ends_bind]
    exact (Engine.step_ticks goes stage.rounds start).mono (fun _ => ticked) fun _ => ticked
  exact ends.worldLeft

/-- **How well an engine keeps time.** For every rate there is an engine. The length of its ticks is
a thousand divided by the rate, rounded to the nearest integer, a half to the even one, and so it is
off by a half at most. Then

* at all times, whatever was asked and has failed, and whatever the actors do, systems would be told
  a time elapsed that is off by a half for each tick at most;
* they are told such a time in all calls that the engine makes while it is driven;
* it is the ideal time at every tick if and only if the rate divides a thousand. -/
theorem Engine.create_keepsTime {tps : Int} (pos : 0 < tps) (seed : Option Int) (random : γ) :
    ∃ e : Engine γ, create tps seed random = .ok e ∧
      NearestWhole (1000 / tps) e.tickLength ∧ 2 * |tps * e.tickLength - 1000| ≤ tps ∧
      ∀ start : World γ, start.engine = e →
        (∀ w, start.Course w → w.engine.context.KeepsTime tps ∧
          ∀ (stage : Stage) (behaviour : Behaviour γ) (depth rounds : Nat) (ds : List Drive)
            (w' : World γ),
            ds.forM (Drive.perform (stage.react behaviour depth) rounds) w = .ok () w' →
              ∃ ps, Logbook (stage.react behaviour depth) rounds ds w ps w' ∧
                ∀ p ∈ ps, ∀ v ∈ p.visits, v.context.KeepsTime tps) ∧
        ((∀ w, start.Course w →
            (w.engine.context.elapsed : ℚ) = w.engine.context.ideal tps) ↔ tps ∣ 1000) := by
  refine ⟨_, dif_pos pos, ?_, lengthOf_near pos, fun start new => ?_⟩
  · exact nearestWhole_iff.2 (lengthOf_eq pos)
  have begun : start.RunsAt tps := ⟨new ▸ rfl, new ▸ Int.le_refl 0⟩
  have runs {w : World γ} (course : start.Course w) : w.RunsAt tps :=
    begun.goesOn (course.keeps Contract.admits_going)
  refine ⟨fun w course => ⟨(runs course).keepsTime, ?_⟩, fun ideal => ?_, fun divides => ?_⟩
  · intro stage behaviour depth rounds ds w' returns
    have goes := stage.react_admitted Contract.admits_going behaviour depth
    obtain ⟨ps, book⟩ := drive_ok_iff.1 returns
    exact ⟨ps, book, (book.keepsTime goes (runs course)).1⟩
  · obtain ⟨w, course, ticked⟩ := World.Course.exists_ticked start
    refine ((runs course).keepsTime.ideal.1 (ideal w course)).resolve_left fun none => ?_
    have made : 0 < w.engine.tick := begun.nonneg.trans_lt ticked
    exact made.ne' none
  · exact fun w course => (runs course).keepsTime.ideal.2 (.inr divides)

/-- With sixteen ticks in a second a thousand lies just in the middle, at 62.5 milliseconds, and the
time is off by as much as it can be. -/
theorem Engine.create_keepsTime_sixteen :
    ∃ e : Engine Script, create 16 none {} = .ok e ∧ e.tickLength = 62 ∧
      2 * |16 * e.tickLength - 1000| = 16 ∧
      ∀ start : World Script, start.engine = e →
        (∀ w, start.Course w → w.engine.context.KeepsTime 16) ∧
        ∃ w, start.Course w ∧ (w.engine.context.elapsed : ℚ) ≠ w.engine.context.ideal 16 := by
  obtain ⟨e, created, -, -, law⟩ := create_keepsTime (by decide : (0 : Int) < 16) none ({} : Script)
  have length : e.tickLength = 62 := by
    obtain rfl := Except.ok.inj ((dif_pos (by decide)).symm.trans created)
    exact show lengthOf 16 = 62 by decide +kernel
  refine ⟨e, created, length, by rw [length]; rfl, fun start new => ?_⟩
  obtain ⟨keeps, ideal⟩ := law start new
  refine ⟨fun w course => (keeps w course).1, ?_⟩
  by_contra! always
  exact absurd (ideal.1 always) (by decide)

end Microclimate
