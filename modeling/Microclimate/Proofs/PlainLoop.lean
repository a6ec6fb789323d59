import Microclimate.Proofs.Departures
import Microclimate.Proofs.Detached
import Microclimate.Proofs.InSeason
import Microclimate.Proofs.Recording

/-!
# The plain loop

An engine without hooks, whose systems are the clock and then the weather, has no say in what
happens: it does what one could do without it, that is, advance the clock and update the weather in
turn. With actors who have nothing to do with the engine, a run comes to the same as the plain loop,
be it that it returns or that it fails, and all that the engine keeps of it is the number of ticks.

In particular the weather of a tick is generated in the season of the day to which the clock has
been advanced by then, once for each tick that was begun.

* `Microclimate.PlainLoop.run` – the plain loop;
* `Microclimate.PlainLoop.run_seasonal`, `Microclimate.PlainLoop.run_inSeason` – what happens in the
  plain loop happens in season, and so is all weather rolled;
* `Microclimate.Engine.makeTicks_withEngine` – ticks are steps of the plain loop;
* `Microclimate.Engine.run_plain` – **a run is the plain loop.**
-/

namespace Microclimate

variable {γ α β : Type}

/-! ### The plain loop -/

/-- A clock that is advanced some times by the same time. -/
def Clock.advanced (diff : Int) : Nat → Clock → Except Fault Clock
  | 0, c => .ok c
  | n + 1, c => (c.advance diff).bind (advanced diff n)

namespace PlainLoop

/-- The game clock is advanced. -/
def advanceClock (diff : Int) : Sim γ Unit := do
  let c ← Sim.lift ((← get).clock.advance diff)
  modify fun w => { w with clock := c }

variable [RandomSource γ]

/-- A step of the plain loop: the clock is advanced, and then the weather is updated. -/
def step (react : Reaction γ) (diff : Int) : Sim γ Unit := do
  advanceClock diff
  Manager.update react diff

/-- **The plain loop**: some steps. -/
def run (react : Reaction γ) (diff : Int) : (count : Nat) → Sim γ Unit
  | 0 => return
  | count + 1 => do
    step react diff
    run react diff count

/-- The number of steps that the plain loop begins, until one fails or all are made. -/
def begun (react : Reaction γ) (diff : Int) : (count : Nat) → World γ → Nat
  | 0, _ => 0
  | count + 1, w =>
    match step react diff w with
    | .ok _ v => begun react diff count v + 1
    | .error .. => 1

end PlainLoop

namespace PlainLoop

theorem advanceClock_ok {diff : Int} {w : World γ} {c : Clock} (h : w.clock.advance diff = .ok c) :
    advanceClock diff w = .ok () { w with clock := c } := by
  rw [advanceClock, Sim.get_bind, h]
  rfl

theorem advanceClock_error {diff : Int} {w : World γ} {fault : Fault}
    (h : w.clock.advance diff = .error fault) : advanceClock diff w = .error fault w := by
  rw [advanceClock, Sim.get_bind, h]
  rfl

variable [RandomSource γ] {react : Reaction γ} {diff : Int}

/-- A loop that returns has begun all steps. -/
theorem begun_of_returns (n : Nat) {w : World γ} (h : (run react diff n).returns w = true) :
    begun react diff n w = n := by
  induction n generalizing w with
  | zero => rfl
  | succ n ih =>
    rw [begun]
    cases made : step react diff w with
    | error fault v =>
      rw [Sim.returns, run, Sim.bind_of_error made] at h
      cases h
    | ok a v =>
      rw [Sim.returns, run, Sim.bind_of_ok made] at h
      exact congrArg (· + 1) (ih h)

end PlainLoop

/-! ### Seasons -/

theorem Clock.advanced_succ (diff : Int) (n : Nat) (c : Clock) :
    c.advanced diff (n + 1) = (c.advanced diff n).bind (·.advance diff) := by
  induction n generalizing c with
  | zero =>
    change (c.advance diff).bind (advanced diff 0) = c.advance diff
    cases c.advance diff <;> rfl
  | succ n ih =>
    rw [advanced, advanced]
    cases c.advance diff with
    | error fault => rfl
    | ok c' => exact ih c'

namespace PlainLoop

variable [RandomSource γ] {react : Reaction γ} {diff : Int}

/-- A step leaves the world to the update of the weather once the clock has been advanced. -/
theorem step_cases (react : Reaction γ) (diff : Int) (w : World γ) :
    (∃ c, w.clock.advance diff = .ok c ∧
        step react diff w = Manager.update react diff { w with clock := c }) ∨
      ∃ fault, w.clock.advance diff = .error fault ∧ step react diff w = .error fault w := by
  cases advances : w.clock.advance diff with
  | ok c => exact .inl ⟨c, rfl, Sim.bind_of_ok (advanceClock_ok advances)⟩
  | error fault => exact .inr ⟨fault, rfl, Sim.bind_of_error (advanceClock_error advances)⟩

/-- What happens in a step happens in season, and after the clock has been advanced. -/
theorem step_seasonal (diff : Int) (h : react.Keeps .seasonal) (w : World γ) :
    w.Sees (fun m => m.Seasonal ∧
        (react.Keeps .timeless → w.clock.advance diff = .ok m.scene.clock))
      ((step react diff).worldLeft w) := by
  rw [Sim.worldLeft]
  obtain ⟨c, advances, stepped⟩ | ⟨fault, -, failed⟩ := step_cases react diff w
  · obtain ⟨ms, adds, seasonal⟩ :=
      (Manager.update_seasonal h diff).worldLeft { w with clock := c }
    rw [stepped]
    refine ⟨ms, adds, fun m mem => ⟨seasonal m mem, fun timeless => ?_⟩⟩
    have still := (Manager.update_timeless timeless diff).worldLeft { w with clock := c }
    rw [advances, still.sees.mem adds m mem]
  · rw [failed]
    exact .refl w

/-- A step that returns leaves the clock as it has advanced it, if the actors leave it alone. -/
theorem step_clock (h : react.Keeps .timeless) {w v : World γ}
    (made : step react diff w = .ok () v) : w.clock.advance diff = .ok v.clock := by
  obtain ⟨c, advances, stepped⟩ | ⟨fault, -, failed⟩ := step_cases react diff w
  · have still := (Manager.update_timeless h diff).worldLeft { w with clock := c }
    rw [Sim.worldLeft, ← stepped, made] at still
    exact advances.trans (congrArg Except.ok still.clock.symm)
  · rw [failed] at made
    cases made

/-- Before a step that is begun all steps have returned, and the clock has been advanced as often.
-/
theorem run_reaches {n i : Nat} {w : World γ} (begins : i < begun react diff n w) :
    ∃ v, run react diff i w = .ok () v ∧
      (run react diff (i + 1)).worldLeft w = (step react diff).worldLeft v ∧
        (react.Keeps .timeless → w.clock.advanced diff i = .ok v.clock) := by
  induction i generalizing n w with
  | zero =>
    refine ⟨w, rfl, ?_, fun _ => rfl⟩
    rw [run, Sim.worldLeft, Sim.worldLeft]
    cases made : step react diff w with
    | error fault v => rw [Sim.bind_of_error made]
    | ok a v => rw [Sim.bind_of_ok made]; rfl
  | succ i ih =>
    cases n with
    | zero => cases begins
    | succ n =>
      rw [begun] at begins
      cases made : step react diff w with
      | error fault v =>
        rw [made] at begins
        exact absurd begins (by simp)
      | ok a v =>
        rw [made] at begins
        obtain ⟨u, before, after, clock⟩ := ih (Nat.lt_of_succ_lt_succ begins)
        refine ⟨u, ?_, ?_, fun timeless => ?_⟩
        · rw [run, Sim.bind_of_ok made]
          exact before
        · rw [← after, run, Sim.worldLeft, Sim.bind_of_ok made, Sim.worldLeft]
        · rw [Clock.advanced, step_clock timeless made]
          exact clock timeless

/-- In a step all weather is rolled in season. -/
theorem step_inSeason (h : react.Keeps .inSeason) (w : World γ) :
    w.InSeason ((step react diff).worldLeft w) := by
  rw [Sim.worldLeft]
  obtain ⟨c, -, stepped⟩ | ⟨fault, -, failed⟩ := step_cases react diff w
  · have advanced : w.InSeason { w with clock := c } := .other (.nothing rfl)
    have updated := (Manager.update_inSeason h diff).worldLeft { w with clock := c }
    rw [stepped]
    exact advanced.trans updated
  · rw [failed]
    exact .other (.refl w)

/-- In every step of the plain loop all weather is rolled in season. -/
theorem run_inSeason (h : react.Keeps .inSeason) {n i : Nat} {w : World γ}
    (begins : i < begun react diff n w) :
    ((run react diff i).worldLeft w).InSeason ((run react diff (i + 1)).worldLeft w) := by
  obtain ⟨v, before, after, -⟩ := run_reaches begins
  have left : (run react diff i).worldLeft w = v := by rw [Sim.worldLeft, before]
  rw [left, after]
  exact step_inSeason h v

/-- **The plain loop in season**: what happens in a step happens in season, and if the actors leave
the clock alone, then while it shows the time to which it has been advanced so many times. -/
theorem run_seasonal (h : react.Keeps .seasonal) {n i : Nat} {w : World γ}
    (begins : i < begun react diff n w) :
    ((run react diff i).worldLeft w).Sees
      (fun m => m.Seasonal ∧
        (react.Keeps .timeless → w.clock.advanced diff (i + 1) = .ok m.scene.clock))
      ((run react diff (i + 1)).worldLeft w) := by
  obtain ⟨v, before, after, clock⟩ := run_reaches begins
  have left : (run react diff i).worldLeft w = v := by rw [Sim.worldLeft, before]
  rw [left, after]
  obtain ⟨ms, adds, seasonal⟩ := step_seasonal diff h v
  refine ⟨ms, adds, fun m mem => ⟨(seasonal m mem).1, fun timeless => ?_⟩⟩
  rw [Clock.advanced_succ, clock timeless]
  exact (seasonal m mem).2 timeless

end PlainLoop

/-! ### Runs without hooks -/

section Runs

variable [RandomSource γ] {react : Reaction γ} (detached : react.Detached)
include detached

theorem System.call_detached (context : TickContext) (system : System) :
    (system.call react context).Detached := by
  cases system with
  | clock =>
    refine .read (fun _ _ => rfl) fun w => .bind (Sim.lift_detached _) fun c => ?_
    exact .modify fun _ _ => rfl
  | weather => exact Manager.update_detached detached _
  | actor name => exact detached _
  | lacking part => exact .throw _

namespace Engine

/-- The systems are called one after the other, if no stop is requested. -/
theorem callFrom_withEngine {e : Engine γ} (going : e.stopRequested = false) (context : TickContext)
    {rounds place : Nat} (within : place ≤ e.systems.length)
    (short : e.systems.length < rounds + place) (w : World γ) :
    callFrom react systems true context rounds place (w.withEngine e) =
      Sim.mapWorld (·.withEngine e) ((e.systems.drop place).forM (·.call react context) w) := by
  induction rounds generalizing place w with
  | zero => omega
  | succ rounds ih =>
    have asked (v : World γ) :
        (isStopping : Sim γ Bool) (v.withEngine e) = .ok false (v.withEngine e) :=
      congrArg (EStateM.Result.ok · _) going
    have same : (w.withEngine e).engine.systems = e.systems := rfl
    rw [callFrom, Sim.get_bind, same]
    cases stands : e.systems[place]? with
    | none =>
      rw [List.drop_eq_nil_of_le (List.getElem?_eq_none_iff.1 stands)]
      rfl
    | some system =>
      obtain ⟨below, found⟩ := List.getElem?_eq_some_iff.1 stands
      have alone := System.call_detached detached context system
      rw [List.drop_eq_getElem_cons below, found, List.forM]
      cases called : system.call react context w with
      | error fault v =>
        rw [Sim.bind_of_error called]
        exact Sim.bind_of_error (alone.error called e)
      | ok a v =>
        rw [Sim.bind_of_ok called, ← ih below (by omega)]
        refine (Sim.bind_of_ok (alone.ok called e)).trans ?_
        exact Sim.bind_of_ok (asked v)

/-- An engine that is wired up for the weather alone: no hooks, and the clock before the weather. -/
structure Plain (e : Engine γ) : Prop where
  systems : e.systems = [.clock, .weather]
  startHooks : e.startHooks = []
  stopHooks : e.stopHooks = []

/-- The engine after some more ticks, if no stop is requested. -/
def after (e : Engine γ) (k : Nat) : Engine γ :=
  { e with tick := e.tick + k, stopRequested := false }

variable {rounds : Nat} (enough : 2 < rounds) {e : Engine γ} (plain : e.Plain)
include enough plain

/-- A tick is a step of the plain loop. -/
theorem makeTick_withEngine (k : Nat) (w : World γ) :
    makeTick react rounds (w.withEngine (e.after k)) =
      Sim.mapWorld (·.withEngine (e.after (k + 1))) (PlainLoop.step react e.tickLength w) := by
  have counted : (edit fun e => { e with tick := e.tick + 1 } : Sim γ Unit)
      (w.withEngine (e.after k)) = .ok () (w.withEngine (e.after (k + 1))) := by
    have tick : e.tick + k + 1 = e.tick + ((k + 1 : Nat) : Int) := Int.add_assoc ..
    rw [after, after, ← tick]
    rfl
  have body : [System.clock, .weather].forM (·.call react (e.after (k + 1)).context) =
      PlainLoop.step react e.tickLength := by
    change (PlainLoop.advanceClock e.tickLength >>= fun _ =>
      Manager.update react e.tickLength >>= fun _ => pure ()) = _
    simp only [bind_pure_unit]
    rfl
  have called : callFrom react systems true (e.after (k + 1)).context rounds 0 _ = _ :=
    callFrom_withEngine detached rfl _ (Nat.zero_le _)
      (by rw [show (e.after (k + 1)).systems = _ from plain.systems]; exact enough) w
  rw [show (e.after (k + 1)).systems = _ from plain.systems, List.drop_zero, body] at called
  rw [makeTick, Sim.bind_of_ok counted, Sim.get_bind]
  exact called

/-- **Ticks are steps of the plain loop**, as many as are begun. -/
theorem makeTicks_withEngine (n k : Nat) (w : World γ) :
    makeTicks react rounds n (w.withEngine (e.after k)) =
      Sim.mapWorld (·.withEngine (e.after (k + PlainLoop.begun react e.tickLength n w)))
        (PlainLoop.run react e.tickLength n w) := by
  induction n generalizing k w with
  | zero => rfl
  | succ n ih =>
    have tick := makeTick_withEngine detached enough plain k w
    have asked (v : World γ) : (isStopping : Sim γ Bool) (v.withEngine (e.after (k + 1))) =
        .ok false (v.withEngine (e.after (k + 1))) := rfl
    rw [makeTicks, PlainLoop.run, PlainLoop.begun]
    cases made : PlainLoop.step react e.tickLength w with
    | error fault v =>
      rw [made] at tick
      rw [Sim.bind_of_error made]
      exact Sim.bind_of_error tick
    | ok a v =>
      rw [made] at tick
      rw [Sim.bind_of_ok made]
      refine (Sim.bind_of_ok tick).trans ((Sim.bind_of_ok (asked v)).trans ?_)
      rw [if_neg Bool.false_ne_true, ih, Nat.add_assoc, Nat.add_comm 1]

omit [RandomSource γ] detached plain in
/-- Where there are no hooks, none are called. -/
theorem fire_nothing [RandomSource γ] {hooks : Engine γ → List System} {w : World γ}
    (nothing : hooks w.engine = []) : fire react rounds hooks w = .ok () w := by
  obtain ⟨left, rfl⟩ : ∃ left, rounds = left + 1 := ⟨rounds - 1, by omega⟩
  rw [fire, Sim.get_bind, callFrom, Sim.get_bind, nothing]
  rfl

omit plain in
/-- Without hooks a run consists of its ticks. -/
theorem run_eq_makeTicks {w : World γ} (plain : w.engine.Plain) (n : Nat) :
    run react rounds n w = makeTicks react rounds n (w.withEngine (w.engine.after 0)) := by
  have cleared : (setStopping false : Sim γ Unit) w = .ok () (w.withEngine (w.engine.after 0)) := by
    have zero : w.engine.tick + ((0 : Nat) : Int) = w.engine.tick := Int.add_zero _
    rw [after, zero]
    rfl
  have first : fire react rounds startHooks (w.withEngine (w.engine.after 0)) = .ok () _ :=
    fire_nothing enough plain.startHooks
  have ticks := makeTicks_withEngine detached enough plain n 0 w
  rw [run, Sim.bind_of_ok cleared]
  refine (Sim.bind_of_ok first).trans ?_
  cases looped : PlainLoop.run react w.engine.tickLength n w with
  | error fault v =>
    rw [looped] at ticks
    exact (Sim.bind_of_error ticks).trans ticks.symm
  | ok a v =>
    rw [looped] at ticks
    refine ((Sim.bind_of_ok ticks).trans ?_).trans ticks.symm
    exact fire_nothing enough plain.stopHooks

/-- Some ticks, and then some more. -/
theorem makeTicks_add (a b k : Nat) (w : World γ) :
    makeTicks react rounds (a + b) (w.withEngine (e.after k)) =
      (makeTicks react rounds a >>= fun _ => makeTicks react rounds b)
        (w.withEngine (e.after k)) := by
  induction a generalizing k w with
  | zero => rw [Nat.zero_add]; rfl
  | succ a ih =>
    have tick := makeTick_withEngine detached enough plain k w
    rw [Nat.succ_add, makeTicks, makeTicks, bind_assoc]
    cases made : PlainLoop.step react e.tickLength w with
    | error fault v =>
      rw [made] at tick
      exact (Sim.bind_of_error tick).trans (Sim.bind_of_error tick).symm
    | ok _ v =>
      rw [made] at tick
      refine (Sim.bind_of_ok tick).trans (Eq.trans ?_ (Sim.bind_of_ok tick).symm)
      exact ih (k + 1) v

omit plain in
/-- A run and then another one are a run of all their ticks. -/
theorem run_add {w : World γ} (plain : w.engine.Plain) (a b : Nat) :
    (do run react rounds a; run react rounds b : Sim γ Unit) w =
      run react rounds (a + b : Nat) w := by
  rw [run_eq_makeTicks detached enough plain, makeTicks_add detached enough plain]
  have first := run_eq_makeTicks detached enough plain a
  have ticks := makeTicks_withEngine detached enough plain a 0 w
  cases looped : PlainLoop.run react w.engine.tickLength a w with
  | error fault v =>
    rw [looped] at ticks
    exact (Sim.bind_of_error (first.trans ticks)).trans (Sim.bind_of_error ticks).symm
  | ok _ v =>
    rw [looped] at ticks
    refine (Sim.bind_of_ok (first.trans ticks)).trans (Eq.trans ?_ (Sim.bind_of_ok ticks).symm)
    have wired : (v.withEngine (w.engine.after
        (0 + PlainLoop.begun react w.engine.tickLength a w))).engine.Plain :=
      ⟨plain.systems, plain.startHooks, plain.stopHooks⟩
    refine (run_eq_makeTicks detached enough wired b).trans ?_
    -- the second run takes back a request that nobody has made
    congr 1
    simp [World.withEngine, after]

omit plain in
/-- **A run is the plain loop**, of as many steps: it returns or fails as that does and leaves the
same world, but for the number of ticks, which counts the steps that were begun. A loop that returns
has begun them all; a run that returns and another one are one run of all their ticks.

Whatever happens at a tick happens in the season of the clock, if the actors do not make up any; and
while the clock shows the time to which it was advanced as often as ticks were begun in that run, if
they leave it alone. A season is noted only in a roll of the weather, and each roll goes by the
chances of the season of the clock. -/
theorem run_plain {w : World γ} (plain : w.engine.Plain) (n : Nat) :
    let diff := w.engine.tickLength
    let begun := PlainLoop.begun react diff n w
    run react rounds n w =
        Sim.mapWorld (·.withEngine (w.engine.after begun)) (PlainLoop.run react diff n w) ∧
      ((PlainLoop.run react diff n).returns w = true → begun = n) ∧
      (∀ m : Nat, (do run react rounds n; run react rounds m : Sim γ Unit) w =
        run react rounds (n + m : Nat) w) ∧
      (react.Keeps .seasonal → ∀ i < begun,
        ((PlainLoop.run react diff i).worldLeft w).Sees
          (fun m => m.Seasonal ∧
            (react.Keeps .timeless → w.clock.advanced diff (i + 1) = .ok m.scene.clock))
          ((PlainLoop.run react diff (i + 1)).worldLeft w)) ∧
      (react.Keeps .inSeason → ∀ i < begun,
        ((PlainLoop.run react diff i).worldLeft w).InSeason
          ((PlainLoop.run react diff (i + 1)).worldLeft w)) := by
  intro diff begun
  refine ⟨?_, PlainLoop.begun_of_returns n, run_add detached enough plain n,
    fun seasonal i begins => PlainLoop.run_seasonal seasonal begins,
    fun inSeason i begins => PlainLoop.run_inSeason inSeason begins⟩
  rw [run_eq_makeTicks detached enough plain, makeTicks_withEngine detached enough plain,
    Nat.zero_add]

end Engine

end Runs

namespace MidwinterRain

/-- A world in which it will rain soon, with a clock and an engine. -/
def idle : World Script where
  clock := .running 0.0
  random := { integers := [0, 95, 1, 0], normals := [0.5] }
  engine := { tps_pos := standardTps_pos, random := {} }
  manager := { data := ⟨[(.text "a", TwoZones.rainy)]⟩ }

/-- The weather is running and will change in the first tick, and the engine is wired up plainly. -/
def before : World Script :=
  idle.afterAll {} .recording 1
    [.manager (.getOrCreate (.text "a")),
      .cycle (.running (.text "a")) (.assign none none (some 599950)),
      .engine (.addSystem .clock), .engine (.addSystem .weather)]

/-- The actors only take note. -/
def actors : Reaction Script := Stage.react {} .recording 1

/-- The seasons that are noted in two steps. -/
def seasons : List Season :=
  ((PlainLoop.run actors 50 2).worldLeft before).events.toList.filterMap fun
    | .logged (.generating season _) => some season
    | _ => none

theorem wired : before.engine.systems = [.clock, .weather] ∧ before.engine.startHooks = [] ∧
    before.engine.stopHooks = [] ∧ before.engine.tickLength = 50 := by
  decide +kernel

theorem returns : (PlainLoop.run actors 50 2).returns before = true := by decide +kernel

theorem seasons_eq : seasons = [.winter] := by decide +kernel

end MidwinterRain

/-- It is winter in the first of two ticks. -/
theorem Engine.run_plain_midwinter :
    MidwinterRain.actors.Detached ∧ MidwinterRain.before.engine.Plain ∧
      MidwinterRain.seasons = [.winter] ∧
      run MidwinterRain.actors 3 2 MidwinterRain.before =
        Sim.mapWorld (·.withEngine (MidwinterRain.before.engine.after 2))
          (PlainLoop.run MidwinterRain.actors 50 2 MidwinterRain.before) ∧
      (MidwinterRain.before.Sees
        (fun m => m.Seasonal ∧ MidwinterRain.before.clock.advanced 50 1 = .ok m.scene.clock)
          ((PlainLoop.run MidwinterRain.actors 50 1).worldLeft MidwinterRain.before)) ∧
      MidwinterRain.before.InSeason
        ((PlainLoop.run MidwinterRain.actors 50 1).worldLeft MidwinterRain.before) := by
  obtain ⟨systems, startHooks, stopHooks, diff⟩ := MidwinterRain.wired
  have plain : MidwinterRain.before.engine.Plain := ⟨systems, startHooks, stopHooks⟩
  have detached : MidwinterRain.actors.Detached :=
    Stage.react_detached {} (fun _ _ _ => rfl) (fun _ _ _ mem => by cases mem) 1
  have seasonal : MidwinterRain.actors.Keeps .seasonal := Stage.react_seasonal {} _ 1
  have timeless : MidwinterRain.actors.Keeps .timeless := by
    rw [MidwinterRain.actors, Stage.react_recording]
    exact Call.note_timeless
  have enough : 2 < 3 := by decide
  have rolls : MidwinterRain.actors.Keeps .inSeason := Stage.react_inSeason {} _ 1
  obtain ⟨refines, all, -, happens, rolled⟩ := Engine.run_plain detached enough plain 2
  rw [diff] at refines all happens rolled
  rw [all MidwinterRain.returns] at refines happens rolled
  obtain ⟨ms, adds, good⟩ := happens seasonal 0 (by decide)
  exact ⟨detached, plain, MidwinterRain.seasons_eq, refines,
    ⟨ms, adds, fun m mem => ⟨(good m mem).1, (good m mem).2 timeless⟩⟩, rolled rolls 0 (by decide)⟩

end Microclimate
