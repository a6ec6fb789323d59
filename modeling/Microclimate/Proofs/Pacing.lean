import Microclimate.Proofs.Recording
import Microclimate.Proofs.TickLength
import Microclimate.Proofs.Waiting

/-!
# Weather at the pace of ticks

An interval of so many milliseconds elapses in as many ticks, whatever the rate, since a tick takes
a millisecond at least. That is what one would think. But the length of a tick is rounded, and from
two thousand ticks a second on it is rounded to nothing. Then no timer gets on any more, and no
cycle makes an attempt to roll its weather.

So if the actors only take note, **every cycle that is running when a tick begins makes an attempt
in that tick or those after it, as many as the interval has milliseconds, if and only if there are
fewer than two thousand ticks in a second.** The ticks may be those of runs and of single steps. If
hooks are called between two of them, and the weather is a hook, an attempt in such a call counts
as well.

* `Microclimate.Phase` – what an engine does at a time, with `Microclimate.Stretch`;
* `Microclimate.Reaction.Patient` – what is asked of the actors;
* `Microclimate.Stretch.attempts_iff` – the law for a stretch of phases;
* `Microclimate.Drive` – a word by which an engine is driven, with `Microclimate.Logbook`;
* `Microclimate.Engine.drive_paced` – **the law for an engine that is driven.**
-/

namespace Microclimate

variable {γ : Type}

/-! ### Phases -/

/-- What an engine does at a time: it makes a tick or calls hooks. -/
structure Phase (γ : Type) where
  /-- Is it a tick? -/
  isTick : Bool
  /-- What it calls. -/
  visits : List (Visit γ)

/-- The phases of a run: the start hooks, the ticks, the stop hooks. -/
def Journal.phases (j : Journal γ) : List (Phase γ) :=
  ⟨false, j.starts⟩ :: j.ticks.map (⟨true, ·⟩) ++ [⟨false, j.stops⟩]

variable [RandomSource γ] {react : Reaction γ} {rounds : Nat}

/-- A phase leads from one world to another. -/
inductive Phase.Leads (react : Reaction γ) (rounds : Nat) : Phase γ → World γ → World γ → Prop
  /-- A tick was made. -/
  | tick {vs : List (Visit γ)} {w w' : World γ} (tick : Tick react rounds w vs w') :
      Leads react rounds ⟨true, vs⟩ w w'
  /-- Hooks were called. -/
  | hooks {list : Engine γ → List System} {vs : List (Visit γ)} {w w' : World γ}
      (fired : Firing react rounds list w vs w') : Leads react rounds ⟨false, vs⟩ w w'

/-- **A stretch**: some phases, one after the other. -/
inductive Stretch (react : Reaction γ) (rounds : Nat) :
    World γ → List (Phase γ) → World γ → Prop
  /-- Nothing more is done. -/
  | ended {w : World γ} : Stretch react rounds w [] w
  /-- Something is done, and more to come. -/
  | next {p : Phase γ} {ps : List (Phase γ)} {w v w' : World γ} (leads : p.Leads react rounds w v)
      (rest : Stretch react rounds v ps w') : Stretch react rounds w (p :: ps) w'

namespace Stretch

variable {w v w' : World γ} {ps qs : List (Phase γ)}

theorem append (h : Stretch react rounds w ps v) (h' : Stretch react rounds v qs w') :
    Stretch react rounds w (ps ++ qs) w' := by
  induction h with
  | ended => exact h'
  | next leads rest ih => exact .next leads (ih h')

/-- In the middle of a stretch there is a world. -/
theorem split (h : Stretch react rounds w (ps ++ qs) w') :
    ∃ v, Stretch react rounds w ps v ∧ Stretch react rounds v qs w' := by
  induction ps generalizing w with
  | nil => exact ⟨w, .ended, h⟩
  | cons p ps ih =>
    cases h with
    | next leads rest =>
      obtain ⟨v, before, after⟩ := ih rest
      exact ⟨v, .next leads before, after⟩

theorem of_ticks {count : Nat} {ticks : List (List (Visit γ))}
    (made : Ticks react rounds count w ticks w') :
    Stretch react rounds w (ticks.map (⟨true, ·⟩)) w' := by
  induction made with
  | all => exact .ended
  | cut tick stop => exact .next (.tick tick) .ended
  | next tick go rest ih => exact .next (.tick tick) ih

/-- A run is a stretch. -/
theorem of_run {count : Int} {j : Journal γ} (run : j.OfRun react rounds count w w') :
    Stretch react rounds (w.stopping false) j.phases w' := by
  obtain ⟨a, b, first, middle, last⟩ := run
  exact append (.next (.hooks first) (of_ticks middle)) (.next (.hooks last) .ended)

end Stretch

/-! ### Patient actors -/

/-- **Patient actors** leave timers, the register and the engine alone. -/
structure Reaction.Patient (react : Reaction γ) : Prop where
  pace : ∀ id, react.Keeps (.same (World.pace id))
  calm : react.Keeps .calm
  sparing : react.Keeps .sparing
  orderly : react.Keeps .orderly
  punctual : react.Keeps .punctual

/-- Actors who only take note are patient. -/
theorem Stage.react_patient (stage : Stage) (depth : Nat) :
    (stage.react .recording (depth + 1) : Reaction γ).Patient where
  pace id := by
    rw [react_recording]
    exact (World.aside_pace id).note
  calm := by
    rw [react_recording]
    exact World.aside_stopRequested.note
  sparing := stage.react_sparing (fun _ _ _ mem => by cases mem) _
  orderly := stage.react_orderly _ _
  punctual := stage.react_punctual (fun _ _ _ mem => by cases mem) _

/-- A world with an engine of some rate that calls the weather and goes on, and with cycles of some
interval, whose timers are on time. -/
structure World.Paced (tps interval : Int) (w : World γ) : Prop where
  rate : w.engine.tps = tps
  weather : .weather ∈ w.engine.systems
  going : w.engine.stopRequested = false
  interval : w.manager.config.changeInterval = interval
  registered : w.Registered
  punctual : w.Punctual

namespace World.Paced

variable {tps interval : Int} {w w' : World γ}

omit [RandomSource γ] in
theorem tickLength (h : w.Paced tps interval) : w.engine.tickLength = Engine.lengthOf tps :=
  congrArg Engine.lengthOf h.rate

omit [RandomSource γ] in
theorem rate_pos (h : w.Paced tps interval) : 0 < tps := h.rate ▸ w.engine.tps_pos

omit [RandomSource γ] in
theorem lengthOf_nonneg (h : w.Paced tps interval) : 0 ≤ Engine.lengthOf tps :=
  Engine.lengthOf_nonneg h.rate_pos

omit [RandomSource γ] in
/-- Every running cycle runs as it should. -/
theorem runs (h : w.Paced tps interval) {e : Value × CycleId}
    (mem : e ∈ w.manager.live.entries) :
    w.Runs e.1 e.2 ∧ (w.cycle e.2).timer.interval = interval :=
  ⟨.of_registered h.registered h.punctual mem, (h.registered.made mem).interval.trans h.interval⟩

omit [RandomSource γ] in
/-- What the engine did leaves the world as it should be, if it is still the same engine and still
going on. -/
theorem next (h : w.Paced tps interval) (orderly : w.Proceeds w') (punctual : w.StaysPunctual w')
    (rate : w'.engine.tps = w.engine.tps) (systems : w'.engine.systems = w.engine.systems)
    (going : w'.engine.stopRequested = w.engine.stopRequested) : w'.Paced tps interval := by
  obtain ⟨registered, deeds, story⟩ := orderly h.registered
  exact ⟨rate.trans h.rate, systems ▸ h.weather, going.trans h.going,
    (congrArg Config.changeInterval story.toGrows.config).trans h.interval, registered,
    punctual h.punctual⟩

end World.Paced

/-! ### What a phase does -/

section Phases

variable (patient : react.Patient) {tps interval : Int} {w w' : World γ}
include patient

theorem Phase.Leads.paced {p : Phase γ} (leads : p.Leads react rounds w w')
    (paced : w.Paced tps interval) : w'.Paced tps interval := by
  have orderly := Contract.permits_orderly (γ := γ).allows
  have punctual := Contract.allows_punctual (γ := γ)
  have updates := Manager.update_orderly patient.orderly
  have updates' := Manager.update_punctual patient.punctual
  cases leads with
  | @tick vs w w' tick =>
    have made : Engine.makeTick react rounds w = .ok () w' := Engine.makeTick_ok_iff.2 ⟨vs, tick⟩
    have engine := (tick.spares patient.sparing).engine
    refine paced.next ?_ ?_ (by rw [engine]; rfl) (by rw [engine]; rfl)
      (tick.calm patient.calm).1
    · exact (Engine.makeTick_keeps orderly patient.orderly updates rounds w).of_ok made
    · exact (Engine.makeTick_keeps punctual patient.punctual updates' rounds w).of_ok made
  | @hooks list vs w w' fired =>
    have made : Engine.fire react rounds list w = .ok () w' := Engine.fire_ok_iff.2 ⟨vs, fired⟩
    have engine := (fired.spares patient.sparing).engine
    refine paced.next ?_ ?_ (by rw [engine]) (by rw [engine]) (fired.calm patient.calm).1
    · exact (Engine.fire_keeps orderly patient.orderly updates rounds list w).of_ok made
    · exact (Engine.fire_keeps punctual patient.punctual updates' rounds list w).of_ok made

/-- At a tick all systems are called, the weather among them. -/
theorem Tick.visits {vs : List (Visit γ)} (tick : Tick react rounds w vs w')
    (paced : w.Paced tps interval) : vs.map Visit.system = w.engine.systems := by
  have turn := tick.inTurn patient.sparing fun spares => by rw [spares.engine]
  have all : vs.length = w.nextTick.engine.systems.length := by
    refine turn.done.resolve_right ?_
    rintro ⟨-, v, last, stopped⟩
    have calm := (tick.calm patient.calm).2 v (List.mem_of_getLast? last)
    rw [stopped] at calm
    exact absurd (calm.trans paced.going) (by decide)
  have calls := congrArg (List.map Prod.fst) turn.calls
  rw [List.drop_zero, all, List.take_length, List.map_map, List.map_map] at calls
  exact calls.trans (List.map_id _)

/-- **A phase brings an attempt of a cycle, or the timer gets on**, if it is a tick. -/
theorem Phase.Leads.awaits {p : Phase γ} (leads : p.Leads react rounds w w')
    (paced : w.Paced tps interval) {zone : Value} {id : CycleId} (runs : w.Runs zone id) :
    w.Awaits zone id (Engine.lengthOf tps) (∃ v ∈ p.visits, v.Attempts react id)
      (∀ v ∈ p.visits, v.Rests react id) (if p.isTick then Engine.lengthOf tps else 0) w' := by
  have nonneg := paced.lengthOf_nonneg
  have round {list : Engine γ → List System} {stoppable : Bool} {context : TickContext}
      {vs : List (Visit γ)} {v : World γ} (length : context.tickLength = Engine.lengthOf tps)
      (round : Round react list stoppable context rounds 0 v vs w') (same : v.pace id = w.pace id) :
      w.Awaits zone id (Engine.lengthOf tps) (∃ v ∈ vs, v.Attempts react id)
        (∀ v ∈ vs, v.Rests react id)
        (Engine.lengthOf tps * vs.countP (·.system = .weather)) w' := by
    rw [← length] at nonneg ⊢
    exact (round.awaits (patient.pace id) (runs.of_pace same) nonneg).of_pace same
  cases leads with
  | @tick vs w w' tick =>
    have one : 0 < vs.countP (·.system = .weather) := by
      have called : .weather ∈ vs.map Visit.system :=
        tick.visits patient paced ▸ paced.weather
      obtain ⟨v, mem, system⟩ := List.mem_map.1 called
      exact List.countP_pos_iff.2 ⟨v, mem, decide_eq_true system⟩
    have gain := Int.mul_le_mul_of_nonneg_left (Int.ofNat_le.2 one) nonneg
    exact (round paced.tickLength tick rfl).le (by simpa using gain)
  | @hooks list vs w w' fired =>
    have gain := Int.mul_nonneg nonneg (Int.natCast_nonneg (vs.countP (·.system = .weather)))
    exact (round paced.tickLength fired rfl).le (by simpa using gain)

/-! ### What a stretch does -/

namespace Stretch

variable {ps : List (Phase γ)}

theorem paced (h : Stretch react rounds w ps w') (paced : w.Paced tps interval) :
    w'.Paced tps interval := by
  induction h with
  | ended => exact paced
  | next leads rest ih => exact ih (leads.paced patient paced)

/-- **A stretch brings an attempt of a cycle, or the timer gets on** in every tick. -/
theorem awaits (h : Stretch react rounds w ps w') (paced : w.Paced tps interval) {zone : Value}
    {id : CycleId} (runs : w.Runs zone id) :
    w.Awaits zone id (Engine.lengthOf tps) (∃ p ∈ ps, ∃ v ∈ p.visits, v.Attempts react id)
      (∀ p ∈ ps, ∀ v ∈ p.visits, v.Rests react id)
      (Engine.lengthOf tps * ps.countP Phase.isTick) w' := by
  induction h with
  | ended => exact .inr ⟨by simp, by simp, by simpa using runs.waits⟩
  | @next p ps w v w' leads rest ih =>
    have first := leads.awaits patient paced runs
    have both := first.and_then (ih (leads.paced patient paced))
    refine both.congr (by simp only [List.mem_cons, exists_eq_or_imp])
      (fun rested => List.forall_mem_cons.2 rested) ?_
    cases tick : p.isTick <;> simp [tick, Int.mul_add, Int.add_comm]

/-- **In a stretch of as many ticks as the interval has milliseconds every cycle that is running at
its beginning makes an attempt, if and only if there are fewer than two thousand ticks in a
second.** If there are more, it always rests. -/
theorem attempts_iff (h : Stretch react rounds w ps w') (paced : w.Paced tps interval)
    (enough : interval ≤ ps.countP Phase.isTick) {e : Value × CycleId}
    (mem : e ∈ w.manager.live.entries) :
    ((∃ p ∈ ps, ∃ v ∈ p.visits, v.Attempts react e.2) ↔ tps < 2000) ∧
      (2000 ≤ tps → ∀ p ∈ ps, ∀ v ∈ p.visits, v.Rests react e.2) := by
  obtain ⟨runs, elapses⟩ := paced.runs mem
  rw [← Int.not_lt, ← Engine.lengthOf_pos_iff paced.rate_pos]
  have awaits := h.awaits patient paced runs
  refine ⟨awaits.attempt_iff runs fun pos => ?_, fun still => awaits.rests (Int.not_lt.1 still)⟩
  rw [elapses]
  have gain := Int.mul_le_mul_of_nonneg_right (Int.add_one_le_of_lt pos)
    (Int.natCast_nonneg (ps.countP Phase.isTick))
  omega

end Stretch

end Phases

/-! ### Driving an engine -/

omit [RandomSource γ] in
/-- A word by which an engine is driven. -/
inductive Drive where
  /-- Makes a single tick. -/
  | step
  /-- Makes some ticks. -/
  | run (count : Int)

namespace Drive

/-- What an engine does on such a word. -/
def perform (react : Reaction γ) (rounds : Nat) : Drive → Sim γ Unit
  | step => Engine.step react rounds
  | run count => Engine.run react rounds count

/-- The ticks that are asked for. -/
def ticks : Drive → Nat
  | step => 1
  | run count => count.toNat

/-- The phases to which such a word leads. -/
inductive Phases (react : Reaction γ) (rounds : Nat) :
    Drive → World γ → List (Phase γ) → World γ → Prop
  /-- A single tick is made. -/
  | step {w w' : World γ} {vs : List (Visit γ)}
      (tick : Tick react rounds (w.stopping false) vs w') :
      Phases react rounds step w [⟨true, vs⟩] w'
  /-- A run is made. -/
  | run {count : Int} {w w' : World γ} {j : Journal γ}
      (journal : j.OfRun react rounds count w w') :
      Phases react rounds (.run count) w j.phases w'

variable {w w' : World γ} {d : Drive} {ps : List (Phase γ)}

theorem perform_ok_iff : d.perform react rounds w = .ok () w' ↔
    ∃ ps, d.Phases react rounds w ps w' := by
  cases d with
  | step =>
    have cleared : (Engine.setStopping false : Sim γ Unit) w = .ok () (w.stopping false) := rfl
    rw [perform, Engine.step, Sim.bind_of_ok cleared, Engine.makeTick_ok_iff]
    refine ⟨fun ⟨_, tick⟩ => ⟨_, .step tick⟩, ?_⟩
    rintro ⟨_, phases⟩
    cases phases with
    | step tick => exact ⟨_, tick⟩
  | run count =>
    rw [perform, Engine.run_ok_iff]
    refine ⟨fun ⟨_, journal⟩ => ⟨_, .run journal⟩, ?_⟩
    rintro ⟨_, phases⟩
    cases phases with
    | run journal => exact ⟨_, journal⟩

theorem Phases.stretch (h : d.Phases react rounds w ps w') :
    Stretch react rounds (w.stopping false) ps w' := by
  cases h with
  | step tick => exact .next (.tick tick) .ended
  | run journal => exact .of_run journal

end Drive

/-- **The logbook of an engine that is driven** by some words, one after the other. -/
inductive Logbook (react : Reaction γ) (rounds : Nat) :
    List Drive → World γ → List (Phase γ) → World γ → Prop
  /-- No word was given. -/
  | nothing {w : World γ} : Logbook react rounds [] w [] w
  /-- A word was given, and then others. -/
  | drive {d : Drive} {ds : List Drive} {w v w' : World γ} {ps qs : List (Phase γ)}
      (phases : d.Phases react rounds w ps v) (rest : Logbook react rounds ds v qs w') :
      Logbook react rounds (d :: ds) w (ps ++ qs) w'

/-- **An engine that is driven returns if and only if there is a logbook.** -/
theorem Engine.drive_ok_iff {ds : List Drive} {w w' : World γ} :
    ds.forM (Drive.perform react rounds) w = .ok () w' ↔
      ∃ ps, Logbook react rounds ds w ps w' := by
  induction ds generalizing w with
  | nil =>
    refine ⟨fun h => ?_, ?_⟩
    · cases h
      exact ⟨[], .nothing⟩
    · rintro ⟨_, ⟨⟩⟩
      rfl
  | cons d ds ih =>
    rw [List.forM, Sim.bind_ok_iff]
    refine ⟨?_, ?_⟩
    · rintro ⟨_, v, first, rest⟩
      obtain ⟨ps, phases⟩ := Drive.perform_ok_iff.1 first
      obtain ⟨qs, book⟩ := ih.1 rest
      exact ⟨_, .drive phases book⟩
    · rintro ⟨_, book⟩
      cases book with
      | drive phases rest => exact ⟨(), _, Drive.perform_ok_iff.2 ⟨_, phases⟩, ih.2 ⟨_, rest⟩⟩

/-! ### The pace -/

omit [RandomSource γ] in
theorem World.stopping_self {w : World γ} {b : Bool} (h : w.engine.stopRequested = b) :
    w.stopping b = w := by
  subst h
  rfl

section Pace

variable (patient : react.Patient) {tps interval : Int}
include patient

/-- As many ticks are made as are asked for. -/
theorem Drive.Phases.ticks {d : Drive} {w w' : World γ} {ps : List (Phase γ)}
    (h : d.Phases react rounds w ps w') : ps.countP Phase.isTick = d.ticks := by
  cases h with
  | step tick => rfl
  | @run count w w' j journal =>
    obtain ⟨a, b, first, middle, last⟩ := journal
    have made := middle.length_eq patient.calm (first.calm patient.calm).1
    simp [Journal.phases, List.countP_map, Function.comp_def, made, Drive.ticks]

/-- An engine that is driven does one thing after the other, and all that is asked for. -/
theorem Logbook.stretch {ds : List Drive} {w w' : World γ} {ps : List (Phase γ)}
    (book : Logbook react rounds ds w ps w') (paced : (w.stopping false).Paced tps interval) :
    (∃ u, Stretch react rounds (w.stopping false) ps u) ∧
      ps.countP Phase.isTick = (ds.map Drive.ticks).sum := by
  induction book with
  | nothing => exact ⟨⟨_, .ended⟩, rfl⟩
  | @drive d ds w v w' ps qs phases rest ih =>
    have first := phases.stretch
    have paced' := first.paced patient paced
    have same : v.stopping false = v := World.stopping_self paced'.going
    rw [same] at ih
    obtain ⟨⟨u, later⟩, ticks⟩ := ih paced'
    exact ⟨⟨u, first.append later⟩, by
      rw [List.countP_append, phases.ticks patient, ticks, List.map_cons, List.sum_cons]⟩

end Pace

/-- **Weather at the pace of ticks.** An engine that calls the weather is driven by some words, and
it returns. All ticks are made; and of those, and of the hooks between them, consider some in a row
that begin with a tick and have as many ticks as the interval has milliseconds. Then there is a
first call, and **every cycle that is running at that call makes an attempt to roll its weather, if
and only if there are fewer than two thousand ticks in a second**, that is, if a tick takes a
millisecond at least. If there are more, every such cycle rests in all of its turns. -/
theorem Engine.drive_paced (stage : Stage) (depth : Nat) {w w' : World γ}
    (undisturbed : Undisturbed w) (weather : .weather ∈ w.engine.systems) {ds : List Drive}
    (returns : ds.forM (Drive.perform (stage.react .recording (depth + 1)) rounds) w = .ok () w') :
    let react := stage.react .recording (depth + 1)
    (1 ≤ w.engine.tickLength ↔ w.engine.tps < 2000) ∧
    ∃ ps, Logbook react rounds ds w ps w' ∧
      ps.countP Phase.isTick = (ds.map Drive.ticks).sum ∧
      ∀ before p after later, ps = before ++ (p :: after) ++ later → p.isTick = true →
        w.manager.config.changeInterval ≤ (p :: after).countP Phase.isTick →
        ∃ v, p.visits.head? = some v ∧ ∀ e ∈ v.before.manager.live.entries,
          ((∃ q ∈ p :: after, ∃ u ∈ q.visits, u.Attempts react e.2) ↔ w.engine.tps < 2000) ∧
            (2000 ≤ w.engine.tps → ∀ q ∈ p :: after, ∀ u ∈ q.visits, u.Rests react e.2) := by
  intro react
  have patient : react.Patient := stage.react_patient depth
  have paced : (w.stopping false).Paced w.engine.tps w.manager.config.changeInterval :=
    ⟨rfl, weather, rfl, rfl, undisturbed.reachable.registered, undisturbed.punctual⟩
  obtain ⟨ps, book⟩ := Engine.drive_ok_iff.1 returns
  obtain ⟨⟨u, stretch⟩, ticks⟩ := book.stretch patient paced
  refine ⟨Engine.lengthOf_pos_iff w.engine.tps_pos, ps, book, ticks, ?_⟩
  rintro before p after later rfl tick enough
  obtain ⟨c, upTo, -⟩ := stretch.split
  obtain ⟨b, first, window⟩ := upTo.split
  have paced := first.paced patient paced
  have law {e : Value × CycleId} (mem : e ∈ b.manager.live.entries) :=
    window.attempts_iff patient paced enough mem
  -- the window begins with a tick, and the weather is called in it
  cases window with
  | next leads rest =>
    cases leads with
    | hooks fired => cases tick
    | @tick vs _ _ tick =>
      have visits := tick.visits patient paced
      cases head : vs.head? with
      | none =>
        rw [List.head?_eq_none_iff.1 head] at visits
        exact absurd (visits ▸ paced.weather) List.not_mem_nil
      | some v =>
        refine ⟨v, rfl, fun e mem => law ?_⟩
        rwa [tick.head_before head] at mem

namespace BriskTicks

/-- An engine with two thousand ticks in a second, and weather that may change every other
millisecond. -/
def idle : World Script where
  clock := .fixed 100
  random := { integers := [0] }
  engine := { tps := 2000, tps_pos := by decide, random := {} }
  manager :=
    { data := ⟨[(.text "a", TwoZones.rainy)]⟩, config := ⟨2, 20, by decide, standardTps_pos⟩ }

/-- The weather is running, and the engine calls it. -/
def commands : List (Command Script) :=
  [.manager (.getOrCreate (.text "a")), .engine (.addSystem .weather)]

/-- The world in which the engine is driven. -/
def before : World Script := idle.afterAll {} .recording 1 commands

/-- The actors only take note. -/
def actors : Reaction Script := Stage.react {} .recording 1

/-- A step and then a run. -/
def words : List Drive := [.step, .run 1]

theorem returns : (words.forM (Drive.perform actors 3)).returns before = true := by decide +kernel

theorem running : before.manager.live.values = [⟨0⟩] := by decide +kernel

theorem wired : before.engine.systems = [.weather] ∧ before.engine.tps = 2000 ∧
    before.manager.config.changeInterval = 2 := by
  decide +kernel

theorem undisturbed : Undisturbed before := by
  have none : Behaviour.recording.LeavesTimers (γ := Script) := fun _ _ _ mem => by cases mem
  refine .afterAll (.start rfl) {} none 1 commands fun c mem => ?_
  rcases List.mem_pair.1 mem with rfl | rfl <;> trivial

end BriskTicks

/-- In two ticks at such a rate there is no attempt, though the interval has two milliseconds; the
cycle always rests. -/
theorem Engine.drive_paced_brisk : ∃ w' ps,
    BriskTicks.words.forM (Drive.perform BriskTicks.actors 3) BriskTicks.before = .ok () w' ∧
      Logbook BriskTicks.actors 3 BriskTicks.words BriskTicks.before ps w' ∧
      ps.countP Phase.isTick = 2 ∧
      (¬∃ q ∈ ps, ∃ u ∈ q.visits, u.Attempts BriskTicks.actors ⟨0⟩) ∧
      ∀ q ∈ ps, ∀ u ∈ q.visits, u.Rests BriskTicks.actors ⟨0⟩ := by
  obtain ⟨systems, rate, interval⟩ := BriskTicks.wired
  have weather : .weather ∈ BriskTicks.before.engine.systems := by simp [systems]
  obtain ⟨⟨⟩, returned⟩ := Sim.ok_of_returns BriskTicks.returns
  obtain ⟨-, ps, book, ticks, law⟩ :=
    Engine.drive_paced {} 0 BriskTicks.undisturbed weather returned
  refine ⟨_, ps, returned, book, ticks, ?_⟩
  rw [interval, rate] at law
  cases book with
  | @drive _ _ _ _ _ _ qs phases rest =>
    cases phases with
    | @step _ _ vs tick =>
      let first : Phase Script := ⟨true, vs⟩
      have enough : (2 : Int) ≤ (first :: qs).countP Phase.isTick := by
        rw [show (first :: qs).countP Phase.isTick = 2 from ticks]
        decide
      obtain ⟨v, head, attempts⟩ := law [] first qs [] (by simp [first]) rfl enough
      rw [tick.head_before head] at attempts
      have running : ⟨0⟩ ∈ BriskTicks.before.manager.live.values := by
        simp [BriskTicks.running]
      obtain ⟨e, mem, id⟩ := List.mem_map.1 running
      obtain ⟨none, rests⟩ := attempts e mem
      rw [id] at none rests
      exact ⟨fun made => absurd (none.1 made) (by decide), rests le_rfl⟩

end Microclimate
