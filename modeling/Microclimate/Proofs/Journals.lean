import Microclimate.Engine.Run
import Microclimate.Proofs.Outcome

/-!
# Journals of an engine

The journal of a run lists the calls that the engine makes: those of the start hooks, then those of
the systems, tick by tick, then those of the stop hooks. A run returns if and only if it has a
journal, and it has only one.

The relations that say so follow the loops of the engine literally and ask nothing of whoever is
called. In particular the lists may change while they are gone through, and anybody may ask the
engine to stop, or no longer to stop.

* `Microclimate.Visit` – a call of a system, with the worlds before and after it;
* `Microclimate.Round`, `Microclimate.Ticks` – what the loops of an engine come to;
* `Microclimate.Journal`, `Microclimate.Journal.OfRun`;
* `Microclimate.Engine.run_ok_iff` – **a run returns if and only if it has a journal**, with
  `Microclimate.Journal.OfRun.unique`.
-/

namespace Microclimate

variable {γ : Type}

/-! ### Visits -/

/-- A call of a system that returned. -/
structure Visit (γ : Type) where
  /-- What was called. -/
  system : System
  /-- What it was told. -/
  context : TickContext
  /-- The world in which it was called. -/
  before : World γ
  /-- The world in which it returned. -/
  after : World γ

/-- What was called, and what it was told. -/
def Visit.call (v : Visit γ) : System × TickContext := (v.system, v.context)

/-- Has a stop been requested by the time that the call returned? -/
def Visit.stopped (v : Visit γ) : Bool := v.after.engine.stopRequested

/-- The world in which the next tick begins. -/
def World.nextTick (w : World γ) : World γ :=
  { w with engine := { w.engine with tick := w.engine.tick + 1 } }

/-- The world in which it is said whether a stop is requested. -/
def World.stopping (w : World γ) (b : Bool) : World γ :=
  { w with engine := { w.engine with stopRequested := b } }

variable [RandomSource γ]

/-- **A round** through a list of the engine, from some place on. With `stoppable` it ends with the
first visit at whose end a stop is requested. -/
inductive Round (react : Reaction γ) (list : Engine γ → List System) (stoppable : Bool)
    (context : TickContext) : (rounds place : Nat) → World γ → List (Visit γ) → World γ → Prop
  /-- Nothing more stands in the list. -/
  | ended {rounds place : Nat} {w : World γ} (nothing : (list w.engine)[place]? = none) :
      Round react list stoppable context (rounds + 1) place w [] w
  /-- A visit ends the round. -/
  | cut {rounds place : Nat} {w v : World γ} {system : System}
      (stands : (list w.engine)[place]? = some system)
      (returns : system.call react context w = .ok () v)
      (stop : (stoppable && v.engine.stopRequested) = true) :
      Round react list stoppable context (rounds + 1) place w [⟨system, context, w, v⟩] v
  /-- A visit is made, and the round goes on. -/
  | next {rounds place : Nat} {w v w' : World γ} {system : System} {vs : List (Visit γ)}
      (stands : (list w.engine)[place]? = some system)
      (returns : system.call react context w = .ok () v)
      (go : (stoppable && v.engine.stopRequested) = false)
      (rest : Round react list stoppable context rounds (place + 1) v vs w') :
      Round react list stoppable context (rounds + 1) place w (⟨system, context, w, v⟩ :: vs) w'

/-- A tick: a round through the systems, with the number of the tick. -/
def Tick (react : Reaction γ) (rounds : Nat) (w : World γ) (vs : List (Visit γ)) (w' : World γ) :
    Prop :=
  Round react Engine.systems true w.nextTick.engine.context rounds 0 w.nextTick vs w'

/-- Hooks that are called: a round that does not end before the list does. -/
def Firing (react : Reaction γ) (rounds : Nat) (hooks : Engine γ → List System) (w : World γ)
    (vs : List (Visit γ)) (w' : World γ) : Prop :=
  Round react hooks false w.engine.context rounds 0 w vs w'

/-- **Some ticks**, up to the first one at whose end a stop is requested. -/
inductive Ticks (react : Reaction γ) (rounds : Nat) :
    (count : Nat) → World γ → List (List (Visit γ)) → World γ → Prop
  /-- No tick is left. -/
  | all {w : World γ} : Ticks react rounds 0 w [] w
  /-- A tick at whose end a stop is requested. -/
  | cut {count : Nat} {w w' : World γ} {vs : List (Visit γ)} (tick : Tick react rounds w vs w')
      (stop : w'.engine.stopRequested = true) : Ticks react rounds (count + 1) w [vs] w'
  /-- A tick, and more to come. -/
  | next {count : Nat} {w v w' : World γ} {vs : List (Visit γ)} {ticks : List (List (Visit γ))}
      (tick : Tick react rounds w vs v) (go : v.engine.stopRequested = false)
      (rest : Ticks react rounds count v ticks w') :
      Ticks react rounds (count + 1) w (vs :: ticks) w'

/-! ### Journals -/

omit [RandomSource γ] in
/-- The calls that an engine makes in a run. -/
structure Journal (γ : Type) where
  /-- Those of the start hooks. -/
  starts : List (Visit γ)
  /-- Those of the systems, tick by tick. -/
  ticks : List (List (Visit γ))
  /-- Those of the stop hooks. -/
  stops : List (Visit γ)

/-- **The journal of a run** of some ticks that begins in the world `w` and returns in `w'`. -/
def Journal.OfRun (react : Reaction γ) (rounds : Nat) (count : Int) (w : World γ) (j : Journal γ)
    (w' : World γ) : Prop :=
  ∃ a b, Firing react rounds Engine.startHooks (w.stopping false) j.starts a ∧
    Ticks react rounds count.toNat a j.ticks b ∧ Firing react rounds Engine.stopHooks b j.stops w'

namespace Engine

variable {react : Reaction γ}

/-- Going through a list from a place on, step by step. -/
theorem callFrom_succ {list : Engine γ → List System} {stoppable : Bool} {context : TickContext}
    {rounds place : Nat} {w w' : World γ} :
    callFrom react list stoppable context (rounds + 1) place w = .ok () w' ↔
      match (list w.engine)[place]? with
      | none => w = w'
      | some system => ∃ v, system.call react context w = .ok () v ∧
          if (stoppable && v.engine.stopRequested) = true then v = w'
          else callFrom react list stoppable context rounds (place + 1) v = .ok () w' := by
  have asked (v : World γ) : (isStopping : Sim γ Bool) v = .ok v.engine.stopRequested v := rfl
  have done {v : World γ} : (pure () : Sim γ Unit) v = .ok () w' ↔ v = w' :=
    ⟨fun h => by cases h; rfl, fun h => by rw [h]; rfl⟩
  rw [callFrom, Sim.get_bind]
  cases (list w.engine)[place]? with
  | none => exact done
  | some system =>
    refine Sim.bind_ok_iff.trans ⟨?_, ?_⟩
    · rintro ⟨_, v, run, rest⟩
      refine ⟨v, run, ?_⟩
      rw [Sim.bind_of_ok (asked v)] at rest
      split at rest
      next stop => rwa [if_pos stop, ← done]
      next go => rwa [if_neg go]
    · rintro ⟨v, run, rest⟩
      refine ⟨(), v, run, ?_⟩
      rw [Sim.bind_of_ok (asked v)]
      split at rest
      next stop => rwa [if_pos stop, done]
      next go => rwa [if_neg go]

/-- Going through a list returns if and only if there is a round. -/
theorem callFrom_ok_iff {list : Engine γ → List System} {stoppable : Bool} {context : TickContext}
    {rounds place : Nat} {w w' : World γ} :
    callFrom react list stoppable context rounds place w = .ok () w' ↔
      ∃ vs, Round react list stoppable context rounds place w vs w' := by
  induction rounds generalizing place w with
  | zero =>
    refine ⟨fun h => ?_, ?_⟩
    · cases h
    · rintro ⟨vs, round⟩
      cases round
  | succ rounds ih =>
    rw [callFrom_succ]
    refine ⟨fun h => ?_, ?_⟩
    · split at h
      next nothing =>
        subst h
        exact ⟨[], .ended nothing⟩
      next system stands =>
        obtain ⟨v, run, rest⟩ := h
        split at rest
        next stop =>
          subst rest
          exact ⟨_, .cut stands run stop⟩
        next go =>
          obtain ⟨vs, round⟩ := ih.1 rest
          exact ⟨_, .next stands run (Bool.eq_false_iff.2 go) round⟩
    · rintro ⟨vs, round⟩
      cases round with
      | ended nothing => rw [nothing]
      | cut stands run stop =>
        rw [stands]
        exact ⟨_, run, (if_pos stop).mpr rfl⟩
      | next stands run go rest =>
        rw [stands]
        exact ⟨_, run, (if_neg (Bool.eq_false_iff.1 go)).mpr (ih.2 ⟨_, rest⟩)⟩

theorem makeTick_ok_iff {rounds : Nat} {w w' : World γ} :
    makeTick react rounds w = .ok () w' ↔ ∃ vs, Tick react rounds w vs w' := by
  exact callFrom_ok_iff (w := w.nextTick)

theorem fire_ok_iff {rounds : Nat} {hooks : Engine γ → List System} {w w' : World γ} :
    fire react rounds hooks w = .ok () w' ↔ ∃ vs, Firing react rounds hooks w vs w' := by
  exact callFrom_ok_iff

/-- Making ticks returns if and only if there are ticks. -/
theorem makeTicks_ok_iff {rounds count : Nat} {w w' : World γ} :
    makeTicks react rounds count w = .ok () w' ↔ ∃ ticks, Ticks react rounds count w ticks w' := by
  induction count generalizing w with
  | zero =>
    refine ⟨fun h => ?_, ?_⟩
    · cases h
      exact ⟨[], .all⟩
    · rintro ⟨_, ticks⟩
      cases ticks
      rfl
  | succ count ih =>
    have asked (v : World γ) : (isStopping : Sim γ Bool) v = .ok v.engine.stopRequested v := rfl
    rw [makeTicks, Sim.bind_ok_iff]
    refine ⟨?_, ?_⟩
    · rintro ⟨_, v, run, rest⟩
      obtain ⟨vs, tick⟩ := makeTick_ok_iff.1 run
      rw [Sim.bind_of_ok (asked v)] at rest
      split at rest
      next stop =>
        cases rest
        exact ⟨_, .cut tick stop⟩
      next go =>
        obtain ⟨ticks, later⟩ := ih.1 rest
        exact ⟨_, .next tick (Bool.eq_false_iff.2 go) later⟩
    · rintro ⟨_, ticks⟩
      cases ticks with
      | cut tick stop =>
        refine ⟨(), w', makeTick_ok_iff.2 ⟨_, tick⟩, ?_⟩
        rw [Sim.bind_of_ok (asked w'), if_pos stop]
        rfl
      | @next _ _ v _ _ _ tick go later =>
        refine ⟨(), v, makeTick_ok_iff.2 ⟨_, tick⟩, ?_⟩
        rw [Sim.bind_of_ok (asked v), if_neg (Bool.eq_false_iff.1 go)]
        exact ih.2 ⟨_, later⟩

end Engine

section Uniqueness

variable {react : Reaction γ} {rounds : Nat} {w w' u' : World γ}

theorem Round.unique {list : Engine γ → List System} {stoppable : Bool} {context : TickContext}
    {place : Nat} {vs us : List (Visit γ)}
    (h : Round react list stoppable context rounds place w vs w')
    (other : Round react list stoppable context rounds place w us u') : us = vs ∧ u' = w' := by
  have same {place : Nat} {w v u : World γ} {system found : System}
      (stands : (list w.engine)[place]? = some system)
      (stands' : (list w.engine)[place]? = some found)
      (returns : system.call react context w = .ok () v)
      (returns' : found.call react context w = .ok () u) : found = system ∧ u = v := by
    obtain rfl := Option.some.inj (stands'.symm.trans stands)
    rw [returns] at returns'
    cases returns'
    exact ⟨rfl, rfl⟩
  induction h generalizing us with
  | ended nothing =>
    cases other with
    | ended => exact ⟨rfl, rfl⟩
    | cut stands => simp [nothing] at stands
    | next stands => simp [nothing] at stands
  | cut stands returns stop =>
    cases other with
    | ended nothing => simp [nothing] at stands
    | cut stands' returns' =>
      obtain ⟨rfl, rfl⟩ := same stands stands' returns returns'
      exact ⟨rfl, rfl⟩
    | next stands' returns' go =>
      obtain ⟨rfl, rfl⟩ := same stands stands' returns returns'
      simp [stop] at go
  | next stands returns go rest ih =>
    cases other with
    | ended nothing => simp [nothing] at stands
    | cut stands' returns' stop =>
      obtain ⟨rfl, rfl⟩ := same stands stands' returns returns'
      simp [stop] at go
    | next stands' returns' go' rest' =>
      obtain ⟨rfl, rfl⟩ := same stands stands' returns returns'
      obtain ⟨rfl, rfl⟩ := ih rest'
      exact ⟨rfl, rfl⟩

theorem Ticks.unique {count : Nat} {ticks more : List (List (Visit γ))}
    (h : Ticks react rounds count w ticks w') (other : Ticks react rounds count w more u') :
    more = ticks ∧ u' = w' := by
  induction h generalizing more with
  | all =>
    cases other
    exact ⟨rfl, rfl⟩
  | cut tick stop =>
    cases other with
    | cut tick' =>
      obtain ⟨rfl, rfl⟩ := Round.unique tick tick'
      exact ⟨rfl, rfl⟩
    | next tick' go =>
      obtain ⟨rfl, rfl⟩ := Round.unique tick tick'
      simp [stop] at go
  | next tick go rest ih =>
    cases other with
    | cut tick' stop =>
      obtain ⟨rfl, rfl⟩ := Round.unique tick tick'
      simp [stop] at go
    | next tick' go' rest' =>
      obtain ⟨rfl, rfl⟩ := Round.unique tick tick'
      obtain ⟨rfl, rfl⟩ := ih rest'
      exact ⟨rfl, rfl⟩

/-- **A run has only one journal.** -/
theorem Journal.OfRun.unique {count : Int} {j k : Journal γ} (h : j.OfRun react rounds count w w')
    (other : k.OfRun react rounds count w u') : k = j ∧ u' = w' := by
  obtain ⟨a, b, first, middle, last⟩ := h
  obtain ⟨_, _, first', middle', last'⟩ := other
  obtain ⟨starts, rfl⟩ := Round.unique first first'
  obtain ⟨ticks, rfl⟩ := middle.unique middle'
  obtain ⟨stops, rfl⟩ := Round.unique last last'
  cases j
  cases k
  simp_all

end Uniqueness

/-- **A run returns if and only if it has a journal.** -/
theorem Engine.run_ok_iff {react : Reaction γ} {rounds : Nat} {count : Int} {w w' : World γ} :
    run react rounds count w = .ok () w' ↔
      ∃ j : Journal γ, j.OfRun react rounds count w w' := by
  have cleared : (setStopping false : Sim γ Unit) w = .ok () (w.stopping false) := rfl
  rw [run, Sim.bind_of_ok cleared, Sim.bind_ok_iff]
  refine ⟨?_, ?_⟩
  · rintro ⟨_, a, started, rest⟩
    obtain ⟨_, b, ticked, stopped⟩ := Sim.bind_ok_iff.1 rest
    obtain ⟨starts, first⟩ := fire_ok_iff.1 started
    obtain ⟨ticks, middle⟩ := makeTicks_ok_iff.1 ticked
    obtain ⟨stops, last⟩ := fire_ok_iff.1 stopped
    exact ⟨⟨starts, ticks, stops⟩, a, b, first, middle, last⟩
  · rintro ⟨j, a, b, first, middle, last⟩
    refine ⟨(), a, fire_ok_iff.2 ⟨_, first⟩, Sim.bind_ok_iff.2 ⟨(), b, ?_, ?_⟩⟩
    · exact makeTicks_ok_iff.2 ⟨_, middle⟩
    · exact fire_ok_iff.2 ⟨_, last⟩

end Microclimate
