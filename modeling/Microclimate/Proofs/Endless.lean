import Microclimate.Actor
import Microclimate.Proofs.Journals
import Microclimate.Random.Script

/-!
# Runs without an end

A run that is to make some ticks looks after every tick whether a stop is requested; a run without
an end looks before every tick. So the two do the same, as long as there are enough ticks, if the
start hooks leave no request behind. If they do, the run without an end is called off. The other one
makes a tick all the same, unless it is to make none.

* `Microclimate.EndlessTicks`, `Microclimate.Journal.OfEndlessRun` – what a run without an end comes
  to, with `Microclimate.Engine.runForever_ok_iff`;
* `Microclimate.Journal.CalledOff` – the start hooks leave a request behind;
* `Microclimate.Engine.runForever_agrees` – **the two kinds of runs agree unless they are called
  off.**
-/

namespace Microclimate

variable {γ : Type}

/-- A run is called off: at the return of the last start hook a stop is requested. -/
def Journal.CalledOff (j : Journal γ) : Prop := ∃ v ∈ j.starts.getLast?, v.stopped = true

variable [RandomSource γ]

/-- **Ticks without an end**: they are made as long as no stop is requested. -/
inductive EndlessTicks (react : Reaction γ) (rounds : Nat) :
    (left : Nat) → World γ → List (List (Visit γ)) → World γ → Prop
  /-- A stop is requested. -/
  | halted {left : Nat} {w : World γ} (stop : w.engine.stopRequested = true) :
      EndlessTicks react rounds (left + 1) w [] w
  /-- No stop is requested, and a tick is made. -/
  | next {left : Nat} {w v w' : World γ} {vs : List (Visit γ)} {ticks : List (List (Visit γ))}
      (go : w.engine.stopRequested = false) (tick : Tick react rounds w vs v)
      (rest : EndlessTicks react rounds left v ticks w') :
      EndlessTicks react rounds (left + 1) w (vs :: ticks) w'

/-- **The journal of a run without an end** that begins in the world `w` and returns in `w'`. -/
def Journal.OfEndlessRun (react : Reaction γ) (rounds : Nat) (w : World γ) (j : Journal γ)
    (w' : World γ) : Prop :=
  ∃ a b, Firing react rounds Engine.startHooks (w.stopping false) j.starts a ∧
    EndlessTicks react rounds rounds a j.ticks b ∧
      Firing react rounds Engine.stopHooks b j.stops w'

variable {react : Reaction γ} {rounds : Nat} {w w' u' : World γ}

namespace Engine

theorem makeTicksForever_ok_iff {left : Nat} :
    makeTicksForever react rounds left w = .ok () w' ↔
      ∃ ticks, EndlessTicks react rounds left w ticks w' := by
  induction left generalizing w with
  | zero =>
    refine ⟨fun h => ?_, ?_⟩
    · cases h
    · rintro ⟨_, ticks⟩
      cases ticks
  | succ left ih =>
    have asked : (isStopping : Sim γ Bool) w = .ok w.engine.stopRequested w := rfl
    rw [makeTicksForever, Sim.bind_of_ok asked]
    refine ⟨fun h => ?_, ?_⟩
    · split at h
      next stop =>
        cases h
        exact ⟨[], .halted stop⟩
      next go =>
        obtain ⟨_, v, made, later⟩ := Sim.bind_ok_iff.1 h
        obtain ⟨vs, tick⟩ := makeTick_ok_iff.1 made
        obtain ⟨ticks, rest⟩ := ih.1 later
        exact ⟨_, .next (Bool.eq_false_iff.2 go) tick rest⟩
    · rintro ⟨_, ticks⟩
      cases ticks with
      | halted stop =>
        rw [if_pos stop]
        rfl
      | next go tick rest =>
        rw [if_neg (Bool.eq_false_iff.1 go)]
        exact Sim.bind_ok_iff.2 ⟨(), _, makeTick_ok_iff.2 ⟨_, tick⟩, ih.2 ⟨_, rest⟩⟩

/-- **A run without an end returns if and only if it has a journal.** -/
theorem runForever_ok_iff :
    runForever react rounds w = .ok () w' ↔
      ∃ j : Journal γ, j.OfEndlessRun react rounds w w' := by
  have cleared : (setStopping false : Sim γ Unit) w = .ok () (w.stopping false) := rfl
  rw [runForever, Sim.bind_of_ok cleared, Sim.bind_ok_iff]
  refine ⟨?_, ?_⟩
  · rintro ⟨_, a, started, rest⟩
    obtain ⟨_, b, ticked, stopped⟩ := Sim.bind_ok_iff.1 rest
    obtain ⟨starts, first⟩ := fire_ok_iff.1 started
    obtain ⟨ticks, middle⟩ := makeTicksForever_ok_iff.1 ticked
    obtain ⟨stops, last⟩ := fire_ok_iff.1 stopped
    exact ⟨⟨starts, ticks, stops⟩, a, b, first, middle, last⟩
  · rintro ⟨j, a, b, first, middle, last⟩
    refine ⟨(), a, fire_ok_iff.2 ⟨_, first⟩, Sim.bind_ok_iff.2 ⟨(), b, ?_, ?_⟩⟩
    · exact makeTicksForever_ok_iff.2 ⟨_, middle⟩
    · exact fire_ok_iff.2 ⟨_, last⟩

end Engine

theorem EndlessTicks.unique {left : Nat} {ticks more : List (List (Visit γ))}
    (h : EndlessTicks react rounds left w ticks w')
    (other : EndlessTicks react rounds left w more u') : more = ticks ∧ u' = w' := by
  induction h generalizing more with
  | halted stop =>
    cases other with
    | halted => exact ⟨rfl, rfl⟩
    | next go => simp [stop] at go
  | next go tick rest ih =>
    cases other with
    | halted stop => simp [stop] at go
    | next go' tick' rest' =>
      obtain ⟨rfl, rfl⟩ := Round.unique tick tick'
      obtain ⟨rfl, rfl⟩ := ih rest'
      exact ⟨rfl, rfl⟩

/-- **A run without an end has only one journal.** -/
theorem Journal.OfEndlessRun.unique {j k : Journal γ} (h : j.OfEndlessRun react rounds w w')
    (other : k.OfEndlessRun react rounds w u') : k = j ∧ u' = w' := by
  obtain ⟨a, b, first, middle, last⟩ := h
  obtain ⟨_, _, first', middle', last'⟩ := other
  obtain ⟨starts, rfl⟩ := Round.unique first first'
  obtain ⟨ticks, rfl⟩ := middle.unique middle'
  obtain ⟨stops, rfl⟩ := Round.unique last last'
  cases j
  cases k
  simp_all

/-- After a round a stop is requested if it was at the return of the last visit. -/
theorem Round.stopRequested_eq {list : Engine γ → List System} {stoppable : Bool}
    {context : TickContext} {place : Nat} {vs : List (Visit γ)}
    (h : Round react list stoppable context rounds place w vs w') :
    w'.engine.stopRequested = (vs.getLast?.map Visit.stopped).getD w.engine.stopRequested := by
  induction h with
  | ended nothing => rfl
  | cut stands returns stop => rfl
  | @next _ _ _ _ _ _ vs stands returns go rest ih =>
    rw [ih, List.getLast?_cons]
    cases vs.getLast? <;> rfl

/-- A run is called off if and only if a stop is requested when its ticks are to begin. -/
theorem Journal.calledOff_iff {hooks : Engine γ → List System} {j : Journal γ} {a : World γ}
    (first : Firing react rounds hooks (w.stopping false) j.starts a) :
    j.CalledOff ↔ a.engine.stopRequested = true := by
  have last := first.stopRequested_eq
  rw [last, CalledOff]
  cases j.starts.getLast? with
  | none => simp [World.stopping]
  | some v => simp

/-- If a stop is requested before, no tick is made. -/
theorem EndlessTicks.none {left : Nat} {ticks : List (List (Visit γ))}
    (h : EndlessTicks react rounds left w ticks w') (stop : w.engine.stopRequested = true) :
    ticks = [] ∧ w' = w := by
  cases h with
  | halted => exact ⟨rfl, rfl⟩
  | next go => simp [stop] at go

theorem EndlessTicks.length_lt {left : Nat} {ticks : List (List (Visit γ))}
    (h : EndlessTicks react rounds left w ticks w') : ticks.length < left := by
  induction h with
  | halted => simp
  | next _ _ _ ih => exact Nat.succ_lt_succ ih

/-- Ticks without an end are some ticks, if there are enough of them and no stop is requested
before. -/
theorem EndlessTicks.counted {left : Nat} {ticks : List (List (Visit γ))}
    (h : EndlessTicks react rounds left w ticks w') (go : w.engine.stopRequested = false)
    {count : Nat} (enough : ticks.length ≤ count) : Ticks react rounds count w ticks w' := by
  induction h generalizing count with
  | halted stop => simp [stop] at go
  | next _ tick rest ih =>
    cases count with
    | zero => simp at enough
    | succ count =>
      -- one loop looks for a request after this tick, the other one before the next
      cases rest with
      | halted stop => exact .cut tick stop
      | next go' tick' rest' => exact .next tick go' (ih go' (Nat.le_of_succ_le_succ enough))

/-- **Runs of both kinds agree unless they are called off.** A run without an end that returns has a
journal. It is the journal of every run of as many ticks or more, and that run returns in the same
world – unless the start hooks leave a request to stop behind. Then no tick is made in the run
without an end, and at least one in every other run that is to make some. -/
theorem Engine.runForever_agrees (h : runForever react rounds w = .ok () w') :
    ∃ j : Journal γ, j.OfEndlessRun react rounds w w' ∧ ∀ count : Int, j.ticks.length ≤ count →
      (¬(j.CalledOff ∧ 0 < count) →
        run react rounds count w = .ok () w' ∧ j.OfRun react rounds count w w') ∧
      (j.CalledOff ∧ 0 < count → j.ticks = [] ∧
        ∀ (k : Journal γ) (u' : World γ), k.OfRun react rounds count w u' →
          k.starts = j.starts ∧ k.ticks ≠ []) := by
  obtain ⟨j, journal⟩ := runForever_ok_iff.1 h
  refine ⟨j, journal, fun count enough => ?_⟩
  obtain ⟨a, b, first, middle, last⟩ := journal
  have off := Journal.calledOff_iff first
  refine ⟨fun on => ?_, fun ⟨called, positive⟩ => ⟨(middle.none (off.1 called)).1, ?_⟩⟩
  · have ticks : Ticks react rounds count.toNat a j.ticks b := by
      by_cases called : j.CalledOff
      · obtain ⟨none, rfl⟩ := middle.none (off.1 called)
        have zero : count.toNat = 0 :=
          Int.toNat_eq_zero.2 (Int.not_lt.1 fun positive => on ⟨called, positive⟩)
        rw [none, zero]
        exact .all
      · exact middle.counted (Bool.eq_false_iff.2 (called ∘ off.2)) (by omega)
    have run : j.OfRun react rounds count w w' := ⟨a, b, first, ticks, last⟩
    exact ⟨run_ok_iff.2 ⟨j, run⟩, run⟩
  · rintro k u' ⟨a', b', first', middle', -⟩
    refine ⟨(Round.unique first first').1, fun none => ?_⟩
    obtain ⟨n, more⟩ : ∃ n, count.toNat = n + 1 := ⟨count.toNat - 1, by omega⟩
    rw [none, more] at middle'
    cases middle'

namespace HeldUp

/-- An engine with a system, and a hook that asks for a stop before the first tick. -/
def before : World Script where
  random := {}
  engine := { tps_pos := standardTps_pos, random := {}, systems := [.actor "s"],
              startHooks := [.actor "h"] }

/-- The hook asks for a stop. -/
def behaviour : Behaviour Script := fun call _ =>
  match call with
  | .tick "h" _ => [{ command := .actor .stop }]
  | _ => []

/-- The actors. -/
def actors : Reaction Script := Stage.react {} behaviour 1

theorem runForever_returns : (Engine.runForever actors 4).returns before = true := by decide +kernel

theorem ticks_differ : ((Engine.runForever actors 4).worldLeft before).engine.tick = 0 ∧
    ((Engine.run actors 4 3).worldLeft before).engine.tick = 1 := by
  decide +kernel

end HeldUp

/-- The run without an end is called off, and a run of three ticks makes one. -/
theorem Engine.runForever_agrees_calledOff : ∃ (j : Journal Script) (w' : World Script),
    runForever HeldUp.actors 4 HeldUp.before = .ok () w' ∧
      j.OfEndlessRun HeldUp.actors 4 HeldUp.before w' ∧ j.CalledOff ∧ j.ticks = [] ∧
        ∀ (k : Journal Script) (u' : World Script),
          k.OfRun HeldUp.actors 4 3 HeldUp.before u' → k.ticks ≠ [] := by
  obtain ⟨_, returned⟩ := Sim.ok_of_returns HeldUp.runForever_returns
  obtain ⟨j, endless, agrees⟩ := runForever_agrees returned
  have few : (j.ticks.length : Int) ≤ 3 := by
    obtain ⟨_, _, -, middle, -⟩ := endless
    exact Int.ofNat_le.2 (Nat.le_of_lt_succ middle.length_lt)
  obtain ⟨agree, off⟩ := agrees 3 few
  have called : j.CalledOff := by
    refine Classical.byContradiction fun on => ?_
    have same := (agree fun called => on called.1).1
    have left : (run HeldUp.actors 4 3).worldLeft HeldUp.before =
        (runForever HeldUp.actors 4).worldLeft HeldUp.before := by
      rw [Sim.worldLeft, same]
    have differ := HeldUp.ticks_differ
    rw [left] at differ
    omega
  obtain ⟨none, more⟩ := off ⟨called, by decide⟩
  exact ⟨j, _, returned, endless, called, none, fun k u' other => (more k u' other).2⟩

end Microclimate
