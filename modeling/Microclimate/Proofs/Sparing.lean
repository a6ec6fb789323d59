import Mathlib
import Microclimate.Proofs.Journals
import Microclimate.Proofs.Steps
import Microclimate.Random.Script

/-!
# What a run calls

Systems and hooks may ask the engine to stop, and they may draw from its source. If that is all that
they do to it, the journal of a run can be told in advance, up to the moment at which a stop is
requested. A request counts at the end of the tick in which it comes; one that comes from a start
hook lets the first tick begin, but no second system be called in it.

* `Microclimate.Contract.sparing` – what actors do who spare the engine;
* `Microclimate.Visit.InTurn` – systems are called in order, up to the first one at whose return a
  stop has been requested;
* `Microclimate.Journal.Orderly` – what a run calls;
* `Microclimate.Engine.run_orderly` – **the journal of every run is like that**.
-/

namespace Microclimate

variable {γ : Type}

/-! ### Actors who spare the engine -/

/-- An engine was spared: if anything was done to it, then a stop was requested or something was
drawn from its source. -/
structure World.Spares (w w' : World γ) : Prop where
  engine : w'.engine = { w.engine with
    stopRequested := w'.engine.stopRequested, random := w'.engine.random }
  stop : w.engine.stopRequested = true → w'.engine.stopRequested = true

namespace World.Spares

theorem of_engine {w w' : World γ} (h : w'.engine = w.engine) : w.Spares w' :=
  ⟨by rw [h], by rw [h]; exact id⟩

theorem trans {a b c : World γ} (h : a.Spares b) (h' : b.Spares c) : a.Spares c :=
  ⟨by rw [h'.engine, h.engine], h'.stop ∘ h.stop⟩

theorem setSource (w : World γ) (owner : Owner) (g : γ) : w.Spares (w.setSource owner g) := by
  cases owner <;> exact ⟨rfl, id⟩

end World.Spares

/-- **What actors do who spare the engine.** Nothing is asked of them if they fail. -/
def Contract.sparing : Contract γ where
  good := World.Spares
  bad _ _ _ := True
  refl _ := .of_engine rfl
  trans := .trans
  bad_trans _ _ := trivial

theorem Sim.draw_sparing {α : Type} (owner : Owner) (d : EStateM Fault γ α)
    (event : Option α → Event) : (Sim.draw owner d event).Keeps .sparing := by
  intro w
  rw [Sim.ends_draw]
  split
  · exact (World.Spares.setSource w owner _).trans (.of_engine rfl)
  · trivial

/-! ### Ticks that were made -/

/-- An engine made some ticks, and was spared otherwise. -/
def World.HasTicked (k : Nat) (w w' : World γ) : Prop :=
  ∃ stop random, w'.engine =
    { w.engine with tick := w.engine.tick + k, stopRequested := stop, random := random }

/-- What systems are told when an engine has made some more ticks. -/
def Engine.contextAt (e : Engine γ) (k : Nat) : TickContext :=
  ⟨e.tick + k, e.tickLength, (e.tick + k) * e.tickLength⟩

theorem Engine.contextAt_zero (e : Engine γ) : e.contextAt 0 = e.context := by
  simp [contextAt, context]

namespace World.HasTicked

variable {k l : Nat} {w w' : World γ}

theorem of_spares (h : w.Spares w') : w.HasTicked 0 w' :=
  ⟨w'.engine.stopRequested, w'.engine.random, h.engine.trans (by simp)⟩

theorem of_stopping {b : Bool} (h : (w.stopping b).Spares w') : w.HasTicked 0 w' := by
  refine ⟨w'.engine.stopRequested, w'.engine.random, ?_⟩
  rw [h.engine]
  simp [World.stopping]

theorem of_nextTick (h : w.nextTick.Spares w') : w.HasTicked 1 w' := ⟨_, _, h.engine⟩

theorem trans {a b c : World γ} (h : a.HasTicked k b) (h' : b.HasTicked l c) :
    a.HasTicked (l + k) c := by
  obtain ⟨_, _, first⟩ := h
  obtain ⟨stop, random, second⟩ := h'
  refine ⟨stop, random, ?_⟩
  rw [second, first]
  simp [Int.add_assoc, Int.add_comm]

theorem tick (h : w.HasTicked k w') : w'.engine.tick = w.engine.tick + k := by
  obtain ⟨_, _, engine⟩ := h
  rw [engine]

theorem systems (h : w.HasTicked k w') : w'.engine.systems = w.engine.systems := by
  obtain ⟨_, _, engine⟩ := h
  rw [engine]

theorem startHooks (h : w.HasTicked k w') : w'.engine.startHooks = w.engine.startHooks := by
  obtain ⟨_, _, engine⟩ := h
  rw [engine]

theorem stopHooks (h : w.HasTicked k w') : w'.engine.stopHooks = w.engine.stopHooks := by
  obtain ⟨_, _, engine⟩ := h
  rw [engine]

theorem contextAt (h : w.HasTicked k w') (i : Nat) :
    w'.engine.contextAt i = w.engine.contextAt (i + k) := by
  obtain ⟨_, _, engine⟩ := h
  rw [engine]
  simp [Engine.contextAt, Engine.tickLength, Int.add_assoc, Int.add_comm]

end World.HasTicked

/-! ### Calls in order -/

/-- **Visits in turn**: systems are called in order and told the same; with `stoppable`, up to and
including the first one at whose return a stop has been requested. -/
structure Visit.InTurn (systems : List System) (context : TickContext) (stoppable : Bool)
    (vs : List (Visit γ)) : Prop where
  calls : vs.map Visit.call = (systems.take vs.length).map (·, context)
  on : stoppable = true → ∀ v ∈ vs.dropLast, v.stopped = false
  done : vs.length = systems.length ∨ stoppable = true ∧ ∃ v ∈ vs.getLast?, v.stopped = true

/-- A stop is requested by the end of some tick, if a run starts with some visits and then makes
ticks. -/
def Visit.StoppedBy (starts : List (Visit γ)) (ticks : List (List (Visit γ))) (i : Nat) : Prop :=
  ∃ v ∈ starts ++ (ticks.take i).flatten, v.stopped = true

namespace Visit.InTurn

variable {systems : List System} {context : TickContext} {stoppable : Bool}

theorem nil : InTurn [] context stoppable ([] : List (Visit γ)) := ⟨rfl, by simp, .inl rfl⟩

theorem cut {system : System} {w v : World γ}
    (stop : (stoppable && v.engine.stopRequested) = true) :
    InTurn (system :: systems) context stoppable [⟨system, context, w, v⟩] := by
  rw [Bool.and_eq_true] at stop
  exact ⟨by simp [call], by simp, .inr ⟨stop.1, ⟨system, context, w, v⟩, by simp, stop.2⟩⟩

theorem cons {system : System} {w v : World γ} {vs : List (Visit γ)}
    (go : (stoppable && v.engine.stopRequested) = false)
    (rest : InTurn systems context stoppable vs) :
    InTurn (system :: systems) context stoppable (⟨system, context, w, v⟩ :: vs) where
  calls := by simp [call, rest.calls]
  on able := by
    rw [able, Bool.true_and] at go
    cases vs with
    | nil => simp
    | cons u us =>
      rw [List.dropLast_cons_cons, List.forall_mem_cons]
      exact ⟨go, rest.on able⟩
  done := by
    rcases rest.done with all | ⟨able, u, last, stop⟩
    · exact .inl (by simp [all])
    · refine .inr ⟨able, u, ?_, stop⟩
      rw [List.getLast?_cons, last]
      rfl

/-- Where nothing stops it, a round calls everything. -/
theorem all {vs : List (Visit γ)} (h : InTurn systems context false vs) :
    vs.map call = systems.map (·, context) := by
  have length : vs.length = systems.length := h.done.resolve_right fun able => by simp at able
  rw [h.calls, length, List.take_length]

end Visit.InTurn

/-- **A journal in order**: what an engine calls in a run of some ticks, if it is spared. -/
structure Journal.Orderly (e : Engine γ) (count : Int) (j : Journal γ) : Prop where
  /-- The start hooks are called, all of them. -/
  starts : j.starts.map Visit.call = e.startHooks.map (·, e.contextAt 0)
  /-- At every tick the systems are called, up to the first one at whose return a stop has been
  requested. -/
  ticks : ∀ i (made : i < j.ticks.length),
    Visit.InTurn e.systems (e.contextAt (i + 1)) true j.ticks[i]
  /-- The last tick is the first one by the end of which a stop has been requested, if there is one
  among so many. -/
  last : IsLeast {i | 1 ≤ i ∧ i ≤ count.toNat ∧ Visit.StoppedBy j.starts j.ticks i} j.ticks.length ∨
    j.ticks.length = count.toNat ∧
      ∀ i, 1 ≤ i → i ≤ count.toNat → ¬Visit.StoppedBy j.starts j.ticks i
  /-- The stop hooks are called, all of them. -/
  stops : j.stops.map Visit.call = e.stopHooks.map (·, e.contextAt j.ticks.length)

/-- The lists that an engine goes through. -/
def Engine.lists (e : Engine γ) : List (List System) := [e.startHooks, e.systems, e.stopHooks]

theorem World.HasTicked.lists {k : Nat} {w w' : World γ} (h : w.HasTicked k w') :
    w'.engine.lists = w.engine.lists := by
  rw [Engine.lists, h.startHooks, h.systems, h.stopHooks, Engine.lists]

variable [RandomSource γ]

/-! ### What is called spares the engine -/

section Sparing

theorem Contract.letsRoll_sparing (id : CycleId) : (sparing : Contract γ).LetsRoll id where
  weather _ _ _ := .of_engine rfl
  integer _ _ _ := .bind .get fun _ => Sim.draw_sparing _ _ _
  intensity := HalfNormal.draw_keeps (fun _ _ => .bind .get fun _ => Sim.draw_sparing _ _ _)
    fun _ => trivial
  season w zone := by
    rw [Sim.ends_dayOfYear]
    split
    · exact .of_engine rfl
    · trivial

/-- The weather spares the engine. -/
theorem Contract.letsUpdate_sparing (id : CycleId) : (sparing : Contract γ).LetsUpdate id where
  rolled := CycleId.regenerate_keeps (letsRoll_sparing id)
  clamped _ := .of_engine rfl
  dispatched _ _ _ := .of_engine rfl
  handed _ _ _ _ := .of_engine rfl
  changed _ _ _ := .of_engine rfl
  noKey _ _ := trivial
  timed _ _ _ := .of_engine rfl

variable {react : Reaction γ} (h : react.Keeps .sparing)
include h

theorem System.call_sparing (context : TickContext) (system : System) :
    (system.call react context).Keeps .sparing := by
  cases system with
  | clock =>
    refine .bind .get fun w => ?_
    cases w.clock.advance context.tickLength with
    | ok clock => exact .bind (.pure _) fun _ _ => .of_engine rfl
    | error f => exact .bind (.throw fun _ => trivial) fun _ _ => .of_engine rfl
  | weather =>
    exact Manager.update_keeps
      (fun id => CycleId.update_keeps h (Contract.letsUpdate_sparing id) context.tickLength)
      (fun _ _ _ => .of_engine rfl) fun _ _ => trivial
  | actor name => exact h _
  | lacking part => exact .throw fun _ => trivial

omit h in
/-- Actors who ask for a stop, draw numbers or fail, and do nothing else, spare the engine. -/
theorem Stage.react_sparing (stage : Stage) {behaviour : Behaviour γ}
    (own : ∀ call w, ∀ action ∈ behaviour call w, ∃ asked, action.command = .actor asked)
    (depth : Nat) : (stage.react behaviour depth : Reaction γ).Keeps .sparing := by
  have failing (f : Fault) {α : Type} : (throw f : Sim γ α).Keeps .sparing :=
    .throw fun _ => trivial
  have owner (inTick : Bool) : (ActorCommand.perform.owner inTick : Sim γ Owner).Keeps .sparing :=
    .ite (.pure _) (.bind .get fun _ => .pure _)
  have perform (inTick : Bool) (asked : ActorCommand) :
      (asked.perform inTick : Sim γ Reply).Keeps .sparing := by
    cases asked with
    | fail cause => exact failing _
    | stop => exact .ite (.bind (fun _ => ⟨rfl, fun _ => rfl⟩) fun _ => .pure _) (failing _)
    | integer low high =>
      refine .bind (owner _) fun _ => .bind (Sim.draw_sparing _ _ _) fun _ => ?_
      exact .bind (fun _ => .of_engine rfl) fun _ => .pure _
    | normal =>
      refine .bind (owner _) fun _ => .bind (Sim.draw_sparing _ _ _) fun _ => ?_
      exact .bind (fun _ => .of_engine rfl) fun _ => .pure _
  cases depth with
  | zero => exact fun _ => failing _
  | succ depth =>
    refine fun call => .bind (fun _ => .of_engine rfl) fun _ => .bind .get fun w => ?_
    refine .forM _ fun action mem => .bind ?_ fun due => .ite (.discard ?_) (.pure _)
    · rw [Action.isDue]
      cases action.tick with
      | none => exact .pure _
      | some n =>
        exact .bind (.ite (failing _) (.pure _)) fun _ => .bind .get fun _ => .pure _
    · obtain ⟨asked, command⟩ := own call w action mem
      rw [command]
      exact perform call.isTick asked

end Sparing

/-! ### Rounds and ticks -/

section Laws

variable {react : Reaction γ} (h : react.Keeps .sparing)
include h

theorem System.spares_of_ok {system : System} {context : TickContext} {w v : World γ}
    (returns : system.call react context w = .ok () v) : w.Spares v :=
  (call_sparing h context system w).of_ok returns

namespace Round

variable {list : Engine γ → List System} {stoppable : Bool} {context : TickContext}
  {rounds place : Nat} {w w' : World γ} {vs : List (Visit γ)}

theorem spares (round : Round react list stoppable context rounds place w vs w') : w.Spares w' := by
  induction round with
  | ended nothing => exact .of_engine rfl
  | cut stands returns stop => exact System.spares_of_ok h returns
  | next stands returns go rest ih => exact (System.spares_of_ok h returns).trans ih

/-- A stop is requested after a round if it was before, or if it was at the return of a visit. -/
theorem stopRequested_iff (round : Round react list stoppable context rounds place w vs w') :
    w'.engine.stopRequested = true ↔
      w.engine.stopRequested = true ∨ ∃ v ∈ vs, v.stopped = true := by
  induction round with
  | ended nothing => simp
  | cut stands returns stop =>
    have up := (System.spares_of_ok h returns).stop
    simp only [List.mem_singleton, exists_eq_left]
    exact ⟨.inr, fun h => h.elim up id⟩
  | next stands returns go rest ih =>
    have up := (System.spares_of_ok h returns).stop
    simp only [ih, List.mem_cons, exists_eq_or_imp]
    exact ⟨.inr, fun h => h.elim (.inl ∘ up) id⟩

variable (steady : ∀ {w w' : World γ}, w.Spares w' → list w'.engine = list w.engine)
include steady

/-- **The visits of a round are made in turn**, to what stands in the list from some place on. -/
theorem inTurn (round : Round react list stoppable context rounds place w vs w') :
    Visit.InTurn ((list w.engine).drop place) context stoppable vs := by
  have drop {place : Nat} {w : World γ} {system : System}
      (stands : (list w.engine)[place]? = some system) :
      (list w.engine).drop place = system :: (list w.engine).drop (place + 1) := by
    obtain ⟨within, found⟩ := List.getElem?_eq_some_iff.1 stands
    rw [List.drop_eq_getElem_cons within, found]
  induction round with
  | ended nothing =>
    rw [List.drop_eq_nil_of_le (List.getElem?_eq_none_iff.1 nothing)]
    exact .nil
  | cut stands returns stop =>
    rw [drop stands]
    exact .cut stop
  | next stands returns go rest ih =>
    rw [drop stands]
    rw [steady (System.spares_of_ok h returns)] at ih
    exact .cons go ih

end Round

namespace Ticks

variable {rounds count : Nat} {w w' : World γ} {ticks : List (List (Visit γ))}

/-- **Ticks are made in order**, and nothing else is done to the engine. -/
theorem inTurn (made : Ticks react rounds count w ticks w') :
    w.HasTicked ticks.length w' ∧ ∀ i (within : i < ticks.length),
      Visit.InTurn w.engine.systems (w.engine.contextAt (i + 1)) true ticks[i] := by
  have first {w v : World γ} {vs : List (Visit γ)} (tick : Tick react rounds w vs v) :
      w.HasTicked 1 v ∧ Visit.InTurn w.engine.systems (w.engine.contextAt 1) true vs :=
    ⟨.of_nextTick (tick.spares h), tick.inTurn h fun spares => by rw [spares.engine]⟩
  induction made with
  | all => exact ⟨.of_spares (.of_engine rfl), by simp⟩
  | @cut _ w w' vs tick stop =>
    refine ⟨(first tick).1, fun i within => ?_⟩
    obtain rfl : i = 0 := by simpa using within
    exact (first tick).2
  | @next _ w v w' vs ticks tick go rest ih =>
    obtain ⟨once, now⟩ := first tick
    refine ⟨once.trans ih.1, fun i within => ?_⟩
    cases i with
    | zero => exact now
    | succ i =>
      have later := ih.2 i (by simpa using within)
      rw [once.systems, once.contextAt] at later
      exact later

/-- **Ticks end with the first one by the end of which a stop is requested**, if there is one. -/
theorem stops (made : Ticks react rounds count w ticks w') {starts : List (Visit γ)}
    (started : w.engine.stopRequested = true ↔ ∃ v ∈ starts, v.stopped = true) :
    ticks.length ≤ count ∧
      (∀ i, 1 ≤ i → i < ticks.length → ¬Visit.StoppedBy starts ticks i) ∧
      (ticks.length < count → 1 ≤ ticks.length ∧ Visit.StoppedBy starts ticks ticks.length) := by
  -- the visits of a tick are some more with which the rest of the ticks starts
  have once {w v : World γ} {vs starts : List (Visit γ)} (tick : Tick react rounds w vs v)
      (started : w.engine.stopRequested = true ↔ ∃ v ∈ starts, v.stopped = true) :
      v.engine.stopRequested = true ↔ ∃ v ∈ starts ++ vs, v.stopped = true := by
    simp only [List.mem_append, or_and_right, exists_or, ← started]
    exact tick.stopRequested_iff h
  induction made generalizing starts with
  | all => simp
  | @cut count w w' vs tick stop =>
    refine ⟨by simp, fun i low high => ?_, fun _ => ⟨by simp, ?_⟩⟩
    · rw [List.length_singleton] at high
      omega
    · simpa [Visit.StoppedBy] using (once tick started).1 stop
  | @next count w v w' vs ticks tick go rest ih =>
    have now := once tick started
    have later (i : Nat) : Visit.StoppedBy starts (vs :: ticks) (i + 1) ↔
        Visit.StoppedBy (starts ++ vs) ticks i := by
      simp [Visit.StoppedBy, List.append_assoc]
    obtain ⟨few, goes, ends⟩ := ih now
    refine ⟨Nat.succ_le_succ few, fun i low high => ?_, fun left => ?_⟩
    · obtain ⟨i, rfl⟩ := Nat.exists_eq_add_of_le' low
      rw [later]
      cases i with
      | zero =>
        rw [Visit.StoppedBy, List.take_zero, List.flatten_nil, List.append_nil, ← now, go]
        exact Bool.false_ne_true
      | succ i => exact goes _ (by omega) (Nat.lt_of_succ_lt_succ high)
    · obtain ⟨-, stopped⟩ := ends (Nat.lt_of_succ_lt_succ left)
      exact ⟨by simp, (later _).2 stopped⟩

end Ticks

end Laws

/-! ### What a run calls -/

/-- Something that an engine calls fails, and leaves a world. -/
def Engine.Fails (react : Reaction γ) (e : Engine γ) (f : Fault) (w' : World γ) : Prop :=
  ∃ list ∈ e.lists, ∃ system ∈ list, ∃ context w, system.call react context w = .error f w'

theorem World.HasTicked.fails {react : Reaction γ} {k : Nat} {w v w' : World γ} {f : Fault}
    (ticked : w.HasTicked k v) (fails : v.engine.Fails react f w') : w.engine.Fails react f w' := by
  obtain ⟨list, mem, failed⟩ := fails
  exact ⟨list, ticked.lists ▸ mem, failed⟩

section Runs

variable {react : Reaction γ} (h : react.Keeps .sparing)
include h

/-- Hooks are all called, and told the same. -/
theorem Firing.calls {rounds : Nat} {hooks : Engine γ → List System} {w w' : World γ}
    {vs : List (Visit γ)} (fired : Firing react rounds hooks w vs w')
    (steady : ∀ {w w' : World γ}, w.Spares w' → hooks w'.engine = hooks w.engine) :
    vs.map Visit.call = (hooks w.engine).map (·, w.engine.contextAt 0) := by
  rw [Engine.contextAt_zero]
  exact (fired.inTurn h steady).all

/-- The journal of a run is in order. -/
theorem Journal.OfRun.orderly {rounds : Nat} {count : Int} {w w' : World γ} {j : Journal γ}
    (run : j.OfRun react rounds count w w') :
    j.Orderly w.engine count ∧ w.HasTicked j.ticks.length w' := by
  obtain ⟨a, b, first, middle, last⟩ := run
  have begun : w.HasTicked 0 a := .of_stopping (first.spares h)
  have started : a.engine.stopRequested = true ↔ ∃ v ∈ j.starts, v.stopped = true := by
    rw [first.stopRequested_iff h]
    simp [World.stopping]
  obtain ⟨made, inTurn⟩ := middle.inTurn h
  obtain ⟨few, goes, ends⟩ := middle.stops h started
  have ticked : w.HasTicked j.ticks.length b := begun.trans made
  refine ⟨⟨?_, fun i within => ?_, ?_, ?_⟩, ?_⟩
  · have calls := Firing.calls h first fun spares => by rw [spares.engine]
    exact calls
  · have turn := inTurn i within
    rwa [begun.systems, begun.contextAt] at turn
  · by_cases ended : 1 ≤ j.ticks.length ∧ Visit.StoppedBy j.starts j.ticks j.ticks.length
    · refine .inl ⟨⟨ended.1, few, ended.2⟩, fun i ⟨low, _, stopped⟩ => ?_⟩
      exact Nat.le_of_not_lt fun early => goes i low early stopped
    · have all : j.ticks.length = count.toNat :=
        Nat.le_antisymm few (Nat.le_of_not_lt fun left => ended (ends left))
      refine .inr ⟨all, fun i low high stopped => ?_⟩
      rcases Nat.lt_or_eq_of_le high with early | rfl
      · exact goes i low (all ▸ early) stopped
      · exact ended (all ▸ ⟨low, stopped⟩)
  · have calls := Firing.calls h last fun spares => by rw [spares.engine]
    rwa [ticked.stopHooks, ticked.contextAt, Nat.zero_add] at calls
  · have ends := ticked.trans (.of_spares (last.spares h))
    rwa [Nat.zero_add] at ends

namespace Engine

/-- Going through a list that is not too long fails only if something that stands in it does. -/
theorem callFrom_fails {list : Engine γ → List System} {stoppable : Bool} {context : TickContext}
    (steady : ∀ {w w' : World γ}, w.Spares w' → list w'.engine = list w.engine)
    {rounds place : Nat} {w : World γ} (within : place ≤ (list w.engine).length)
    (short : (list w.engine).length < rounds + place) :
    (callFrom react list stoppable context rounds place).Ends w (fun _ w' => w.Spares w')
      fun f w' => ∃ system ∈ list w.engine, ∃ v, system.call react context v = .error f w' := by
  induction rounds generalizing place w with
  | zero => omega
  | succ rounds ih =>
    rw [callFrom, Sim.ends_bind, Sim.ends_get]
    cases stands : (list w.engine)[place]? with
    | none => exact .of_engine rfl
    | some system =>
      obtain ⟨below, found⟩ := List.getElem?_eq_some_iff.1 stands
      have called := System.call_sparing h context system w
      rw [Sim.ends_bind]
      refine ((Sim.ends_self _ w).and called).mono ?_ ?_
      · rintro _ v ⟨-, spares⟩
        have same := steady spares
        rw [isStopping, Sim.ends_bind, Sim.ends_bind, Sim.ends_get, Sim.ends_pure, Sim.ends_ite]
        split
        · exact spares
        · refine (ih (same ▸ below) (by rw [same]; omega)).mono (fun _ _ => spares.trans) ?_
          rw [same]
          exact fun _ _ => id
      · rintro f w' ⟨failed, -⟩
        exact ⟨system, List.mem_of_getElem? stands, w, failed⟩

theorem makeTick_fails {rounds : Nat} {w : World γ}
    (short : ∀ list ∈ w.engine.lists, list.length < rounds) :
    (makeTick react rounds).Ends w (fun _ w' => w.HasTicked 1 w') fun f w' =>
      w.engine.Fails react f w' := by
  have mem : w.engine.systems ∈ w.engine.lists := by simp [lists]
  have called : (callFrom react systems true w.nextTick.engine.context rounds 0).Ends
      w.nextTick _ _ :=
    callFrom_fails h (fun spares => by rw [spares.engine]) (Nat.zero_le _) (short _ mem)
  rw [makeTick, Sim.ends_bind, edit, Sim.ends_modify, Sim.ends_bind, Sim.ends_get]
  refine called.mono (fun _ _ => .of_nextTick) ?_
  rintro f w' ⟨system, found, v, failed⟩
  exact ⟨_, mem, system, found, _, v, failed⟩

theorem fire_fails {rounds : Nat} {hooks : Engine γ → List System}
    (steady : ∀ {w w' : World γ}, w.Spares w' → hooks w'.engine = hooks w.engine) {w : World γ}
    (mem : hooks w.engine ∈ w.engine.lists)
    (short : ∀ list ∈ w.engine.lists, list.length < rounds) :
    (fire react rounds hooks).Ends w (fun _ w' => w.Spares w') fun f w' =>
      w.engine.Fails react f w' := by
  rw [fire, Sim.ends_bind, Sim.ends_get]
  refine (callFrom_fails h steady (Nat.zero_le _) (short _ mem)).mono (fun _ _ => id) ?_
  rintro f w' ⟨system, found, v, failed⟩
  exact ⟨_, mem, system, found, _, v, failed⟩

theorem makeTicks_fails {rounds : Nat} (count : Nat) {w : World γ}
    (short : ∀ list ∈ w.engine.lists, list.length < rounds) :
    (makeTicks react rounds count).Ends w (fun _ w' => ∃ k, w.HasTicked k w') fun f w' =>
      w.engine.Fails react f w' := by
  induction count generalizing w with
  | zero => exact ⟨0, .of_spares (.of_engine rfl)⟩
  | succ count ih =>
    rw [makeTicks, Sim.ends_bind]
    refine (makeTick_fails h short).mono (fun _ v ticked => ?_) fun _ _ => id
    rw [isStopping, Sim.ends_bind, Sim.ends_bind, Sim.ends_get, Sim.ends_pure, Sim.ends_ite]
    split
    · exact ⟨1, ticked⟩
    · refine (ih (ticked.lists.symm ▸ short)).mono ?_ fun _ _ => ticked.fails
      rintro _ _ ⟨_, more⟩
      exact ⟨_, ticked.trans more⟩

/-- A run fails only if something that the engine calls does. -/
theorem run_fails {rounds : Nat} (count : Int) {w : World γ}
    (short : ∀ list ∈ w.engine.lists, list.length < rounds) :
    (run react rounds count).Ends w (fun _ _ => True) fun f w' => w.engine.Fails react f w' := by
  have hooks : w.engine.startHooks ∈ w.engine.lists ∧ w.engine.stopHooks ∈ w.engine.lists := by
    simp [lists]
  have first : (fire react rounds startHooks).Ends (w.stopping false) _ _ :=
    fire_fails h (fun spares => by rw [spares.engine]) hooks.1 short
  rw [run, Sim.ends_bind, setStopping, edit, Sim.ends_modify, Sim.ends_bind]
  refine first.mono (fun _ a started => ?_) fun f w' failed => failed
  have begun : w.HasTicked 0 a := .of_stopping started
  rw [Sim.ends_bind]
  refine (makeTicks_fails h count.toNat (begun.lists.symm ▸ short)).mono ?_ fun _ _ => begun.fails
  rintro _ b ⟨k, made⟩
  have ticked := begun.trans made
  refine (fire_fails h (fun spares => by rw [spares.engine]) ?_ (ticked.lists.symm ▸ short)).mono
    (fun _ _ _ => trivial) fun _ _ => ticked.fails
  simp [lists]

/-- **What a run calls**, with actors who spare the engine: every start hook; then, at every tick,
the systems in order, up to and including the first one at whose return a stop has been requested;
then every stop hook. The last tick is the first one by the end of which a stop has been requested,
if it comes within so many. A run fails only if something fails that it calls, and a request from
before the run has no influence. -/
theorem run_orderly {rounds : Nat} {w : World γ}
    (short : ∀ list ∈ w.engine.lists, list.length < rounds) (count : Int) :
    (run react rounds count).Ends w
        (fun _ w' => ∃ j : Journal γ, j.OfRun react rounds count w w' ∧
          j.Orderly w.engine count ∧ w.HasTicked j.ticks.length w')
        (fun f w' => w.engine.Fails react f w') ∧
      ∀ b, run react rounds count (w.stopping b) = run react rounds count w := by
  refine ⟨?_, fun _ => rfl⟩
  refine ((Sim.ends_self _ w).and (run_fails h count short)).mono ?_ fun _ _ ends => ends.2
  rintro _ w' ⟨returned, -⟩
  obtain ⟨j, run⟩ := run_ok_iff.1 returned
  exact ⟨j, run, run.orderly h⟩

end Engine

end Runs

namespace Ticking

/-- An engine with a hook at either end and three systems; the second system asks for a stop in the
second tick. A stop was requested before, and one is requested by the last hook. -/
def engine : Engine Script where
  tps := 8
  tps_pos := by decide
  tick := 7
  systems := [.clock, .actor "s", .actor "t"]
  startHooks := [.actor "first"]
  stopHooks := [.actor "last"]
  stopRequested := true
  random := {}

/-- A world with that engine. -/
def before : World Script := { clock := .running 0.0, random := {}, engine := engine }

/-- One system asks for a stop in the ninth tick, and so does the last hook. -/
def behaviour : Behaviour Script := fun call _ =>
  match call with
  | .tick "s" _ => [{ tick := some 9, command := .actor .stop }]
  | .tick "last" _ => [{ command := .actor .stop }]
  | _ => []

/-- The tick at which a run of five ticks ends, if it returns. -/
def end? : Option Int :=
  match Engine.run (Stage.react {} behaviour 1) 4 5 before with
  | .ok _ w' => some w'.engine.tick
  | .error _ _ => none

theorem end?_eq : end? = some 9 := by decide +kernel

end Ticking

/-- Of five ticks two are made, though a stop was requested before the run. -/
theorem Engine.run_orderly_cut :
    (Stage.react {} Ticking.behaviour 1 : Reaction Script).Keeps .sparing ∧
      (∀ list ∈ Ticking.before.engine.lists, list.length < 4) ∧ ∃ (j : Journal Script) (w' : _),
        j.OfRun (Stage.react {} Ticking.behaviour 1) 4 5 Ticking.before w' ∧
          j.Orderly Ticking.engine 5 ∧ j.ticks.length = 2 := by
  have sparing : (Stage.react {} Ticking.behaviour 1 : Reaction Script).Keeps .sparing := by
    refine Stage.react_sparing {} (fun call w action mem => ?_) 1
    unfold Ticking.behaviour at mem
    split at mem
    · obtain rfl := List.mem_singleton.1 mem
      exact ⟨_, rfl⟩
    · obtain rfl := List.mem_singleton.1 mem
      exact ⟨_, rfl⟩
    · cases mem
  have short : ∀ list ∈ Ticking.before.engine.lists, list.length < 4 := by decide
  have ended := Ticking.end?_eq
  have run := (run_orderly sparing short 5).1
  rw [Ticking.end?] at ended
  rw [Sim.Ends] at run
  cases result : Engine.run (Stage.react {} Ticking.behaviour 1) 4 5 Ticking.before with
  | error f w' =>
    rw [result] at ended
    cases ended
  | ok a w' =>
    rw [result] at ended run
    obtain ⟨j, run, orderly, ticked⟩ := run
    refine ⟨sparing, short, j, w', run, orderly, ?_⟩
    have tick := ticked.tick
    rw [Option.some.inj ended] at tick
    change (9 : Int) = 7 + j.ticks.length at tick
    omega

end Microclimate
