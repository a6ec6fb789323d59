import Microclimate.Proofs.Attempts
import Microclimate.Proofs.Sparing

/-!
# Waiting for a cycle to roll its weather

Every time the weather of a map is updated, each running cycle has a turn. In that turn it makes an
attempt to roll its weather, or it rests and its timer gets on. So whoever waits for an attempt of
one cycle may count on its timer: it gets on in every update until there is one, unless no time
passes. Then the timer stays where it is, and the cycle rests for ever.

This asks of the actors only that they leave that timer and the register alone.

* `Microclimate.Contract.same` – the contract that something stays the same;
* `Microclimate.World.Runs` – a cycle is running, and its timer is on time;
* `Microclimate.World.Waits` – it is running as before, and its timer has got on;
* `Microclimate.World.Awaits` – **there is an attempt, or a rest in which the timer gets on**;
* `Microclimate.Turn.Attempts`, `Microclimate.Visit.Attempts` – the attempts of a cycle to roll its
  weather, in a turn and in a call of the weather by an engine;
* `Microclimate.Turn.Rests`, `Microclimate.Visit.Rests` – turns and calls in which it rests;
* `Microclimate.Turn.awaits`, `Microclimate.Pass.awaits`, `Microclimate.Visit.awaits`,
  `Microclimate.Round.awaits` – what becomes of a cycle, from one turn to a round of calls.
-/

namespace Microclimate

variable {γ α β : Type}

/-! ### What stays the same -/

/-- The contract that something stays the same. -/
def Contract.same (f : World γ → β) : Contract γ :=
  .always (fun w w' => f w' = f w) (fun _ => rfl) fun h h' => h'.trans h

/-- What does not depend on what happened and was sent, on random sources, and on how often anybody
was called. -/
structure World.Aside (f : World γ → β) : Prop where
  emit : ∀ w e, f (w.emit e) = f w
  dispatch : ∀ w id receiver packet, f (w.dispatch id receiver packet) = f w
  setSource : ∀ w owner g, f (w.setSource owner g) = f w
  countCall : ∀ w name, f (w.countCall name) = f w

namespace World.Aside

variable {f : World γ → β} (a : Aside f)
include a

theorem note : Reaction.Keeps (Call.note : Reaction γ) (.same f) :=
  fun _ w => (a.countCall _ _).trans (a.emit w _)

theorem draw (owner : Owner) (d : EStateM Fault γ α) (event : Option α → Event) :
    (Sim.draw owner d event).Keeps (.same f) := by
  intro w
  rw [Sim.ends_draw]
  split
  · exact (a.emit _ _).trans (a.setSource w owner _)
  · exact (a.emit _ _).trans (a.setSource w owner _)

variable [RandomSource γ]

/-- It stays the same while weather is rolled and told of, if it does not depend on weather. -/
theorem letsRoll {id : CycleId} (edit : ∀ (w : World γ) (g : Cycle → Cycle),
    (∀ c, (g c).timer = c.timer) → f (w.editCycle id g) = f w) : (Contract.same f).LetsRoll id where
  weather w g h := edit w g fun c => by
    obtain ⟨kind, intensity, same⟩ := h c
    rw [same]
    rfl
  integer _ _ _ := .bind .get fun _ => a.draw _ _ _
  intensity := HalfNormal.draw_keeps (fun _ _ => .bind .get fun _ => a.draw _ _ _) fun _ => rfl
  season w zone := by
    rw [Sim.ends_dayOfYear]
    cases w.clock.dayOfYear with
    | ok day => exact a.emit w _
    | error fault => rfl

omit [RandomSource γ] in
theorem letsTell {id : CycleId} (edit : ∀ (w : World γ) (g : Cycle → Cycle),
    (∀ c, (g c).timer = c.timer) → f (w.editCycle id g) = f w) : (Contract.same f).LetsTell id where
  clamped w := edit w _ fun _ => rfl
  dispatched w _ _ := a.dispatch w _ _ _
  handed w _ _ _ := a.emit w _
  changed w _ _ := a.emit w _
  noKey _ _ := rfl

theorem letsUpdate {id : CycleId} (edit : ∀ (w : World γ) (g : Cycle → Cycle),
    f (w.editCycle id g) = f w) : (Contract.same f).LetsUpdate id where
  rolled := CycleId.regenerate_keeps (a.letsRoll fun w g _ => edit w g)
  toLetsTell := a.letsTell fun w g _ => edit w g
  timed w g _ := edit w g

end World.Aside

theorem World.aside_stopRequested : Aside fun w : World γ => w.engine.stopRequested where
  emit _ _ := rfl
  dispatch _ _ _ _ := rfl
  setSource _ owner _ := by cases owner <;> rfl
  countCall _ _ := rfl

/-- The contract that nobody asks an engine to stop, or takes a request back. -/
def Contract.calm : Contract γ := .same fun w => w.engine.stopRequested

/-- What a cycle goes by when it waits: the register, how many cycles there are, and its timer. -/
def World.pace (id : CycleId) (w : World γ) : Manager × Nat × Timer :=
  (w.manager, w.cycles.size, (w.cycle id).timer)

theorem World.aside_pace (id : CycleId) : Aside (World.pace id : World γ → _) where
  emit _ _ := rfl
  dispatch _ _ _ _ := rfl
  setSource _ owner _ := by cases owner <;> rfl
  countCall _ _ := rfl

theorem World.pace_editCycle_of_ne {id other : CycleId} (ne : other ≠ id) (w : World γ)
    (g : Cycle → Cycle) : (w.editCycle other g).pace id = w.pace id := by
  rw [pace, w.cycle_editCycle_of_ne ne.symm]
  simp [pace]

/-! ### A cycle that is running -/

/-- A cycle runs in a zone, and its timer is on time. -/
structure World.Runs (w : World γ) (zone : Value) (id : CycleId) : Prop where
  found : w.manager.find? zone = some id
  distinct : w.manager.live.Distinct
  known : id.number < w.cycles.size
  onTime : (w.cycle id).timer.OnTime

/-- **Waiting**: a cycle is running as before, and its timer has got on by some time or more. -/
structure World.Waits (zone : Value) (id : CycleId) (gain : Int) (w w' : World γ) : Prop where
  runs : w'.Runs zone id
  interval : (w'.cycle id).timer.interval = (w.cycle id).timer.interval
  gains : (w.cycle id).timer.current + gain ≤ (w'.cycle id).timer.current

namespace World.Runs

variable {w w' : World γ} {zone : Value} {id : CycleId}

theorem of_registered (registered : w.Registered) (punctual : w.Punctual)
    (mem : (zone, id) ∈ w.manager.live.entries) : w.Runs zone id where
  found := registered.find?_of_mem mem
  distinct := registered.distinct
  known := (punctual _ mem).1
  onTime := (punctual _ mem).2

theorem of_pace (h : w.Runs zone id) (same : w'.pace id = w.pace id) : w'.Runs zone id := by
  obtain ⟨manager, size, timer⟩ : _ ∧ _ ∧ _ := by simpa [World.pace] using same
  refine ⟨?_, ?_, size ▸ h.known, timer ▸ h.onTime⟩
  · rw [manager]
    exact h.found
  · rw [manager]
    exact h.distinct

/-- Another cycle may be dropped. -/
theorem discard (h : w.Runs zone id) {other : Value} (apart : other.sameKey zone = false)
    (reporter : CycleId) : (w.discard other reporter).Runs zone id where
  found := (Table.find?_erase_of_ne w.manager.live apart).trans h.found
  distinct := h.distinct.erase other
  known := h.known
  onTime := h.onTime

/-- What runs in another place than a cycle is another cycle. -/
theorem apart (h : w.Runs zone id) {e : Value × CycleId} (mem : e ∈ w.manager.live.entries)
    (ne : e.2 ≠ id) : e.1.sameKey zone = false := by
  refine Bool.eq_false_iff.2 fun same => ne ?_
  have found : w.manager.find? zone = some e.2 := h.distinct.find?_of_mem mem same
  exact Option.some.inj (found.symm.trans h.found)

theorem waits (h : w.Runs zone id) : w.Waits zone id 0 w := ⟨h, rfl, by omega⟩

theorem waits_of_pace (h : w.Runs zone id) (same : w'.pace id = w.pace id) :
    w.Waits zone id 0 w' := by
  obtain ⟨-, -, timer⟩ : _ ∧ _ ∧ _ := by simpa [World.pace] using same
  exact ⟨h.of_pace same, by rw [timer], by rw [timer]; omega⟩

/-- Time passes on the timer, and the interval does not elapse. -/
theorem waits_of_pass (h : w.Runs zone id) {diff : Int} (early : (w.cycle id).isDue diff = false)
    (after : w'.pace id = (w.manager, w.cycles.size, (w.cycle id).timer.pass diff)) :
    w.Waits zone id diff w' := by
  obtain ⟨manager, size, timer⟩ : _ ∧ _ ∧ _ := by simpa [World.pace] using after
  have passed : (w.cycle id).timer.pass diff = (w.cycle id).timer.advance diff := by
    rw [Timer.pass, if_pos h.onTime.nonneg]
  refine ⟨⟨?_, ?_, size ▸ h.known, ?_⟩, ?_, ?_⟩
  · rw [manager]
    exact h.found
  · rw [manager]
    exact h.distinct
  · rw [timer]
    exact Timer.onTime_pass early
  · rw [timer, passed, Timer.interval_advance]
  · rw [timer, passed]
    exact Int.le_max_right ..

end World.Runs

theorem World.Waits.trans {zone : Value} {id : CycleId} {gain more : Int} {a b c : World γ}
    (h : a.Waits zone id gain b) (h' : b.Waits zone id more c) :
    a.Waits zone id (gain + more) c where
  runs := h'.runs
  interval := h'.interval.trans h.interval
  gains := by
    have := h.gains
    have := h'.gains
    omega

/-- **Waiting for an attempt**: it is made, which takes time, or it is not; then the cycle rests,
and the timer gets on. -/
def World.Awaits (zone : Value) (id : CycleId) (diff : Int) (attempt rest : Prop) (gain : Int)
    (w w' : World γ) : Prop :=
  attempt ∧ 0 < diff ∨ ¬attempt ∧ rest ∧ w.Waits zone id gain w'

namespace World.Awaits

variable {zone : Value} {id : CycleId} {diff gain more : Int} {attempt another rest again : Prop}
  {w v w' : World γ}

theorem congr (h : w.Awaits zone id diff attempt rest gain w') (same : attempt ↔ another)
    (rests : rest → again) (equal : gain = more) : w.Awaits zone id diff another again more w' := by
  rw [Awaits, same, equal] at h
  exact h.imp_right fun ⟨never, rested, waits⟩ => ⟨never, rests rested, waits⟩

/-- What is not seen of the cycle may be different where one begins to wait. -/
theorem of_pace (h : v.Awaits zone id diff attempt rest gain w') (same : v.pace id = w.pace id) :
    w.Awaits zone id diff attempt rest gain w' := by
  obtain ⟨-, -, timer⟩ : _ ∧ _ ∧ _ := by simpa [World.pace] using same
  refine h.imp_right fun ⟨never, rested, waits⟩ => ⟨never, rested, waits.runs, ?_, ?_⟩
  · rw [← timer]
    exact waits.interval
  · rw [← timer]
    exact waits.gains

/-- Who has waited in vain can go on waiting. -/
theorem and_then (h : w.Awaits zone id diff attempt rest gain v)
    (next : v.Runs zone id → v.Awaits zone id diff another again more w') :
    w.Awaits zone id diff (attempt ∨ another) (rest ∧ again) (gain + more) w' := by
  rcases h with ⟨made, pos⟩ | ⟨none, rested, waits⟩
  · exact .inl ⟨.inl made, pos⟩
  · rcases next waits.runs with ⟨made, pos⟩ | ⟨never, still, later⟩
    · exact .inl ⟨.inr made, pos⟩
    · exact .inr ⟨not_or_intro none never, ⟨rested, still⟩, waits.trans later⟩

/-- The gain may be less. -/
theorem le (h : w.Awaits zone id diff attempt rest gain w') (le : more ≤ gain) :
    w.Awaits zone id diff attempt rest more w' :=
  h.imp_right fun ⟨never, rested, waits⟩ => ⟨never, rested, waits.runs, waits.interval, by
    have := waits.gains
    omega⟩

/-- There is an attempt in vain only if no time passes, once the gain comes to the interval. -/
theorem attempt_iff (h : w.Awaits zone id diff attempt rest gain w') (runs : w.Runs zone id)
    (enough : 0 < diff → (w.cycle id).timer.interval ≤ gain) : attempt ↔ 0 < diff := by
  rcases h with ⟨made, pos⟩ | ⟨none, -, waits⟩
  · exact ⟨fun _ => pos, fun _ => made⟩
  · refine ⟨fun made => absurd made none, fun pos => ?_⟩
    -- the timer would have come to the interval
    have below := waits.runs.onTime.below
    have gains := waits.gains
    have least := runs.onTime.nonneg
    have reached := enough pos
    rw [waits.interval] at below
    omega

/-- Where no time passes, the cycle rests. -/
theorem rests (h : w.Awaits zone id diff attempt rest gain w') (still : diff ≤ 0) : rest := by
  rcases h with ⟨-, pos⟩ | ⟨-, rested, -⟩
  · exact absurd pos (Int.not_lt.2 still)
  · exact rested

end World.Awaits

/-! ### Turns -/

variable [RandomSource γ]

/-- A cycle makes an attempt to roll its weather in its turn. -/
def Turn.Attempts (react : Reaction γ) (diff : Int) (t : Turn γ) : Prop :=
  t.id.Attempts react diff t.before

/-- A cycle rests in its turn. -/
def Turn.Rests (react : Reaction γ) (diff : Int) (t : Turn γ) : Prop :=
  t.id.Rests react diff t.before

section Waiting

variable {react : Reaction γ} {zone : Value} {id : CycleId} {diff : Int}

omit [RandomSource γ] in
/-- Who leaves alone what a cycle goes by leaves its timer alone. -/
theorem Reaction.Keeps.sparingTimer (h : react.Keeps (.same (World.pace id))) :
    react.Keeps (.sparingTimer id) := by
  have spares {w w' : World γ} (same : w'.pace id = w.pace id) : World.SparesTimer id w w' := by
    obtain ⟨-, size, timer⟩ : _ ∧ _ ∧ _ := by simpa [World.pace] using same
    exact fun known => ⟨size ▸ known, timer⟩
  exact fun call w => (h call w).mono (fun _ _ => spares) fun _ _ => spares

/-- A turn in which a cycle rests lets time pass on its timer, and that is all. -/
theorem CycleId.Rests.pace (h : react.Keeps (.same (World.pace id))) {w w' : World γ} {kept : Bool}
    (known : id.number < w.cycles.size) (rests : id.Rests react diff w)
    (returns : id.update react diff w = .ok kept w') :
    kept = true ∧ w'.pace id = (w.manager, w.cycles.size, (w.cycle id).timer.pass diff) := by
  rw [rests] at returns
  obtain ⟨_, v, heard, rest⟩ := Sim.bind_ok_iff.1 returns
  cases rest
  have told := (Hooks.notifyTicked_keeps h (some id) diff _).of_ok heard
  refine ⟨rfl, Eq.trans told ?_⟩
  rw [World.pace, World.passTime, w.cycle_editCycle known]
  simp

/-- The turn of another cycle leaves a cycle alone. -/
theorem CycleId.update_pace (h : react.Keeps (.same (World.pace id))) {other : CycleId}
    (ne : other ≠ id) {w w' : World γ} {kept : Bool}
    (returns : other.update react diff w = .ok kept w') : w'.pace id = w.pace id :=
  ((update_keeps h ((World.aside_pace id).letsUpdate (World.pace_editCycle_of_ne ne)) diff) w).of_ok
    returns

/-- A timer that was on time, and has passed now, has got on. -/
theorem Timer.OnTime.pos_of_passed {t : Timer} (h : t.OnTime)
    (passed : (t.pass diff).passed = true) : 0 < diff := by
  have nonneg := h.nonneg
  have below := h.below
  simp only [Timer.pass, if_pos nonneg, Timer.passed, Timer.advance, decide_eq_true_eq] at passed
  omega

/-- **A turn is an attempt, or a rest in which the timer gets on.** -/
theorem Turn.awaits (h : react.Keeps (.same (World.pace id))) {t : Turn γ}
    (runs : t.before.Runs zone id)
    (returns : t.id.update react diff t.before = .ok t.kept t.after)
    (apart : t.id ≠ id → t.zone.sameKey zone = false) :
    t.before.Awaits zone id diff (t.id = id ∧ t.Attempts react diff)
      (t.id = id → t.Rests react diff) (if t.id = id then diff else 0) t.left := by
  by_cases same : t.id = id
  · rw [if_pos same]
    have known : t.id.number < t.before.cycles.size := same ▸ runs.known
    have onTime : (t.before.cycle t.id).timer.OnTime := same ▸ runs.onTime
    have spares : react.Keeps (.sparingTimer t.id) := same ▸ h.sparingTimer
    by_cases attempt : t.Attempts react diff
    · have due := (CycleId.attempts_iff spares known onTime.interval_pos diff).1 attempt
      exact .inl ⟨⟨same, attempt⟩, onTime.pos_of_passed due⟩
    · have rests := (CycleId.not_attempts_iff known).1 attempt
      have early := (CycleId.rests_iff spares known onTime.interval_pos diff).1 rests
      obtain ⟨kept, after⟩ := rests.pace (same ▸ h) known returns
      refine .inr ⟨fun made => attempt made.2, fun _ => rests, ?_⟩
      subst same
      rw [Turn.left, if_pos kept]
      exact runs.waits_of_pass early after
  · rw [if_neg same]
    refine .inr ⟨fun attempt => same attempt.1, fun own => absurd own same, ?_⟩
    have alone := CycleId.update_pace h same returns
    rw [Turn.left]
    split
    · exact runs.waits_of_pace alone
    · have waits := runs.waits_of_pace alone
      exact ⟨waits.runs.discard (apart same) t.id, waits.interval, waits.gains⟩

/-! ### Passes -/

/-- **A pass brings an attempt of a cycle, or the timer gets on** in every turn of that cycle. -/
theorem Pass.awaits (h : react.Keeps (.same (World.pace id))) {w w' : World γ}
    {turns : List (Turn γ)} (pass : Pass react diff w turns w') (runs : w.Runs zone id)
    (apart : ∀ t ∈ turns, t.id ≠ id → t.zone.sameKey zone = false) :
    w.Awaits zone id diff (∃ t ∈ turns, t.id = id ∧ t.Attempts react diff)
      (∀ t ∈ turns, t.id = id → t.Rests react diff) (diff * turns.countP (·.id = id)) w' := by
  induction pass with
  | ended w => exact .inr ⟨by simp, by simp, by simpa using runs.waits⟩
  | @turn t turns w' returns rest ih =>
    have first := t.awaits h runs returns (apart t (by simp))
    have both := first.and_then fun runs => ih runs fun u mem => apart u (by simp [mem])
    refine both.congr (by simp only [List.mem_cons, exists_eq_or_imp])
      (fun rested => List.forall_mem_cons.2 rested) ?_
    by_cases same : t.id = id
    · simp [same, Int.mul_add, Int.add_comm]
    · simp [same]

omit [RandomSource γ] in
/-- Turns with the same cycle that begin in the same world and end alike are the same. -/
theorem Turn.ext_of {t u : Turn γ} (entry : t.entry = u.entry) (before : t.before = u.before)
    (kept : t.kept = u.kept) (after : t.after = u.after) : t = u := by
  obtain ⟨zone, id⟩ := Prod.mk.inj entry
  cases t
  cases u
  simp_all

theorem Pass.of_cons {w w' : World γ} {t : Turn γ} {turns : List (Turn γ)}
    (pass : Pass react diff w (t :: turns) w') :
    t.before = w ∧ t.id.update react diff w = .ok t.kept t.after ∧
      Pass react diff t.left turns w' := by
  cases pass with
  | turn returns rest => exact ⟨rfl, returns, rest⟩

/-- **A pass is determined** by the cycles that have their turns. -/
theorem Pass.unique {w w' u' : World γ} {turns more : List (Turn γ)}
    (pass : Pass react diff w turns w') (other : Pass react diff w more u')
    (same : more.map Turn.entry = turns.map Turn.entry) : more = turns ∧ u' = w' := by
  induction pass generalizing more with
  | ended w =>
    obtain rfl := List.map_eq_nil_iff.1 same
    cases other
    exact ⟨rfl, rfl⟩
  | @turn t turns w' returns rest ih =>
    obtain ⟨u, us, rfl, entry, later⟩ := List.map_eq_cons_iff.1 same
    obtain ⟨before, returns', rest'⟩ := other.of_cons
    have id : u.id = t.id := (Prod.mk.inj entry).2
    rw [id, returns] at returns'
    obtain ⟨kept, after⟩ := EStateM.Result.ok.inj returns'
    obtain rfl := Turn.ext_of entry before kept.symm after.symm
    obtain ⟨rfl, rfl⟩ := ih rest' later
    exact ⟨rfl, rfl⟩

/-- **An update of the manager that returns is a pass**, in which every running cycle has its turn.
-/
theorem Manager.pass_of_update {w w' : World γ} (returns : update react diff w = .ok () w') :
    ∃ turns, turns.map Turn.entry = w.manager.live.entries ∧ Pass react diff w turns w' := by
  have each (entries : List (Value × CycleId)) (w : World γ)
      (ends : (updateEach react diff entries).Ends w (fun _ u => u = w') fun _ _ => False) :
      ∃ turns, turns.map Turn.entry = entries ∧ Pass react diff w turns w' := by
    induction entries generalizing w with
    | nil =>
      obtain rfl : w = w' := ends
      exact ⟨[], rfl, .ended w⟩
    | cons e rest ih =>
      obtain ⟨zone, id⟩ := e
      rw [ends_updateEach_cons] at ends
      cases updated : id.update react diff w with
      | error fault u =>
        rw [Sim.Ends, updated] at ends
        exact ends.elim
      | ok kept u =>
        replace ends := ends.of_ok updated
        let t : Turn γ := ⟨zone, id, w, u, kept⟩
        have left :
            (updateEach react diff rest).Ends t.left (fun _ u => u = w') fun _ _ => False := by
          cases kept with
          | true => exact ends
          | false =>
            rw [if_neg Bool.false_ne_true] at ends
            split at ends
            · exact ends
            · exact ends.elim
        obtain ⟨turns, entries, pass⟩ := ih t.left left
        exact ⟨t :: turns, congrArg (t.entry :: ·) entries, .turn (t := t) updated pass⟩
  refine each w.manager.live.entries w ?_
  have got : (get : Sim γ (World γ)) w = .ok w w := rfl
  rw [update, Sim.bind_of_ok got] at returns
  rw [Sim.Ends, returns]

/-! ### Visits and rounds -/

theorem System.clock_same {f : World γ → β}
    (clock : ∀ (w : World γ) c, f { w with clock := c } = f w) (context : TickContext) :
    (System.clock.call react context).Keeps (.same f) := by
  refine .bind .get fun w => .bind (fun u => ?_) fun c u => clock u c
  cases w.clock.advance context.tickLength <;> exact rfl

/-- A cycle makes an attempt to roll its weather while the engine calls the weather. -/
def Visit.Attempts (react : Reaction γ) (id : CycleId) (v : Visit γ) : Prop :=
  v.system = .weather ∧ ∃ turns, turns.map Turn.entry = v.before.manager.live.entries ∧
    Pass react v.context.tickLength v.before turns v.after ∧
      ∃ t ∈ turns, t.id = id ∧ t.Attempts react v.context.tickLength

/-- A cycle rests while the engine calls a system: if it is the weather that is called, the cycle
rests whenever it has its turn. -/
def Visit.Rests (react : Reaction γ) (id : CycleId) (v : Visit γ) : Prop :=
  v.system = .weather → ∃ turns, turns.map Turn.entry = v.before.manager.live.entries ∧
    Pass react v.context.tickLength v.before turns v.after ∧
      ∀ t ∈ turns, t.id = id → t.Rests react v.context.tickLength

/-- **A call of a system brings an attempt of a cycle, or the timer gets on** if it is the weather
that is called. -/
theorem Visit.awaits (h : react.Keeps (.same (World.pace id))) {v : Visit γ}
    (returns : v.system.call react v.context v.before = .ok () v.after)
    (runs : v.before.Runs zone id) (nonneg : 0 ≤ v.context.tickLength) :
    v.before.Awaits zone id v.context.tickLength (v.Attempts react id) (v.Rests react id)
      (if v.system = .weather then v.context.tickLength else 0) v.after := by
  by_cases weather : v.system = .weather
  · rw [if_pos weather]
    rw [weather] at returns
    obtain ⟨turns, entries, pass⟩ := Manager.pass_of_update returns
    have apart : ∀ t ∈ turns, t.id ≠ id → t.zone.sameKey zone = false := by
      intro t mem ne
      have entered : t.entry ∈ v.before.manager.live.entries :=
        entries ▸ List.mem_map_of_mem mem
      exact runs.apart entered ne
    have attempts : (∃ t ∈ turns, t.id = id ∧ t.Attempts react v.context.tickLength) ↔
        v.Attempts react id := by
      refine ⟨fun attempt => ⟨weather, turns, entries, pass, attempt⟩, ?_⟩
      rintro ⟨-, more, entries', pass', attempt⟩
      obtain ⟨rfl, -⟩ := pass.unique pass' (entries'.trans entries.symm)
      exact attempt
    -- the cycle has a turn
    have one : 0 < turns.countP (·.id = id) := by
      obtain ⟨k, entered, -⟩ := Table.mem_of_find? runs.found
      rw [← entries] at entered
      obtain ⟨t, mem, entry⟩ := List.mem_map.1 entered
      exact List.countP_pos_iff.2 ⟨t, mem, decide_eq_true (congrArg Prod.snd entry)⟩
    have gain := Int.mul_le_mul_of_nonneg_left (Int.ofNat_le.2 one) nonneg
    have rests (rested : ∀ t ∈ turns, t.id = id → t.Rests react v.context.tickLength) :
        v.Rests react id := fun _ => ⟨turns, entries, pass, rested⟩
    exact ((pass.awaits h runs apart).congr attempts rests rfl).le (by omega)
  · rw [if_neg weather]
    refine .inr ⟨fun attempt => weather attempt.1, fun called => absurd called weather,
      runs.waits_of_pace ?_⟩
    obtain ⟨system, context, before, after⟩ := v
    cases system with
    | weather => exact absurd rfl weather
    | clock => exact (System.clock_same (fun _ _ => rfl) context before).of_ok returns
    | actor name => exact (h _ before).of_ok returns
    | lacking part => cases returns

theorem System.call_calm (h : react.Keeps .calm) (context : TickContext) (system : System) :
    (system.call react context).Keeps .calm := by
  cases system with
  | clock => exact System.clock_same (fun _ _ => rfl) context
  | weather =>
    have lets (id : CycleId) : Contract.calm.LetsUpdate id :=
      World.aside_stopRequested.letsUpdate fun (_ : World γ) _ => rfl
    exact Manager.update_keeps (fun id => CycleId.update_keeps h (lets id) _) (fun _ _ _ => rfl)
      fun _ _ => rfl
  | actor name => exact h _
  | lacking part => exact .throw fun _ => rfl

section Rounds

variable {list : Engine γ → List System} {stoppable : Bool} {context : TickContext}
  {rounds place : Nat} {w w' : World γ} {vs : List (Visit γ)}

theorem Round.calm (h : react.Keeps .calm)
    (round : Round react list stoppable context rounds place w vs w') :
    w'.engine.stopRequested = w.engine.stopRequested ∧
      ∀ v ∈ vs, v.stopped = w.engine.stopRequested := by
  induction round with
  | ended nothing => exact ⟨rfl, by simp⟩
  | cut stands returns stop =>
    have same := (System.call_calm h _ _ _).of_ok returns
    exact ⟨same, fun u mem => by rw [List.mem_singleton.1 mem]; exact same⟩
  | next stands returns go rest ih =>
    have same := (System.call_calm h _ _ _).of_ok returns
    obtain ⟨last, all⟩ := ih
    refine ⟨last.trans same, fun u mem => ?_⟩
    rcases List.mem_cons.1 mem with rfl | later
    · exact same
    · exact (all u later).trans same

/-- **A round brings an attempt of a cycle, or the timer gets on** in every call of the weather. -/
theorem Round.awaits (h : react.Keeps (.same (World.pace id)))
    (round : Round react list stoppable context rounds place w vs w') (runs : w.Runs zone id)
    (nonneg : 0 ≤ context.tickLength) :
    w.Awaits zone id context.tickLength (∃ v ∈ vs, v.Attempts react id)
      (∀ v ∈ vs, v.Rests react id)
      (context.tickLength * vs.countP (·.system = .weather)) w' := by
  have first {w v : World γ} {system : System} (runs : w.Runs zone id)
      (returns : system.call react context w = .ok () v) :
      w.Awaits zone id context.tickLength (Visit.Attempts react id ⟨system, context, w, v⟩)
        (Visit.Rests react id ⟨system, context, w, v⟩)
        (if system = .weather then context.tickLength else 0) v :=
    Visit.awaits h (v := ⟨system, context, w, v⟩) returns runs nonneg
  induction round with
  | ended nothing => exact .inr ⟨by simp, by simp, by simpa using runs.waits⟩
  | @cut rounds place w v system stands returns stop =>
    refine (first runs returns).congr (by simp) (fun rested => by simpa using rested) ?_
    by_cases weather : system = .weather <;> simp [weather]
  | @next rounds place w v w' system vs stands returns go rest ih =>
    have both := (first runs returns).and_then ih
    refine both.congr (by simp only [List.mem_cons, exists_eq_or_imp])
      (fun rested => List.forall_mem_cons.2 rested) ?_
    by_cases weather : system = .weather
    · simp [weather, Int.mul_add, Int.add_comm]
    · simp [weather]

theorem Round.head_before (round : Round react list stoppable context rounds place w vs w')
    {v : Visit γ} (head : vs.head? = some v) : v.before = w := by
  cases round with
  | ended nothing => cases head
  | cut stands returns stop =>
    obtain rfl := Option.some.inj head
    rfl
  | next stands returns go rest =>
    obtain rfl := Option.some.inj head
    rfl

/-- Where nobody asks for a stop, all ticks are made. -/
theorem Ticks.length_eq (h : react.Keeps .calm) {count : Nat} {ticks : List (List (Visit γ))}
    (made : Ticks react rounds count w ticks w') (going : w.engine.stopRequested = false) :
    ticks.length = count := by
  induction made with
  | all => rfl
  | cut tick stop =>
    have calm := (tick.calm h).1
    rw [stop] at calm
    exact absurd (calm.trans going) (by decide)
  | next tick go rest ih => exact congrArg (· + 1) (ih go)

end Rounds

end Waiting

end Microclimate
