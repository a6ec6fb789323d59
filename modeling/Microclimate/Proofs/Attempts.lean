import Microclimate.Proofs.Punctual
import Microclimate.Random.Script
import Mathlib.Data.Rat.Floor

/-!
# The attempts of a cycle to roll its weather

Every update lets time pass on a timer, and now and then an attempt to roll the weather is made.
What is left over when the interval has elapsed is dropped, so the attempts are never closer to each
other than the interval, and they may be further apart: if always the same time passes, they come as
often as that time is needed to fill an interval **from nothing**.

It does not matter what becomes of an attempt, nor whether it fails. The timer is set back before
anything is rolled, and whoever is called afterwards leaves it alone.

What an attempt is does not depend on the timer. An update that makes none **rests**: all it does is
to let time pass and to tell the listeners of it. That it is the timer which decides between the two
is a theorem.

* `Microclimate.Timer.turn` – what an update makes of a timer, whatever it was;
* `Microclimate.World.SparesTimer` – what is asked of the actors, and of all else that happens;
* `Microclimate.CycleId.Rests`, `Microclimate.CycleId.Attempts` – an update rests, or it makes an
  attempt to roll the weather, with `Microclimate.CycleId.attempts_iff`;
* `Microclimate.CycleId.ends_update_turn` – what an update makes of a cycle, and of its timer;
* `Microclimate.CycleId.Updates` – updates of a cycle, one after the other;
* `Microclimate.CycleId.attempts_paced` – **how many attempts there are, and which they are.**
-/

namespace Microclimate

variable {γ : Type}

/-! ### Timers -/

namespace Timer

/-- **The timer after an update**: some time has passed, and a timer that has passed is set back. -/
def turn (t : Timer) (diff : Int) : Timer :=
  if (t.pass diff).passed then t.reset else t.pass diff

@[simp] theorem interval_pass (t : Timer) (diff : Int) : (t.pass diff).interval = t.interval := by
  rw [pass]
  split <;> rfl

@[simp] theorem interval_turn (t : Timer) (diff : Int) : (t.turn diff).interval = t.interval := by
  rw [turn]
  split
  · rfl
  · exact t.interval_pass diff

theorem reset_pass (t : Timer) (diff : Int) : (t.pass diff).reset = t.reset := by
  rw [pass]
  split <;> rfl

/-- **After an update a timer is on time**, whatever it was before and however much time has passed,
forwards or backwards. -/
theorem onTime_turn {t : Timer} (pos : 0 < t.interval) (diff : Int) : (t.turn diff).OnTime := by
  rw [turn]
  split
  next => exact .reset pos
  next waiting => exact onTime_pass (Bool.eq_false_iff.2 waiting)

/-- A timer that is on time fills up, or it is set back once it is full. -/
theorem OnTime.turn_current {t : Timer} (h : t.OnTime) {diff : Int} (nonneg : 0 ≤ diff) :
    (t.pass diff).passed = true ∧ t.interval ≤ t.current + diff ∧ (t.turn diff).current = 0 ∨
      (t.pass diff).passed = false ∧ t.current + diff < t.interval ∧
        (t.turn diff).current = t.current + diff := by
  have sum : (t.pass diff).current = t.current + diff := by
    rw [pass, if_pos h.nonneg]
    exact Int.max_eq_right (Int.add_nonneg h.nonneg nonneg)
  have full : (t.pass diff).passed = true ↔ t.interval ≤ t.current + diff := by
    rw [passed, decide_eq_true_eq, sum, interval_pass]
  rcases Int.lt_or_le (t.current + diff) t.interval with below | reached
  · have waiting : (t.pass diff).passed = false :=
      Bool.eq_false_iff.2 fun passed => absurd (full.1 passed) (Int.not_le.2 below)
    refine .inr ⟨waiting, below, ?_⟩
    rw [turn, waiting, if_neg Bool.false_ne_true, sum]
  · refine .inl ⟨full.2 reached, reached, ?_⟩
    rw [turn, full.2 reached]
    rfl

end Timer

/-- Counting on from a remainder: it gets one more, or it is full. -/
theorem emod_succ (n : Int) {period : Int} (some : 0 < period) :
    (n + 1) % period = if period ≤ n % period + 1 then 0 else n % period + 1 := by
  rw [← Int.emod_add_emod]
  have below := Int.emod_lt_of_pos n some
  split
  next full =>
    obtain same : n % period + 1 = period := by omega
    rw [same, Int.emod_self]
  next more =>
    have nonneg := Int.emod_nonneg n some.ne'
    exact Int.emod_eq_of_lt (by omega) (by omega)

/-- So many times `d` fill an interval: at least the quotient, rounded up. -/
theorem ceil_le_iff (interval : Int) {d : Int} (pos : 0 < d) (m : Int) :
    ⌈(interval / d : ℚ)⌉ ≤ m ↔ interval ≤ m * d := by
  rw [Int.ceil_le, div_le_iff₀ (by exact_mod_cast pos)]
  exact_mod_cast Iff.rfl

/-! ### Sparing a timer -/

/-- **The timer of a cycle is left alone**, if there is such a cycle. -/
def World.SparesTimer (id : CycleId) (w w' : World γ) : Prop :=
  id.number < w.cycles.size →
    id.number < w'.cycles.size ∧ (w'.cycle id).timer = (w.cycle id).timer

namespace World.SparesTimer

variable {id : CycleId}

theorem refl (w : World γ) : SparesTimer id w w := fun known => ⟨known, rfl⟩

theorem trans {a b c : World γ} (h : SparesTimer id a b) (h' : SparesTimer id b c) :
    SparesTimer id a c := by
  intro known
  obtain ⟨known, first⟩ := h known
  obtain ⟨known, second⟩ := h' known
  exact ⟨known, second.trans first⟩

theorem of_cycles {w w' : World γ} (same : w'.cycles = w.cycles) : SparesTimer id w w' := by
  intro known
  rw [World.cycle_congr same, same]
  exact ⟨known, rfl⟩

/-- Any cycle may be changed in anything but its timer. -/
theorem edit (w : World γ) (other : CycleId) {f : Cycle → Cycle}
    (timer : ∀ c, (f c).timer = c.timer) : SparesTimer id w (w.editCycle other f) := by
  intro known
  refine ⟨by simpa using known, ?_⟩
  by_cases same : id = other
  · subst same
    rw [w.cycle_editCycle known, timer]
  · rw [w.cycle_editCycle_of_ne same]

end World.SparesTimer

/-- **The contract of leaving the timer of a cycle alone.** -/
def Contract.sparingTimer (id : CycleId) : Contract γ :=
  .always (World.SparesTimer id) .refl .trans

section Contracts

variable {id : CycleId}

theorem Contract.allows_sparingTimer : (sparingTimer id : Contract γ).Allows where
  happened _ _ _ := .of_cycles rfl
  surroundings _ _ _ _ _ _ _ _ := .of_cycles rfl
  stopped _ _ := .of_cycles rfl
  moved w m _ := by
    obtain ⟨d, attempts, left⟩ := m.carryOut_worldLeft w
    rw [left]
    exact .of_cycles rfl
  fail _ w := .refl w

variable [RandomSource γ]

/-- The weather of any cycle may be rolled. -/
theorem Contract.letsRoll_sparingTimer (other : CycleId) :
    (sparingTimer id : Contract γ).LetsRoll other where
  weather w f h := .edit w other fun c => by
    obtain ⟨kind, intensity, same⟩ := h c
    rw [same]
    rfl
  integer _ _ _ := .bind .get fun _ => Sim.integerOf_keeps allows_sparingTimer _ _ _
  intensity := HalfNormal.draw_keeps (Sim.normal_keeps allows_sparingTimer) fun w => .refl w
  season w zone :=
    (Sim.dayOfYear_keeps allows_sparingTimer w).mono
      (fun _ _ read => read.trans (.of_cycles rfl)) fun _ _ bad => bad

omit [RandomSource γ] in
theorem Contract.letsTell_sparingTimer (other : CycleId) :
    (sparingTimer id : Contract γ).LetsTell other where
  clamped w := .edit w other fun _ => rfl
  dispatched _ _ _ := .of_cycles rfl
  handed _ _ _ _ := .of_cycles rfl
  changed _ _ _ := .of_cycles rfl
  noKey _ w := .refl w

omit [RandomSource γ] in
/-- Actors who only take note leave all timers alone. -/
theorem Reaction.note_sparesTimer : Reaction.Keeps (Call.note : Reaction γ) (.sparingTimer id) :=
  fun _ _ => .of_cycles rfl

end Contracts

/-! ### One update -/

variable [RandomSource γ]

namespace CycleId

/-- What follows once the weather was rolled: the zone is told of a change, and, unless nobody was
there, the listeners of the update. -/
def conclude (react : Reaction γ) (id : CycleId) (diff : Int) (changed : Bool) : Sim γ Bool := do
  if changed then
    if ← id.broadcast react true then
      Hooks.notifyTicked react (some id) diff
      return true
    else
      return false
  else
    Hooks.notifyTicked react (some id) diff
    return true

/-- **An update rests**: it lets time pass on the timer, the listeners are told of it, and that is
all. -/
def Rests (react : Reaction γ) (id : CycleId) (diff : Int) (w : World γ) : Prop :=
  id.update react diff w =
    (do Hooks.notifyTicked react (some id) diff; return true : Sim γ Bool) (w.passTime id diff)

/-- **An update makes an attempt to roll the weather**: it does not rest, but with the timer set
back the weather is rolled, to whatever end. -/
def Attempts (react : Reaction γ) (id : CycleId) (diff : Int) (w : World γ) : Prop :=
  id.update react diff w = (id.regenerate >>= id.conclude react diff) (w.ripe id diff) ∧
    ¬id.Rests react diff w

variable {react : Reaction γ} {id : CycleId} {w : World γ}

theorem update_eq (known : id.number < w.cycles.size) (diff : Int) :
    id.update react diff w =
      if (w.cycle id).isDue diff then
        (id.regenerate >>= id.conclude react diff) (w.ripe id diff)
      else (do Hooks.notifyTicked react (some id) diff; return true : Sim γ Bool)
        (w.passTime id diff) := by
  have passed : (id.passTime diff : Sim γ Unit) w = .ok () (w.passTime id diff) := rfl
  have looked : (Sim.cycle id : Sim γ Cycle) (w.passTime id diff) =
      .ok ((w.passTime id diff).cycle id) (w.passTime id diff) := rfl
  have setBack : (Sim.editCycle id fun c => { c with timer := c.timer.reset } : Sim γ Unit)
      (w.passTime id diff) = .ok () (w.ripe id diff) := rfl
  rw [update, Sim.bind_of_ok passed, changeWhenDue, bind_assoc, Sim.bind_of_ok looked,
    World.cycle_passTime known, Cycle.isDue]
  split
  · rw [bind_assoc, Sim.bind_of_ok setBack, bind_assoc]
    refine congrArg (fun rest => (id.regenerate >>= rest) _) (funext fun changed => ?_)
    cases changed <;> rfl
  · rfl

/-- An update rests as long as the interval has not elapsed. -/
theorem rests_of_early (known : id.number < w.cycles.size) {diff : Int}
    (early : (w.cycle id).isDue diff = false) : id.Rests react diff w := by
  rw [Rests, update_eq known, early, if_neg Bool.false_ne_true]

/-- **An update makes an attempt or rests**; there is nothing else that it could do. -/
theorem not_attempts_iff (known : id.number < w.cycles.size) {diff : Int} :
    ¬id.Attempts react diff w ↔ id.Rests react diff w := by
  refine ⟨fun none => ?_, fun rests attempts => attempts.2 rests⟩
  cases due : (w.cycle id).isDue diff with
  | false => exact rests_of_early known due
  | true =>
    refine by_contra fun awake => none ⟨?_, awake⟩
    rw [update_eq known, due, if_pos rfl]

omit [RandomSource γ] in
theorem conclude_keeps {c : Contract γ} (t : c.LetsTell id) (h : react.Keeps c) (diff : Int)
    (changed : Bool) : (id.conclude react diff changed).Keeps c := by
  have ticked : (do Hooks.notifyTicked react (some id) diff; return true : Sim γ Bool).Keeps c :=
    .bind (Hooks.notifyTicked_keeps h _ _) fun _ => .pure _
  exact .ite (.bind (broadcast_keeps t h true) fun _ => .ite ticked (.pure _)) ticked

omit [RandomSource γ] in
/-- Telling the listeners of an update leaves the timer of the cycle as it was. -/
theorem ends_tell_sparing (spares : react.Keeps (.sparingTimer id))
    (known : id.number < w.cycles.size) (diff : Int) :
    (do Hooks.notifyTicked react (some id) diff; return true : Sim γ Bool).Ends w
      (fun _ w' => id.number < w'.cycles.size ∧ (w'.cycle id).timer = (w.cycle id).timer)
      fun _ w' => id.number < w'.cycles.size ∧ (w'.cycle id).timer = (w.cycle id).timer := by
  have tell : (do Hooks.notifyTicked react (some id) diff; return true : Sim γ Bool).Keeps
      (.sparingTimer id) := .bind (Hooks.notifyTicked_keeps spares _ _) fun _ => .pure _
  exact (tell w).mono (fun _ _ spares => spares known) fun _ _ spares => spares known

/-- **What an update makes of a cycle and its timer**, whether it returns or fails. -/
theorem ends_update_turn (spares : react.Keeps (.sparingTimer id))
    (known : id.number < w.cycles.size) (diff : Int) :
    (id.update react diff).Ends w
      (fun _ w' => id.number < w'.cycles.size ∧
        (w'.cycle id).timer = (w.cycle id).timer.turn diff)
      fun _ w' => id.number < w'.cycles.size ∧
        (w'.cycle id).timer = (w.cycle id).timer.turn diff := by
  rw [Sim.Ends, update_eq known, Timer.turn, ← Cycle.isDue]
  -- from where the timer stands as it will stand in the end, all the rest spares it
  cases due : (w.cycle id).isDue diff with
  | true =>
    have rest : (id.regenerate >>= id.conclude react diff).Keeps (.sparingTimer id) :=
      .bind (regenerate_keeps (Contract.letsRoll_sparingTimer id))
        (conclude_keeps (Contract.letsTell_sparingTimer id) spares diff)
    have ripe : id.number < (w.ripe id diff).cycles.size := by
      simpa [World.ripe, World.passTime] using known
    have spared := (rest (w.ripe id diff)).mono (fun _ _ spares => spares ripe)
      fun _ _ spares => spares ripe
    rw [World.cycle_ripe known, Timer.reset_pass] at spared
    exact spared
  | false =>
    have passed : id.number < (w.passTime id diff).cycles.size := by
      simpa [World.passTime] using known
    have spared := ends_tell_sparing spares passed diff
    rw [World.cycle_passTime known] at spared
    exact spared

/-- After an update that rests, the timer shows the time that has passed. -/
theorem Rests.timer {diff : Int} (rests : id.Rests react diff w)
    (spares : react.Keeps (.sparingTimer id)) (known : id.number < w.cycles.size) :
    (((id.update react diff).worldLeft w).cycle id).timer = (w.cycle id).timer.pass diff := by
  have passed : id.number < (w.passTime id diff).cycles.size := by
    simpa [World.passTime] using known
  have told := (ends_tell_sparing spares passed diff).worldLeft.2
  rw [World.cycle_passTime known] at told
  rw [Sim.worldLeft, rests]
  exact told

/-- **An update rests as long as the interval has not elapsed, and no longer.** If it rested then,
the timer would not be set back. -/
theorem rests_iff (spares : react.Keeps (.sparingTimer id)) (known : id.number < w.cycles.size)
    (pos : 0 < (w.cycle id).timer.interval) (diff : Int) :
    id.Rests react diff w ↔ (w.cycle id).isDue diff = false := by
  refine ⟨fun rests => ?_, rests_of_early known⟩
  have onTime := Timer.onTime_turn pos diff
  rw [← (ends_update_turn spares known diff).worldLeft.2, rests.timer spares known] at onTime
  exact decide_eq_false (Int.not_le.2 onTime.below)

/-- **An update makes an attempt if and only if the interval has elapsed.** -/
theorem attempts_iff (spares : react.Keeps (.sparingTimer id)) (known : id.number < w.cycles.size)
    (pos : 0 < (w.cycle id).timer.interval) (diff : Int) :
    id.Attempts react diff w ↔ (w.cycle id).isDue diff = true := by
  rw [← not_iff_not, not_attempts_iff known, rests_iff spares known pos, Bool.not_eq_true]

/-! ### Updates, one after the other -/

/-- **Updates of a cycle, one after the other**, each with the time that passes and whether it makes
an attempt to roll the weather. An update may fail, and more may come nonetheless. Between two of
them anything may happen that leaves the timer alone. -/
inductive Updates (id : CycleId) (start : World γ) : List (Int × Bool) → World γ → Prop
  /-- There was none yet. -/
  | none : Updates id start [] start
  /-- Something else happens. -/
  | meanwhile {us : List (Int × Bool)} {w w' : World γ} (before : Updates id start us w)
      (spares : w.SparesTimer id w') : Updates id start us w'
  /-- There is an update. -/
  | update {us : List (Int × Bool)} {w : World γ} {react : Reaction γ} {diff : Int} {attempt : Bool}
      (before : Updates id start us w) (spares : react.Keeps (.sparingTimer id))
      (attempts : attempt = true ↔ id.Attempts react diff w) :
      Updates id start (us ++ [(diff, attempt)]) ((id.update react diff).worldLeft w)

namespace Updates

variable {id : CycleId} {start w : World γ} {us : List (Int × Bool)}

/-- The cycle is there all the while, and its timer stays on time. -/
theorem onTime (h : id.Updates start us w) (known : id.number < start.cycles.size)
    (onTime : (start.cycle id).timer.OnTime) :
    id.number < w.cycles.size ∧ (w.cycle id).timer.OnTime ∧
      (w.cycle id).timer.interval = (start.cycle id).timer.interval := by
  induction h with
  | none => exact ⟨known, onTime, rfl⟩
  | meanwhile before spares ih =>
    obtain ⟨known, onTime, interval⟩ := ih
    obtain ⟨still, timer⟩ := spares known
    rw [timer]
    exact ⟨still, onTime, interval⟩
  | update before spares attempts ih =>
    obtain ⟨known, onTime, interval⟩ := ih
    obtain ⟨still, timer⟩ := (ends_update_turn spares known _).worldLeft
    rw [timer]
    exact ⟨still, Timer.onTime_turn onTime.interval_pos _, (Timer.interval_turn ..).trans interval⟩

/-- One more update makes an attempt and the timer is set back, or the timer fills up. -/
theorem attempt_or_fill {react : Reaction γ} (spares : react.Keeps (.sparingTimer id))
    (known : id.number < w.cycles.size) (onTime : (w.cycle id).timer.OnTime) {diff : Int}
    (nonneg : 0 ≤ diff) {attempt : Bool} (attempts : attempt = true ↔ id.Attempts react diff w) :
    attempt = true ∧ (w.cycle id).timer.interval ≤ (w.cycle id).timer.current + diff ∧
        (((id.update react diff).worldLeft w).cycle id).timer.current = 0 ∨
      attempt = false ∧ (w.cycle id).timer.current + diff < (w.cycle id).timer.interval ∧
        (((id.update react diff).worldLeft w).cycle id).timer.current =
          (w.cycle id).timer.current + diff := by
  have due := attempts.trans (attempts_iff spares known onTime.interval_pos diff)
  rw [Cycle.isDue] at due
  rw [(ends_update_turn spares known diff).worldLeft.2]
  rcases onTime.turn_current nonneg with ⟨passed, reached, back⟩ | ⟨waiting, below, filled⟩
  · exact .inl ⟨due.2 passed, reached, back⟩
  · rw [waiting] at due
    exact .inr ⟨Bool.eq_false_iff.2 fun made => Bool.false_ne_true (due.1 made), below, filled⟩

variable (h : id.Updates start us w) (known : id.number < start.cycles.size)
  (pos : 0 < (start.cycle id).timer.interval) (fresh : (start.cycle id).timer.current = 0)
include h known pos fresh

/-- **Attempts take their time**: all that were made, an interval each, and what is on the timer do
not come to more than the time that has passed. -/
theorem intervals_le (forwards : ∀ u ∈ us, 0 ≤ u.1) :
    us.countP (·.2) * (start.cycle id).timer.interval + (w.cycle id).timer.current ≤
      (us.map (·.1)).sum := by
  have begin : (start.cycle id).timer.OnTime := ⟨by omega, by omega⟩
  induction h with
  | none => simp [fresh]
  | meanwhile before spares ih =>
    obtain ⟨known, -, -⟩ := before.onTime known begin
    rw [(spares known).2]
    exact ih forwards
  | @update us w react diff attempt before spares attempts ih =>
    obtain ⟨known, onTime, interval⟩ := before.onTime known begin
    have most := ih fun u mem => forwards u (by simp [mem])
    have nonneg : 0 ≤ diff := forwards (diff, attempt) (by simp)
    rw [List.map_append, List.sum_append, List.countP_append]
    rcases attempt_or_fill spares known onTime nonneg attempts with
      ⟨made, reached, after⟩ | ⟨none, -, after⟩
    · rw [after, made]
      rw [interval] at reached
      simp only [List.map_cons, List.map_nil, List.sum_cons, List.sum_nil, List.countP_singleton,
        if_true, Nat.cast_add, Nat.cast_one, Int.add_mul]
      omega
    · rw [after, none]
      simp only [List.map_cons, List.map_nil, List.sum_cons, List.sum_nil, List.countP_singleton,
        Bool.false_eq_true, if_false, Nat.add_zero]
      omega

/-- **Attempts at regular intervals**: if always the same time passes, and `period` updates are the
fewest that fill an interval, then every update whose number is a multiple of `period` makes an
attempt, and no other one does. -/
theorem attempt_iff_dvd {d : Int} (forwards : 0 < d) (uniform : ∀ u ∈ us, u.1 = d) {period : Int}
    (fewest : ∀ m, period ≤ m ↔ (start.cycle id).timer.interval ≤ m * d) :
    (w.cycle id).timer.current = us.length % period * d ∧
      ∀ (n : Nat) (u : Int × Bool), us[n]? = some u → (u.2 = true ↔ period ∣ n + 1) := by
  have begin : (start.cycle id).timer.OnTime := ⟨by omega, by omega⟩
  have some : 0 < period := by
    refine Int.not_le.1 fun none => ?_
    have := (fewest 0).1 none
    omega
  induction h with
  | none => simp [fresh]
  | meanwhile before spares ih =>
    obtain ⟨known, -, -⟩ := before.onTime known begin
    rw [(spares known).2]
    exact ih uniform
  | @update us w react diff attempt before spares attempts ih =>
    obtain ⟨known, onTime, interval⟩ := before.onTime known begin
    obtain ⟨current, early⟩ := ih fun u mem => uniform u (by simp [mem])
    obtain rfl : diff = d := uniform (diff, attempt) (by simp)
    -- the timer holds what the updates since the last attempt have filled in
    have elapsed : (w.cycle id).timer.current + diff = (us.length % period + 1) * diff := by
      rw [current, Int.add_mul, Int.one_mul]
    have last : (((id.update react diff).worldLeft w).cycle id).timer.current =
        (us.length + 1 : Int) % period * diff ∧
          (attempt = true ↔ period ∣ (us.length + 1 : Int)) := by
      have step := emod_succ (us.length : Int) some
      rw [Int.dvd_iff_emod_eq_zero]
      rcases attempt_or_fill spares known onTime forwards.le attempts with
        ⟨made, reached, after⟩ | ⟨none, below, after⟩
      · rw [elapsed, interval, ← fewest] at reached
        rw [if_pos reached] at step
        rw [after, step]
        exact ⟨(Int.zero_mul _).symm, iff_of_true made rfl⟩
      · rw [elapsed, interval, ← Int.not_le, ← fewest] at below
        rw [if_neg below] at step
        rw [after, elapsed, step, none]
        refine ⟨rfl, iff_of_false Bool.false_ne_true fun zero => ?_⟩
        have := Int.emod_nonneg us.length some.ne'
        omega
    refine ⟨by simpa using last.1, fun n u found => ?_⟩
    rcases Nat.lt_or_ge n us.length with old | new
    · rw [List.getElem?_append_left old] at found
      exact early n u found
    · obtain ⟨small, rfl⟩ := List.getElem?_eq_some_iff.1 found
      obtain rfl : n = us.length := by
        rw [List.length_append, List.length_singleton] at small
        omega
      rw [List.getElem_concat_length rfl]
      exact last.2

end Updates

/-- **The attempts of a cycle, by its timer.** An update that makes no attempt lets time pass and
tells the listeners of it, and does nothing else. However much time an update lets pass, forwards or
backwards, and whether it returns or fails, the timer stands below the interval afterwards, and not
below zero. From a timer that stands at zero on, all attempts take their time, an interval each; and
if always the same time passes, the attempts come as often as that time is needed to fill the
interval. -/
theorem attempts_paced {id : CycleId} {start : World γ} (known : id.number < start.cycles.size)
    (pos : 0 < (start.cycle id).timer.interval) :
    (∀ (react : Reaction γ) (diff : Int), ¬id.Attempts react diff start →
      id.update react diff start =
        (do Hooks.notifyTicked react (some id) diff; return true : Sim γ Bool)
          (start.passTime id diff)) ∧
    (∀ (react : Reaction γ) (diff : Int), react.Keeps (.sparingTimer id) →
      0 ≤ (((id.update react diff).worldLeft start).cycle id).timer.current ∧
        (((id.update react diff).worldLeft start).cycle id).timer.current <
          (start.cycle id).timer.interval) ∧
    ((start.cycle id).timer.current = 0 → ∀ (us : List (Int × Bool)) (w : World γ),
      id.Updates start us w →
        ((∀ u ∈ us, 0 ≤ u.1) →
          us.countP (·.2) * (start.cycle id).timer.interval + (w.cycle id).timer.current ≤
            (us.map (·.1)).sum) ∧
        ∀ d : Int, 0 < d → (∀ u ∈ us, u.1 = d) → ∀ (n : Nat) (u : Int × Bool), us[n]? = some u →
          (u.2 = true ↔ ⌈((start.cycle id).timer.interval / d : ℚ)⌉ ∣ (n + 1 : Int))) := by
  refine ⟨fun react diff none => (not_attempts_iff known).1 none, fun react diff spares => ?_,
    fun fresh us w updates => ⟨fun forwards => ?_, ?_⟩⟩
  · rw [(ends_update_turn spares known diff).worldLeft.2]
    have onTime := Timer.onTime_turn pos diff
    exact ⟨onTime.nonneg, onTime.below.trans_eq (Timer.interval_turn ..)⟩
  · exact updates.intervals_le known pos fresh forwards
  · intro d forwards uniform
    exact (updates.attempt_iff_dvd known pos fresh forwards uniform
      (ceil_le_iff (start.cycle id).timer.interval forwards)).2

end CycleId

/-! ### An interval that is filled in three -/

namespace Thirds

/-- A cycle with an interval of ten milliseconds, and nothing to draw from. -/
def start : World Script :=
  { cycles := #[{ zone := .text "a", table := some ⟨{}, {}, {}, {}⟩, timer := { interval := 10 } }]
    messenger := .recorder true
    random := {}
    engine := { tps_pos := standardTps_pos, random := {} } }

/-- The world after some updates in which four milliseconds pass each. -/
def after : Nat → World Script
  | 0 => start
  | n + 1 => (CycleId.update Call.note ⟨0⟩ 4).worldLeft (after n)

theorem updates_after :
    CycleId.Updates ⟨0⟩ start [(4, false), (4, false), (4, true)] (after 3) := by
  have spares : Reaction.Keeps Call.note (.sparingTimer (γ := Script) ⟨0⟩) :=
    Reaction.note_sparesTimer
  have attempts (n : Nat) (known : 0 < (after n).cycles.size)
      (pos : 0 < ((after n).cycle ⟨0⟩).timer.interval) {attempt : Bool}
      (due : ((after n).cycle ⟨0⟩).isDue 4 = attempt) :
      attempt = true ↔ CycleId.Attempts Call.note ⟨0⟩ 4 (after n) := by
    rw [CycleId.attempts_iff spares known pos, due]
  have first : CycleId.Updates ⟨0⟩ start [(4, false)] (after 1) :=
    .update .none spares (attempts 0 (by decide) (by decide) (by decide))
  have second : CycleId.Updates ⟨0⟩ start [(4, false), (4, false)] (after 2) :=
    .update first spares (attempts 1 (by decide) (by decide) (by decide))
  exact .update second spares (attempts 2 (by decide) (by decide) (by decide))

end Thirds

/-- In three updates of four milliseconds an interval of ten is filled, and what is more is dropped;
the attempt that is made then fails, and the timer is set back nonetheless. -/
theorem CycleId.attempts_paced_thirds :
    0 < Thirds.start.cycles.size ∧ (Thirds.start.cycle ⟨0⟩).timer.interval = 10 ∧
      (Thirds.start.cycle ⟨0⟩).timer.current = 0 ∧
      (CycleId.update Call.note ⟨0⟩ 4).returns (Thirds.after 2) = false ∧
      CycleId.Updates ⟨0⟩ Thirds.start [(4, false), (4, false), (4, true)] (Thirds.after 3) ∧
      1 * 10 + ((Thirds.after 3).cycle ⟨0⟩).timer.current ≤ 12 ∧ ⌈(10 / 4 : ℚ)⌉ ∣ (3 : Int) := by
  have known : 0 < Thirds.start.cycles.size := by decide
  have pos : 0 < (Thirds.start.cycle ⟨0⟩).timer.interval := by decide
  obtain ⟨-, -, paced⟩ := @attempts_paced Script _ ⟨0⟩ _ known pos
  obtain ⟨least, often⟩ := paced rfl _ _ Thirds.updates_after
  have third := (often 4 (by decide) (by decide) 2 (4, true) rfl).1 rfl
  exact ⟨known, rfl, rfl, by decide, Thirds.updates_after, least (by decide), third⟩

end Microclimate
