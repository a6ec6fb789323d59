import Mathlib.Data.List.Basic
import Microclimate.Proofs.Departures
import Microclimate.Proofs.Recording

/-!
# Unsubscribing

A listener may be in the list of those who hear of updates, and in the list of those who hear of
changes, and in each of them several times. Unsubscribing takes out **one** entry of each list. So
it is final for a listener who is in no list more than once, and for nobody else: whoever had
subscribed twice goes on being called, once less than before.

To the other listeners it makes no difference. What they are told, how often and in which order,
depends on their own subscriptions alone.

* `Microclimate.Registration`, `Microclimate.Hooks.after` – what is done to the hooks, and what
  becomes of them;
* `Microclimate.Notice`, `Microclimate.Notice.calls` – notifications, and whom they call;
* `Microclimate.Hooks.others_after` – **what others hear is up to the others**;
* `Microclimate.Hooks.count_after` – how often a listener is still in a list;
* `Microclimate.Hooks.unsubscribe_final_iff` – **for whom unsubscribing is final.**
-/

namespace Microclimate

variable {γ : Type}

/-! ### Registrations -/

/-- What is done to the hooks. -/
inductive Registration where
  /-- A listener subscribes to updates. -/
  | onTicked (listener : ActorName)
  /-- A listener subscribes to changes. -/
  | onChanged (listener : ActorName)
  /-- A listener unsubscribes. -/
  | unsubscribe (listener : ActorName)
  /-- All subscriptions are dropped. -/
  | clear
  deriving DecidableEq

namespace Registration

/-- The hooks that a registration leaves. -/
def apply (h : Hooks) : Registration → Hooks
  | onTicked listener => h.onTicked listener
  | onChanged listener => h.onChanged listener
  | unsubscribe listener => h.unsubscribe listener
  | clear => h.clear

/-- The command that makes a registration. -/
def command : Registration → HooksCommand
  | onTicked listener => .onTicked listener
  | onChanged listener => .onChanged listener
  | unsubscribe listener => .unsubscribe listener
  | clear => .clear

/-- Makes a registration in the hooks of a world. -/
def make (react : Reaction γ) (r : Registration) : Sim γ Unit :=
  discard (r.command.perform react)

/-- A listener subscribes, to updates or to changes. -/
def Subscribes (listener : ActorName) (r : Registration) : Prop :=
  r = onTicked listener ∨ r = onChanged listener

/-- A registration is somebody's: they subscribe or unsubscribe. -/
def IsOf (listener : ActorName) (r : Registration) : Prop :=
  r.Subscribes listener ∨ r = unsubscribe listener

instance (listener : ActorName) : DecidablePred (IsOf listener) := fun _ =>
  inferInstanceAs (Decidable ((_ ∨ _) ∨ _))

end Registration

/-- The hooks after some registrations. -/
def Hooks.after (h : Hooks) (rs : List Registration) : Hooks := rs.foldl Registration.apply h

/-- **Registrations change the hooks** and nothing else. -/
theorem Registration.forM_make (react : Reaction γ) (rs : List Registration) (w : World γ) :
    (rs.forM (make react)) w = .ok ⟨⟩ { w with hooks := w.hooks.after rs } := by
  induction rs generalizing w with
  | nil => rfl
  | cons r rs ih =>
    have made : r.make react w = .ok ⟨⟩ { w with hooks := r.apply w.hooks } := by cases r <;> rfl
    exact (Sim.bind_of_ok made).trans (ih _)

/-! ### Notifications -/

/-- What listeners are told. -/
inductive Notice where
  /-- A cycle was updated. -/
  | ticked (cycle : Option CycleId) (diff : Int)
  /-- The weather has changed. -/
  | changed (cycle : Option CycleId) (state : WeatherState) (intensity : Float)

namespace Notice

/-- Tells all listeners. -/
def send (react : Reaction γ) : Notice → Sim γ Unit
  | ticked cycle diff => Hooks.notifyTicked react cycle diff
  | changed cycle state intensity => Hooks.notifyChanged react cycle state intensity

/-- The list of those who are told. -/
def listeners (h : Hooks) : Notice → List ActorName
  | ticked .. => h.ticked
  | changed .. => h.changed

/-- The call of one of them. -/
def call (listener : ActorName) : Notice → Call
  | ticked cycle diff => .ticked listener cycle diff
  | changed cycle state intensity => .changed listener cycle state intensity

/-- All calls, in order. -/
def calls (h : Hooks) (n : Notice) : List Call := (n.listeners h).map (n.call ·)

@[simp] theorem actor_call (n : Notice) (listener : ActorName) :
    (n.call listener).actor = listener := by
  cases n <;> rfl

/-- **A notification makes these calls and no others**, by the hooks as they are when it starts. -/
theorem send_eq (react : Reaction γ) (n : Notice) (w : World γ) :
    n.send react w = (n.calls w.hooks).forM react w := by
  have all (l : List ActorName) (f : ActorName → Call) :
      (l.map f).forM react = l.forM fun listener => react (f listener) := by
    induction l with
    | nil => rfl
    | cons listener l ih => exact congrArg (react (f listener) >>= ·) (funext fun _ => ih)
  cases n <;> exact (congrFun (all ..) w).symm

end Notice

/-! ### The other listeners -/

namespace Hooks

/-- The hooks without a listener. -/
def others (listener : ActorName) (h : Hooks) : Hooks :=
  ⟨h.ticked.filter (· ≠ listener), h.changed.filter (· ≠ listener)⟩

variable (listener : ActorName) (h : Hooks)

/-- A listener who subscribes or unsubscribes changes nothing for the others. -/
theorem others_apply_of_isOf {r : Registration} (own : r.IsOf listener) :
    (r.apply h).others listener = h.others listener := by
  obtain (rfl | rfl) | rfl := own
  · simp [Registration.apply, others, onTicked]
  · simp [Registration.apply, others, onChanged]
  · simp [Registration.apply, others, unsubscribe, ← List.erase_filter, List.erase_of_not_mem]

/-- What else is done to the hooks is done to the others. -/
theorem others_apply_of_not_isOf {r : Registration} (foreign : ¬r.IsOf listener) :
    (r.apply h).others listener = r.apply (h.others listener) := by
  cases r with
  | onTicked other =>
    have apart : other ≠ listener := fun same => foreign (.inl (.inl (same ▸ rfl)))
    simp [Registration.apply, others, onTicked, apart]
  | onChanged other =>
    have apart : other ≠ listener := fun same => foreign (.inl (.inr (same ▸ rfl)))
    simp [Registration.apply, others, onChanged, apart]
  | unsubscribe other => simp [Registration.apply, others, unsubscribe, List.erase_filter]
  | clear => rfl

/-- **What others hear is up to the others.** -/
theorem others_after (rs : List Registration) :
    (h.after rs).others listener =
      (h.others listener).after (rs.filter fun r => ¬r.IsOf listener) := by
  induction rs generalizing h with
  | nil => rfl
  | cons r rs ih =>
    by_cases own : r.IsOf listener
    · rw [List.filter_cons_of_neg (by simpa using own), ← h.others_apply_of_isOf listener own]
      exact ih (r.apply h)
    · rw [List.filter_cons_of_pos (by simpa using own)]
      exact (ih (r.apply h)).trans (by rw [h.others_apply_of_not_isOf listener own]; rfl)

/-! ### The listener -/

/-- How often a listener is in a list, after some registration that is no subscription of theirs. -/
theorem count_apply (n : Notice) {r : Registration} (leaves : ¬r.Subscribes listener) :
    (n.listeners (r.apply h)).count listener =
      if r = .clear then 0
      else (n.listeners h).count listener - [r].count (.unsubscribe listener) := by
  cases r with
  | onTicked other =>
    have apart : other ≠ listener := fun same => leaves (.inl (same ▸ rfl))
    cases n <;> simp [Registration.apply, Notice.listeners, onTicked, apart]
  | onChanged other =>
    have apart : other ≠ listener := fun same => leaves (.inr (same ▸ rfl))
    cases n <;> simp [Registration.apply, Notice.listeners, onChanged, apart]
  | unsubscribe other =>
    by_cases same : other = listener
    · subst same
      cases n <;> simp [Registration.apply, Notice.listeners, unsubscribe]
    · cases n <;> simp [Registration.apply, Notice.listeners, unsubscribe, same,
        List.count_erase_of_ne (Ne.symm same)]
  | clear => cases n <;> rfl

/-- **How often a listener is still in a list** who does not subscribe any more: each time that they
unsubscribe, it is once less, and it is never again after all subscriptions are dropped. -/
theorem count_after (n : Notice) {rs : List Registration}
    (leaves : ∀ r ∈ rs, ¬r.Subscribes listener) :
    (n.listeners (h.after rs)).count listener =
      if .clear ∈ rs then 0
      else (n.listeners h).count listener - rs.count (.unsubscribe listener) := by
  induction rs generalizing h with
  | nil => simp [after]
  | cons r rs ih =>
    have step := h.count_apply listener n (leaves r (by simp))
    have rest := ih (r.apply h) fun r mem => leaves r (by simp [mem])
    rw [step] at rest
    refine rest.trans ?_
    by_cases dropped : .clear ∈ rs
    · rw [if_pos dropped, if_pos (List.mem_cons_of_mem r dropped)]
    by_cases last : r = .clear
    · rw [if_neg dropped, if_pos last, if_pos (by simp [last]), Nat.zero_sub]
    · rw [if_neg dropped, if_neg last, if_neg (by simp [dropped, Ne.symm last]), Nat.sub_sub,
        ← List.count_append]
      rfl

/-! ### Calls -/

/-- The calls of a listener are as many as their entries in the list. -/
theorem length_calls (n : Notice) (listener : ActorName) (h : Hooks) :
    ((n.calls h).filter (·.actor = listener)).length = (n.listeners h).count listener := by
  rw [← List.countP_eq_length_filter, Notice.calls, List.countP_map, List.count]
  refine List.countP_congr fun other _ => ?_
  simp

/-- The calls of the others are those that are made without the listener. -/
theorem calls_others (n : Notice) (listener : ActorName) (h : Hooks) :
    (n.calls h).filter (·.actor ≠ listener) = n.calls (h.others listener) := by
  rw [Notice.calls, List.filter_map]
  cases n <;> simp [Notice.calls, Notice.listeners, others, Function.comp_def]

/-- **How often a listener is called who has unsubscribed**, and does not subscribe again. -/
theorem length_calls_unsubscribe (listener : ActorName) (h : Hooks) (n : Notice)
    {later : List Registration} (leaves : ∀ r ∈ later, ¬r.Subscribes listener) :
    ((n.calls (h.after (.unsubscribe listener :: later))).filter (·.actor = listener)).length =
      if .clear ∈ later then 0
      else (n.listeners h).count listener - 1 - later.count (.unsubscribe listener) := by
  have all : ∀ r ∈ .unsubscribe listener :: later, ¬r.Subscribes listener := by
    rintro r (_ | ⟨_, mem⟩)
    · exact fun subscribes => nomatch subscribes
    · exact leaves r mem
  rw [length_calls, count_after listener h n all]
  by_cases dropped : .clear ∈ later
  · rw [if_pos dropped, if_pos (List.mem_cons_of_mem _ dropped)]
  · rw [if_neg dropped, if_neg (by simp [dropped]), List.count_cons_self, Nat.sub_sub,
      Nat.add_comm]

/-- **Others are called as if the listener had not unsubscribed.** -/
theorem calls_others_unsubscribe (listener : ActorName) (h : Hooks) (n : Notice)
    (later : List Registration) :
    (n.calls (h.after (.unsubscribe listener :: later))).filter (·.actor ≠ listener) =
      (n.calls (h.after later)).filter (·.actor ≠ listener) := by
  rw [calls_others, calls_others, others_after, others_after,
    List.filter_cons_of_neg (by simp [Registration.IsOf])]

/-- **For whom unsubscribing is final.** From any world on a listener unsubscribes, then anything
else is done to the hooks, and then a notification is sent.

* The listener is called by no notification, as long as they do not subscribe again, if and only if
  they were in neither list more than once.
* In any case, they are called as often as they were in the list, but once less for each time that
  they have unsubscribed, and not at all once all subscriptions were dropped.
* All others are called as if the listener had not unsubscribed, as often and in the same order. -/
theorem unsubscribe_final_iff (w : World γ) (listener : ActorName) :
    ((∀ later, (∀ r ∈ later, ¬r.Subscribes listener) → ∀ n : Notice,
        ∀ call ∈ n.calls (w.hooks.after (.unsubscribe listener :: later)), call.actor ≠ listener) ↔
      w.hooks.ticked.count listener ≤ 1 ∧ w.hooks.changed.count listener ≤ 1) ∧
    (∀ later, (∀ r ∈ later, ¬r.Subscribes listener) → ∀ n : Notice,
      ((n.calls (w.hooks.after (.unsubscribe listener :: later))).filter
          (·.actor = listener)).length =
        if .clear ∈ later then 0
        else (n.listeners w.hooks).count listener - 1 - later.count (.unsubscribe listener)) ∧
    (∀ later (n : Notice),
      (n.calls (w.hooks.after (.unsubscribe listener :: later))).filter (·.actor ≠ listener) =
        (n.calls (w.hooks.after later)).filter (·.actor ≠ listener)) ∧
    ∀ (react : Reaction γ) (later : List Registration) (n : Notice),
      (do (Registration.unsubscribe listener :: later).forM (·.make react); n.send react) w =
        (n.calls (w.hooks.after (.unsubscribe listener :: later))).forM react
          { w with hooks := w.hooks.after (.unsubscribe listener :: later) } := by
  have silent (n : Notice) (h : Hooks) : (∀ call ∈ n.calls h, call.actor ≠ listener) ↔
      ((n.calls h).filter (·.actor = listener)).length = 0 := by
    simp [List.filter_eq_nil_iff]
  refine ⟨⟨fun final => ?_, fun ⟨once, once'⟩ later leaves n => ?_⟩, ?_, ?_, ?_⟩
  · -- the first notifications of either kind tell what is left
    have once (n : Notice) : (n.listeners w.hooks).count listener ≤ 1 := by
      have counted := @length_calls_unsubscribe listener w.hooks n [] (by simp)
      rw [(silent n _).1 (final [] (by simp) n)] at counted
      exact Nat.le_of_sub_eq_zero (by simpa using counted.symm)
    exact ⟨once (.ticked none 0), once (.changed none .fine 0.0)⟩
  · have once : (n.listeners w.hooks).count listener ≤ 1 := by cases n <;> assumption
    rw [silent, length_calls_unsubscribe listener w.hooks n leaves, Nat.sub_eq_zero_of_le once]
    simp
  · exact fun later leaves n => length_calls_unsubscribe listener w.hooks n leaves
  · exact fun later n => calls_others_unsubscribe listener w.hooks n later
  · intro react later n
    rw [Sim.bind_of_ok (Registration.forM_make react _ w), n.send_eq]

end Hooks

namespace TwoZones

/-- Somebody who cannot wait to hear of updates. -/
def eager : ActorName := "eager"

/-- They have subscribed twice. -/
def twice : World Script :=
  (idle {} : World Script).afterAll {} .recording 1
    [.hooks (.onTicked eager), .hooks (.onTicked eager)]

theorem ticked_twice : twice.hooks.ticked = [eager, eager] := by decide +kernel

end TwoZones

open TwoZones in
/-- Whoever has subscribed twice is still called after unsubscribing. -/
theorem Hooks.unsubscribe_final_iff_twice :
    (¬∀ later, (∀ r ∈ later, ¬r.Subscribes eager) → ∀ n : Notice,
        ∀ call ∈ n.calls (twice.hooks.after (.unsubscribe eager :: later)), call.actor ≠ eager) ∧
      (((Notice.ticked none 10).calls (twice.hooks.after [.unsubscribe eager])).filter
        (·.actor = eager)).length = 1 := by
  obtain ⟨final, counts, -⟩ := unsubscribe_final_iff twice eager
  refine ⟨fun silent => absurd (final.1 silent).1 ?_, (counts [] (by simp) _).trans ?_⟩
  · rw [ticked_twice]
    decide
  · rw [Notice.listeners, ticked_twice]
    decide

end Microclimate
