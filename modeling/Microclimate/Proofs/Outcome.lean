import Microclimate.World

/-!
# What a change of a world comes to

A change of a world returns or fails, and it leaves a world behind in either case. This file is
about the two ways of saying what it comes to.

* `Microclimate.Sim.Ends` follows one change from one world on: what holds of its answer and of the
  world it leaves if it returns, and what holds of its fault and of that world if it fails. It
  passes through the making of a change step by step (`Microclimate.Sim.ends_bind`), so that it can
  be computed.
* `Microclimate.Sim.Keeps` holds a change to a `Microclimate.Contract` from every world: a relation
  between the world before and the world left behind that can be **chained**. Whatever is made of
  changes that keep a contract keeps it too, and that is how one gets round actors who call back:
  the contract is all that is known of what they do.

Where nothing depends on whether a change fails, the contract is `Microclimate.Contract.always` of a
relation.
-/

namespace Microclimate

variable {γ α β : Type}

/-- The world that a change leaves, whether it returned or failed. -/
def Sim.worldLeft (x : Sim γ α) (w : World γ) : World γ :=
  match x w with
  | .ok _ w' | .error _ w' => w'

/-- Does a change return? -/
def Sim.returns (x : Sim γ α) (w : World γ) : Bool :=
  match x w with
  | .ok .. => true
  | .error .. => false

/-- A change that returns does so in the world that it leaves. -/
theorem Sim.ok_of_returns {x : Sim γ α} {w : World γ} (h : x.returns w = true) :
    ∃ a, x w = .ok a (x.worldLeft w) := by
  rw [returns] at h
  rw [worldLeft]
  cases hx : x w with
  | ok a w' => exact ⟨a, rfl⟩
  | error f w' =>
    rw [hx] at h
    cases h

/-- Where one change returns, the next one takes over. -/
theorem Sim.bind_of_ok {x : Sim γ α} {f : α → Sim γ β} {a : α} {w w' : World γ}
    (h : x w = .ok a w') : (x >>= f) w = f a w' := by
  change EStateM.bind x f w = _
  rw [EStateM.bind, h]

/-- Where one change fails, the next one is not made. -/
theorem Sim.bind_of_error {x : Sim γ α} {f : α → Sim γ β} {fault : Fault} {w w' : World γ}
    (h : x w = .error fault w') : (x >>= f) w = .error fault w' := by
  change EStateM.bind x f w = _
  rw [EStateM.bind, h]

/-- A look at the world leaves it as it is to what comes next. -/
theorem Sim.get_bind (f : World γ → Sim γ β) (w : World γ) :
    ((get : Sim γ (World γ)) >>= f) w = f w w := bind_of_ok rfl

/-- Two changes in a row return if and only if the first one does, and the second one from there. -/
theorem Sim.bind_ok_iff {x : Sim γ α} {f : α → Sim γ β} {b : β} {w w' : World γ} :
    (x >>= f) w = .ok b w' ↔ ∃ a v, x w = .ok a v ∧ f a v = .ok b w' := by
  change EStateM.bind x f w = _ ↔ _
  rw [EStateM.bind]
  cases x w with
  | ok a v =>
    refine ⟨fun h => ⟨a, v, rfl, h⟩, ?_⟩
    rintro ⟨_, _, same, h⟩
    cases same
    exact h
  | error f v => simp

/-- **How a change ends**: from the world `w` on it returns with an answer in a world of which
`good` holds, or fails with a fault in a world of which `bad` holds. -/
def Sim.Ends (x : Sim γ α) (w : World γ) (good : α → World γ → Prop)
    (bad : Fault → World γ → Prop) : Prop :=
  match x w with
  | .ok a w' => good a w'
  | .error f w' => bad f w'

namespace Sim

/-! ### Following a change through its steps -/

section Ends

variable {w : World γ} {bad : Fault → World γ → Prop}

@[simp] theorem ends_pure {good : α → World γ → Prop} (a : α) :
    (pure a : Sim γ α).Ends w good bad ↔ good a w := Iff.rfl

@[simp] theorem ends_throw {good : α → World γ → Prop} (f : Fault) :
    (throw f : Sim γ α).Ends w good bad ↔ bad f w := Iff.rfl

@[simp] theorem ends_get {good : World γ → World γ → Prop} :
    (get : Sim γ (World γ)).Ends w good bad ↔ good w w := Iff.rfl

@[simp] theorem ends_set {good : PUnit → World γ → Prop} (v : World γ) :
    (set v : Sim γ PUnit).Ends w good bad ↔ good ⟨⟩ v := Iff.rfl

@[simp] theorem ends_modify {good : PUnit → World γ → Prop} (f : World γ → World γ) :
    (modify f : Sim γ PUnit).Ends w good bad ↔ good ⟨⟩ (f w) := Iff.rfl

@[simp] theorem ends_modifyGet {good : α → World γ → Prop} (f : World γ → α × World γ) :
    (modifyGet f : Sim γ α).Ends w good bad ↔ good (f w).1 (f w).2 := Iff.rfl

/-- **One change after another** ends as the second one does from where the first one returns. -/
@[simp] theorem ends_bind {good : β → World γ → Prop} (x : Sim γ α) (f : α → Sim γ β) :
    (x >>= f).Ends w good bad ↔ x.Ends w (fun a w' => (f a).Ends w' good bad) bad := by
  simp only [Ends, bind, EStateM.bind]
  cases x w <;> rfl

@[simp] theorem ends_map {good : β → World γ → Prop} (x : Sim γ α) (f : α → β) :
    (f <$> x).Ends w good bad ↔ x.Ends w (fun a w' => good (f a) w') bad := by
  simp only [Ends, Functor.map, EStateM.map]
  cases x w <;> rfl

@[simp] theorem ends_discard {good : PUnit → World γ → Prop} (x : Sim γ α) :
    (discard x : Sim γ PUnit).Ends w good bad ↔ x.Ends w (fun _ w' => good ⟨⟩ w') bad :=
  ends_map x _

@[simp] theorem ends_ite {good : α → World γ → Prop} (p : Prop) [Decidable p] (x y : Sim γ α) :
    (if p then x else y).Ends w good bad ↔ if p then x.Ends w good bad else y.Ends w good bad := by
  split <;> rfl

@[simp] theorem ends_emit {good : Unit → World γ → Prop} (e : Event) :
    (emit e : Sim γ Unit).Ends w good bad ↔ good () (w.emit e) := Iff.rfl

@[simp] theorem ends_log {good : Unit → World γ → Prop} (r : Record) :
    (log r : Sim γ Unit).Ends w good bad ↔ good () (w.emit (.logged r)) := Iff.rfl

@[simp] theorem ends_cycle {good : Cycle → World γ → Prop} (id : CycleId) :
    (cycle id : Sim γ Cycle).Ends w good bad ↔ good (w.cycle id) w := Iff.rfl

@[simp] theorem ends_editCycle {good : Unit → World γ → Prop} (id : CycleId) (f : Cycle → Cycle) :
    (editCycle id f : Sim γ Unit).Ends w good bad ↔ good () (w.editCycle id f) := Iff.rfl

@[simp] theorem ends_dispatch {good : Unit → World γ → Prop} (id : CycleId) (receiver : Receiver)
    (packet : Packet) :
    (dispatch id receiver packet : Sim γ Unit).Ends w good bad ↔
      good () (w.dispatch id receiver packet) := Iff.rfl

theorem ends_lift {good : α → World γ → Prop} (r : Except Fault α) :
    (lift r : Sim γ α).Ends w good bad ↔
      match r with
      | .ok a => good a w
      | .error f => bad f w := by
  cases r <;> rfl

/-- The day can be told if the clock shows one. -/
theorem ends_dayOfYear {good : Int → World γ → Prop} :
    (dayOfYear : Sim γ Int).Ends w good bad ↔
      match w.clock.dayOfYear with
      | .ok day => good day w
      | .error f => bad f w := by
  rw [dayOfYear, ends_bind, ends_get, ends_lift]
  cases w.clock.dayOfYear <;> rfl

@[simp] theorem ends_requireKey {good : Unit → World γ → Prop} (v : Value) :
    (requireKey v : Sim γ Unit).Ends w good bad ↔
      if v.isKey then good () w else bad (.notAKey v) w := by
  simp [requireKey]

@[simp] theorem ends_draw {good : α → World γ → Prop} (owner : Owner) (d : EStateM Fault γ α)
    (event : Option α → Event) :
    (draw owner d event : Sim γ α).Ends w good bad ↔
      match d (w.source owner) with
      | .ok a g => good a ((w.setSource owner g).emit (event (some a)))
      | .error f g => bad f ((w.setSource owner g).emit (event none)) := by
  simp only [Ends, draw]
  cases d (w.source owner) <;> rfl

/-- A change ends in accordance with anything that follows from how it ends. -/
theorem Ends.mono {x : Sim γ α} {good good' : α → World γ → Prop} {bad' : Fault → World γ → Prop}
    (h : x.Ends w good bad) (hgood : ∀ a w', good a w' → good' a w')
    (hbad : ∀ f w', bad f w' → bad' f w') : x.Ends w good' bad' := by
  simp only [Ends] at h ⊢
  cases hx : x w with
  | ok a w' => exact hgood a w' (by simpa only [hx] using h)
  | error f w' => exact hbad f w' (by simpa only [hx] using h)

theorem Ends.and {x : Sim γ α} {good good' : α → World γ → Prop} {bad' : Fault → World γ → Prop}
    (h : x.Ends w good bad) (h' : x.Ends w good' bad') :
    x.Ends w (fun a w' => good a w' ∧ good' a w') (fun f w' => bad f w' ∧ bad' f w') := by
  simp only [Ends] at h h' ⊢
  cases hx : x w with
  | ok a w' => exact ⟨by simpa only [hx] using h, by simpa only [hx] using h'⟩
  | error f w' => exact ⟨by simpa only [hx] using h, by simpa only [hx] using h'⟩

/-- What holds however a change ends holds of the world that it leaves. -/
theorem Ends.worldLeft {x : Sim γ α} {P : World γ → Prop}
    (h : x.Ends w (fun _ w' => P w') fun _ w' => P w') : P (x.worldLeft w) := by
  simp only [Ends] at h
  simp only [Sim.worldLeft]
  cases hx : x w with
  | ok a w' => simpa only [hx] using h
  | error f w' => simpa only [hx] using h

/-- What holds of the ends of a change holds when it has returned. -/
theorem Ends.of_ok {x : Sim γ α} {good : α → World γ → Prop} {a : α} {w' : World γ}
    (h : x.Ends w good bad) (hx : x w = .ok a w') : good a w' := by
  simpa only [Ends, hx] using h

/-- Every change ends somehow: it returns what it returns, or fails as it fails. -/
theorem ends_self (x : Sim γ α) (w : World γ) :
    x.Ends w (fun a w' => x w = .ok a w') (fun f w' => x w = .error f w') := by
  simp only [Ends]
  cases x w <;> rfl

end Ends

end Sim

/-! ### Contracts -/

/-- What a change of a world is held to: how the world it leaves is related to the world it starts
from, when it returns and when it fails. -/
structure Contract (γ : Type) where
  /-- From the world before to the world in which a change returns. -/
  good : World γ → World γ → Prop
  /-- From the world before to the world in which a change fails. -/
  bad : Fault → World γ → World γ → Prop
  /-- Doing nothing is allowed. -/
  refl : ∀ w, good w w
  /-- What is allowed may be done twice. -/
  trans : ∀ {a b c}, good a b → good b c → good a c
  /-- Whoever does what is allowed may fail afterwards. -/
  bad_trans : ∀ {f a b c}, good a b → bad f b c → bad f a c

/-- The contract that asks for a relation between the worlds whether a change returns or fails. -/
def Contract.always (R : World γ → World γ → Prop) (refl : ∀ w, R w w)
    (trans : ∀ {a b c}, R a b → R b c → R a c) : Contract γ where
  good := R
  bad _ := R
  refl := refl
  trans := trans
  bad_trans := trans

/-- **A change keeps a contract** if it does so from every world. -/
def Sim.Keeps (x : Sim γ α) (c : Contract γ) : Prop :=
  ∀ w, x.Ends w (fun _ w' => c.good w w') (fun f w' => c.bad f w w')

/-- Actors keep a contract if they do so in every call. -/
def Reaction.Keeps (react : Reaction γ) (c : Contract γ) : Prop := ∀ call, (react call).Keeps c

namespace Sim.Keeps

variable {c : Contract γ}

theorem pure (a : α) : (pure a : Sim γ α).Keeps c := fun w => c.refl w

theorem get : (get : Sim γ (World γ)).Keeps c := fun w => c.refl w

theorem cycle (id : CycleId) : (Sim.cycle id : Sim γ Cycle).Keeps c := fun w => c.refl w

theorem throw {f : Fault} (h : ∀ w, c.bad f w w) : (throw f : Sim γ α).Keeps c := h

/-- From the world of `a` on, a change goes on from where it is as it would from `b`. -/
theorem ends_trans {x : Sim γ α} {a b : World γ} (hx : x.Keeps c) (h : c.good a b) :
    x.Ends b (fun _ w' => c.good a w') (fun f w' => c.bad f a w') :=
  (hx b).mono (fun _ _ => c.trans h) fun _ _ => c.bad_trans h

theorem bind {x : Sim γ α} {f : α → Sim γ β} (hx : x.Keeps c) (hf : ∀ a, (f a).Keeps c) :
    (x >>= f).Keeps c := by
  intro w
  rw [ends_bind]
  exact (hx w).mono (fun a _ h => (hf a).ends_trans h) fun _ _ h => h

theorem map {x : Sim γ α} {f : α → β} (hx : x.Keeps c) : (f <$> x).Keeps c := by
  intro w
  rw [ends_map]
  exact hx w

theorem discard {x : Sim γ α} (hx : x.Keeps c) : (discard x : Sim γ PUnit).Keeps c := hx.map

theorem ite {p : Prop} [Decidable p] {x y : Sim γ α} (hx : x.Keeps c) (hy : y.Keeps c) :
    (if p then x else y).Keeps c := by
  split
  · exact hx
  · exact hy

theorem forM {f : α → Sim γ PUnit} (l : List α) (hf : ∀ a ∈ l, (f a).Keeps c) :
    (l.forM f).Keeps c := by
  induction l with
  | nil => exact pure _
  | cons a l ih => exact bind (hf a (by simp)) fun _ => ih fun b hb => hf b (by simp [hb])

/-- Under a contract that asks for a relation always, the relation holds of the world left behind.
-/
theorem worldLeft {R : World γ → World γ → Prop} {refl : ∀ w, R w w}
    {trans : ∀ {a b c}, R a b → R b c → R a c} {x : Sim γ α}
    (hx : x.Keeps (.always R refl trans)) (w : World γ) : R w (x.worldLeft w) :=
  Ends.worldLeft (hx w)

end Sim.Keeps

end Microclimate
