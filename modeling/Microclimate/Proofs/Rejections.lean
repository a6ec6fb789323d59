import Microclimate.Proofs.Intensities
import Microclimate.Proofs.Outcome
import Microclimate.Proofs.TickLength
import Microclimate.Proofs.Views
import Microclimate.Random.HalfNormal
import Microclimate.Random.Script

/-!
# Which draw becomes an intensity

An intensity is the distance from zero of a double that is drawn again until it lies below 1.
Nothing bounds the number of draws, and a source may answer with what is not a number, with
infinities, and with doubles at or beyond 1, which are all rejected.

This file follows a script, whose answers are known, to the end. A drawing of an intensity takes
the **first** answer that is near zero, and no answer after it. If there is no such answer, it takes
all of them and fails as the script does once it is used up; it never gives up by itself.

* `Microclimate.Near` – the doubles between -1 and 1, which are the ones that are accepted
  (`Microclimate.near_iff`); their distance from zero is exact (`Microclimate.Near.value_abs`);
* `Microclimate.World.drawn` – a world in which some answers were taken from its script;
* `Microclimate.HalfNormal.drawWithin_of_first`, `Microclimate.HalfNormal.drawWithin_of_none` – what
  a drawing comes to that may go on for longer than the script does;
* `Microclimate.HalfNormal.draw_script` – **what becomes of any script.**
-/

namespace Microclimate

open Float.Model Float.Model.UnpackedFloat

/-! ### Distances from zero -/

/-- A double between -1 and 1, both excluded. -/
def Near (x : Float) : Prop := IsFinite x ∧ |value x| < 1

theorem canonical_abs {f : UnpackedFloat} (h : Canonical f) : Canonical f.abs := by
  cases f <;> exact h

theorem ofUnpacked_abs {f : UnpackedFloat} {q : ℚ} (h : Exact.ofUnpacked f = .real q) :
    Exact.ofUnpacked f.abs = .real |q| := by
  cases f with
  | notANumber => exact nomatch h
  | infinity s => exact nomatch h
  | zero s =>
    obtain rfl := Exact.real.inj h
    rw [abs_zero]
    rfl
  | finite s m e hm =>
    obtain rfl := Exact.real.inj h
    rw [abs_mul, abs_apply, abs_of_pos (zpow_pos two_pos e)]
    rfl

/-- Only of a finite double the distance from zero is finite, and then it is exact. -/
theorem value_abs {x : Float} (h : IsFinite x.abs) : IsFinite x ∧ value x.abs = |value x| := by
  have exact := h.ofFloat
  rw [Exact.ofFloat_eq] at exact
  have written : x.abs.toModel.unpack = x.toModel.unpack.abs := by
    refine unpack_pack (canonical_abs (canonical_unpack x)) fun {s m e hm} same => ?_
    by_contra! large
    change Exact.ofUnpacked (Float.ofModel (.pack x.toModel.unpack.abs)).toModel.unpack = _ at exact
    rw [same, unpack_pack_large hm large] at exact
    exact nomatch exact
  rw [written] at exact
  obtain ⟨q, real⟩ : ∃ q, Exact.ofUnpacked x.toModel.unpack = .real q := by
    cases hf : x.toModel.unpack with
    | notANumber => exact nomatch hf ▸ exact
    | infinity s => exact nomatch hf ▸ exact
    | zero s => exact ⟨_, rfl⟩
    | finite s m e hm => exact ⟨_, rfl⟩
  obtain ⟨finite, same⟩ := isFinite_iff real
  exact ⟨finite, same ▸ Exact.real.inj (exact.symm.trans (ofUnpacked_abs real))⟩

namespace Near

variable {x : Float} (h : Near x)
include h

theorem abs_writes : Writes x.toModel.unpack.abs |value x| 971 := by
  refine .of_small (canonical_abs (canonical_unpack x)) (ofUnpacked_abs h.1.ofUnpacked) ?_
  rw [abs_abs]
  exact h.2.trans (one_lt_pow₀ one_lt_two (by decide))

theorem value_abs : value x.abs = |value x| := (h.abs_writes.isFinite le_rfl).2

/-- **The distance of such a double from zero is an intensity.** -/
theorem inUnit_abs : InUnit x.abs :=
  inUnit_iff.2 ⟨(h.abs_writes.isFinite le_rfl).1, h.value_abs ▸ abs_nonneg _, h.value_abs ▸ h.2⟩

end Near

/-- **A double is accepted if and only if it is near zero.** -/
theorem near_iff {x : Float} : x.abs < 1.0 ↔ Near x := by
  refine ⟨fun accepted => ?_, fun near => near.inUnit_abs.2⟩
  obtain ⟨finite, -, below⟩ := inUnit_iff.1 (inUnit_abs accepted)
  obtain ⟨finite', same⟩ := value_abs finite
  exact ⟨finite', same ▸ below⟩

/-! ### Taking answers from a script -/

/-- The first answer is given, if there is any. -/
theorem Script.normal_eq (s : Script) :
    normal s =
      match s.normals with
      | [] => .error .drawsExhausted { s with normals := [] }
      | x :: rest => .ok x { s with normals := rest } := by
  obtain ⟨integers, normals⟩ := s
  cases normals <;> rfl

namespace World

variable (w : World Script)

/-- The doubles that the script of the weather has left. -/
def normals : List Float := (w.source w.weatherOwner).normals

/-- The world in which doubles were asked for as an intensity asks for them, some answers were given
in turn, and some doubles are left. -/
def drawn (answers : List (Option Float)) (left : List Float) : World Script :=
  let after := w.setSource w.weatherOwner { w.source w.weatherOwner with normals := left }
  { after with
    history := after.history ++
      answers.map fun a => (⟨.normalDrawn w.weatherOwner 0.0 0.4 a, w.toScene⟩ : Moment) }

@[simp] theorem toScene_drawn (answers : List (Option Float)) (left : List Float) :
    (w.drawn answers left).toScene = w.toScene :=
  w.toScene_setSource ..

@[simp] theorem weatherOwner_drawn (answers : List (Option Float)) (left : List Float) :
    (w.drawn answers left).weatherOwner = w.weatherOwner :=
  w.weatherOwner_setSource ..

@[simp] theorem source_drawn (answers : List (Option Float)) (left : List Float) :
    (w.drawn answers left).source w.weatherOwner =
      { w.source w.weatherOwner with normals := left } := by
  rw [drawn]
  cases w.weatherOwner <;> rfl

@[simp] theorem normals_drawn (answers : List (Option Float)) (left : List Float) :
    (w.drawn answers left).normals = left := by
  rw [normals, weatherOwner_drawn, source_drawn]

/-- One answer is taken by one request. -/
theorem emit_eq_drawn (answer : Option Float) (left : List Float) :
    (w.setSource w.weatherOwner { w.source w.weatherOwner with normals := left }).emit
        (.normalDrawn w.weatherOwner 0.0 0.4 answer) = w.drawn [answer] left := by
  rw [drawn]
  cases w.weatherOwner <;> rfl

/-- What is taken in two parts is taken. -/
theorem drawn_drawn (first second : List (Option Float)) (left right : List Float) :
    (w.drawn first left).drawn second right = w.drawn (first ++ second) right := by
  rw [drawn, toScene_drawn, weatherOwner_drawn, source_drawn, drawn, drawn]
  cases w.weatherOwner <;> simp [setSource, ← Array.toList_inj]

end World

namespace HalfNormal

variable (w : World Script)

/-- **The next answer of the script is taken**, if there is any. -/
theorem normal_script :
    (Sim.normal 0.0 spread : Sim Script Float) w =
      match w.normals with
      | [] => .error .drawsExhausted (w.drawn [none] [])
      | x :: rest => .ok x (w.drawn [some x] rest) := by
  have answered := (w.source w.weatherOwner).normal_eq
  change (Sim.normalOf w.weatherOwner 0.0 spread : Sim Script Float) w = _
  simp only [Sim.normalOf, Sim.draw, RandomSource.normal, answered, World.normals]
  cases (w.source w.weatherOwner).normals with
  | nil => exact congrArg _ (w.emit_eq_drawn none [])
  | cons x rest => exact congrArg _ (w.emit_eq_drawn (some x) rest)

/-- Whatever is rejected is followed by another try. -/
theorem drawWithin_of_far {x : Float} {rest : List Float} (next : w.normals = x :: rest)
    (far : ¬Near x) (tries : Nat) :
    drawWithin (tries + 1) w = drawWithin tries (w.drawn [some x] rest) := by
  have drawn := normal_script w
  rw [next] at drawn
  rw [drawWithin, Sim.bind_of_ok drawn, if_neg (mt near_iff.1 far)]

/-- **The first answer near zero is accepted**, and none is taken after it. -/
theorem drawWithin_of_first {before after : List Float} {x : Float} (far : ∀ y ∈ before, ¬Near y)
    (near : Near x) {tries : Nat} (patient : before.length < tries) {w : World Script}
    (script : w.normals = before ++ x :: after) :
    drawWithin tries w = .ok x.abs (w.drawn ((before ++ [x]).map some) after) := by
  induction before generalizing tries w with
  | nil =>
    obtain ⟨tries, rfl⟩ := Nat.exists_eq_add_one_of_ne_zero (Nat.ne_zero_of_lt patient)
    have drawn := normal_script w
    rw [script] at drawn
    rw [drawWithin, Sim.bind_of_ok drawn, if_pos (near_iff.2 near)]
    rfl
  | cons y before ih =>
    obtain ⟨tries, rfl⟩ := Nat.exists_eq_add_one_of_ne_zero (Nat.ne_zero_of_lt patient)
    rw [drawWithin_of_far w script (far y (by simp)),
      ih (fun z mem => far z (by simp [mem])) (Nat.lt_of_succ_lt_succ patient) (by simp),
      World.drawn_drawn]
    rfl

/-- **Where no answer is near zero, all of them are taken**, and the script fails. -/
theorem drawWithin_of_none {xs : List Float} (far : ∀ y ∈ xs, ¬Near y) {tries : Nat}
    (patient : xs.length < tries) {w : World Script} (script : w.normals = xs) :
    drawWithin tries w = .error .drawsExhausted (w.drawn (xs.map some ++ [none]) []) := by
  induction xs generalizing tries w with
  | nil =>
    obtain ⟨tries, rfl⟩ := Nat.exists_eq_add_one_of_ne_zero (Nat.ne_zero_of_lt patient)
    have refused := normal_script w
    rw [script] at refused
    rw [drawWithin, Sim.bind_of_error refused]
    rfl
  | cons y xs ih =>
    obtain ⟨tries, rfl⟩ := Nat.exists_eq_add_one_of_ne_zero (Nat.ne_zero_of_lt patient)
    rw [drawWithin_of_far w script (far y (by simp)),
      ih (fun z mem => far z (by simp [mem])) (Nat.lt_of_succ_lt_succ patient) (by simp),
      World.drawn_drawn]
    rfl

/-- **What a drawing of an intensity makes of any script.** If some answer is near zero, the
distance of the first such answer from zero is the intensity, and what comes after that answer is
left. If none is, nothing is left, and the drawing fails as the used-up script does. Either way,
every request is for a double around zero with the spread 0.4. -/
theorem draw_script :
    (∃ before x after, w.normals = before ++ x :: after ∧ (∀ y ∈ before, ¬Near y) ∧ Near x ∧
        InUnit x.abs ∧ value x.abs = |value x| ∧
        draw w = .ok x.abs (w.drawn ((before ++ [x]).map some) after)) ∨
      (∀ y ∈ w.normals, ¬Near y) ∧
        draw w = .error .drawsExhausted (w.drawn (w.normals.map some ++ [none]) []) := by
  have patience : draw w = drawWithin (w.normals.length + 1) w := rfl
  rw [patience]
  cases h : w.normals.find? fun x => x.abs < 1.0 with
  | some x =>
    obtain ⟨accepted, before, after, script, rejected⟩ := List.find?_eq_some_iff_append.1 h
    have near : Near x := near_iff.1 (of_decide_eq_true accepted)
    have far : ∀ y ∈ before, ¬Near y := by simpa [near_iff] using rejected
    refine .inl ⟨before, x, after, script, far, near, near.inUnit_abs, near.value_abs, ?_⟩
    exact drawWithin_of_first far near (by simp [script]) script
  | none =>
    have far : ∀ y ∈ w.normals, ¬Near y := by simpa [near_iff] using h
    exact .inr ⟨far, drawWithin_of_none far (Nat.lt_succ_self _) rfl⟩

end HalfNormal

end Microclimate
