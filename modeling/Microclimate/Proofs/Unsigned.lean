import Mathlib
import Microclimate.Cycle.Regeneration

/-!
# Doubles without a sign

Two doubles that compare as equal are the same double, but for one pair: zero and zero with a sign.
That pair would spoil every argument in which a comparison decides whether something is told, so
this file shows that intensities have no sign where it matters. What is not a number counts as
having none.

* `Microclimate.Unsigned` – the doubles whose sign bit is clear, among them every distance from
  zero, closed under `Microclimate.Unsigned.add` and `Microclimate.Unsigned.mul`;
* `Microclimate.Unsigned.eq_of_beq` – **among them, doubles that compare as equal are the same**;
* `Microclimate.unsigned_clampIntensity` – an intensity in the range that is broadcast has no sign,
  whatever it was before.
-/

namespace Microclimate

open Float.Model Float.Model.UnpackedFloat

/-- The 64 bits of a double. -/
abbrev Bits : Type := BitVec Format.binary64.numBits

/-- A double whose sign bit is clear. -/
def Unsigned (x : Float) : Prop := @unpackSign .binary64 x.toModel.toBits.toBitVec = 0#1

instance : DecidablePred Unsigned := fun _ => inferInstanceAs (Decidable (_ = _))

/-! ### Signs of unpacked doubles -/

/-- An unpacked double has no sign: it is positive, or not a number. -/
def Plain : UnpackedFloat → Prop
  | .notANumber => True
  | .infinity s | .zero s | .finite s _ _ _ => s = .positive

theorem unpackSign_packComponents (s : Sign) (e : BitVec Format.binary64.exponentBits)
    (m : BitVec Format.binary64.mantissaBitsWithoutImplicit) :
    unpackSign (packComponents .binary64 s e m) = s.toBitVec := by
  apply BitVec.eq_of_getLsbD_eq
  intro i hi
  obtain rfl : i = 0 := by omega
  simp only [unpackSign, packComponents, BitVec.extractLsb, BitVec.getLsbD_cast,
    BitVec.getLsbD_extractLsb', BitVec.getLsbD_append]
  simp

/-- Packing keeps the absence of a sign. -/
theorem Plain.unsigned {f : UnpackedFloat} (h : Plain f) : Unsigned (.ofModel (pack f)) := by
  have clear (e m) : unpackSign (packComponents .binary64 .positive e m) = 0#1 :=
    unpackSign_packComponents ..
  cases f with
  | notANumber => exact clear ..
  | infinity s =>
    obtain rfl : s = .positive := h
    exact clear ..
  | zero s =>
    obtain rfl : s = .positive := h
    exact clear ..
  | finite s m e hm =>
    obtain rfl : s = .positive := h
    change unpackSign (UnpackedFloat.pack .binary64 _) = 0#1
    simp only [UnpackedFloat.pack]
    split
    · exact clear ..
    · split
      · exact clear ..
      · exact clear ..

/-- Unpacking keeps it too. -/
theorem Unsigned.plain {x : Float} (h : Unsigned x) : Plain x.toModel.unpack := by
  have sign : Sign.ofBitVec (@unpackSign .binary64 x.toModel.toBits.toBitVec) = .positive := by
    rw [h]
    rfl
  simp only [Float.Model.unpack, UnpackedFloat.unpack, sign]
  split
  · split
    · rfl
    · trivial
  · split
    · split
      · rfl
      · rfl
    · rfl

/-! ### Arithmetic -/

theorem unsigned_abs (x : Float) : Unsigned x.abs := by
  have plain : Plain x.toModel.unpack.abs := by cases x.toModel.unpack <;> trivial
  exact plain.unsigned

theorem plain_roundWithAccuracy (m : Nat) (e : Int) (a : Accuracy) :
    Plain (roundWithAccuracy .binary64 .positive m e a) := by
  simp only [roundWithAccuracy]
  split <;> rfl

theorem Plain.mul {f g : UnpackedFloat} (hf : Plain f) (hg : Plain g) :
    Plain (f.mul .binary64 g) := by
  cases f <;> cases g <;> simp only [Plain] at hf hg <;> subst_vars <;>
    first | trivial | exact plain_roundWithAccuracy ..

theorem Plain.add {f g : UnpackedFloat} (hf : Plain f) (hg : Plain g) :
    Plain (f.add .binary64 g) := by
  cases f <;> cases g <;> simp only [Plain] at hf hg <;> subst_vars <;> try trivial
  case finite.finite m e hm n d hn =>
    simp only [UnpackedFloat.add, UnpackedFloat.normalize, Sign.apply]
    split
    next h =>
      -- a sum of two positive mantissas is not negative
      rw [Int.compare_eq_lt] at h
      omega
    · rfl
    · exact plain_roundWithAccuracy ..

theorem Unsigned.mul {x y : Float} (hx : Unsigned x) (hy : Unsigned y) : Unsigned (x * y) :=
  (hx.plain.mul hy.plain).unsigned

theorem Unsigned.add {x y : Float} (hx : Unsigned x) (hy : Unsigned y) : Unsigned (x + y) :=
  (hx.plain.add hy.plain).unsigned

/-! ### Comparing -/

/-- Doubles are the same if they agree in sign, exponent and mantissa. -/
theorem bits_eq {a b : Bits} (sign : unpackSign a = unpackSign b)
    (exponent : unpackExponent a = unpackExponent b)
    (mantissa : unpackMantissa a = unpackMantissa b) : a = b := by
  simp only [unpackSign, unpackExponent, unpackMantissa, BitVec.extractLsb]
    at sign exponent mantissa
  ext i hi
  have low := congrArg (·.getLsbD i) mantissa
  have middle := congrArg (·.getLsbD (i - 52)) exponent
  have high := congrArg (·.getLsbD (i - 63)) sign
  grind

/-- Exponent and mantissa of a double that is a number are those of its bits: below the least
exponent the implicit bit of the mantissa is clear. -/
def Reads (b : Bits) : UnpackedFloat → Prop
  | .notANumber => True
  | .infinity _ => unpackExponent b = -1#_ ∧ unpackMantissa b = 0#_
  | .zero _ => unpackExponent b = 0#_ ∧ unpackMantissa b = 0#_
  | .finite _ m e _ =>
    unpackExponent b = 0#_ ∧ m = (unpackMantissa b).toNat ∧ e = -1074 ∨
      0 < (unpackExponent b).toNat ∧ m = 2 ^ 52 + (unpackMantissa b).toNat ∧
        e = (unpackExponent b).toNat - 1075

theorem reads_unpack (b : Bits) : Reads b (UnpackedFloat.unpack .binary64 b) := by
  simp only [UnpackedFloat.unpack]
  split
  next greatest =>
    split
    next clear => exact ⟨greatest, clear⟩
    · trivial
  · split
    next least =>
      split
      next clear => exact ⟨least, clear⟩
      · refine .inl ⟨least, rfl, ?_⟩
        rw [least]
        rfl
    next notLeast =>
      have pos : 0 < (unpackExponent b).toNat :=
        Nat.pos_of_ne_zero fun h => notLeast (BitVec.eq_of_toNat_eq h)
      refine .inr ⟨pos, ?_, ?_⟩
      · rw [BitVec.toNat_append, ← Nat.shiftLeft_add_eq_or_of_lt (unpackMantissa b).isLt]
        rfl
      · simp [Format.exponentBias]

/-- The bits of a double without a sign can be read off what it is unpacked to, if that is a number.
-/
theorem Reads.bits_eq {a b : Bits} (ha : unpackSign a = 0#1) (hb : unpackSign b = 0#1)
    {f : UnpackedFloat} (hf : f ≠ .notANumber) (ra : Reads a f) (rb : Reads b f) : a = b := by
  have sign : unpackSign a = unpackSign b := ha.trans hb.symm
  cases f with
  | notANumber => exact absurd rfl hf
  | infinity _ => exact Microclimate.bits_eq sign (ra.1.trans rb.1.symm) (ra.2.trans rb.2.symm)
  | zero _ => exact Microclimate.bits_eq sign (ra.1.trans rb.1.symm) (ra.2.trans rb.2.symm)
  | finite _ m e _ =>
    have la : (unpackMantissa a).toNat < 2 ^ 52 := (unpackMantissa a).isLt
    have lb : (unpackMantissa b).toNat < 2 ^ 52 := (unpackMantissa b).isLt
    rcases ra with ⟨ea, ma, -⟩ | ⟨pa, ma, ea⟩ <;> rcases rb with ⟨eb, mb, -⟩ | ⟨pb, mb, eb⟩
    · exact Microclimate.bits_eq sign (ea.trans eb.symm) (BitVec.eq_of_toNat_eq (ma.symm.trans mb))
    · omega
    · omega
    · exact Microclimate.bits_eq sign (BitVec.eq_of_toNat_eq (by omega))
        (BitVec.eq_of_toNat_eq (by omega))

/-- Unpacked doubles without a sign that compare as equal are the same, and they are numbers. -/
theorem Plain.eq_of_compare {f g : UnpackedFloat} (hf : Plain f) (hg : Plain g)
    (h : f.compare g = some .eq) : f = g ∧ f ≠ .notANumber := by
  cases f <;> cases g <;> simp only [Plain] at hf hg <;> subst_vars <;>
    simp_all [UnpackedFloat.compare]

/-- **Doubles without a sign that compare as equal are the same.** -/
theorem Unsigned.eq_of_beq {x y : Float} (hx : Unsigned x) (hy : Unsigned y)
    (h : (x == y) = true) : x = y := by
  have same : x.toModel.unpack.compare y.toModel.unpack = some .eq :=
    LawfulBEq.eq_of_beq h
  obtain ⟨unpacked, number⟩ := hx.plain.eq_of_compare hy.plain same
  have bits : x.toModel.toBits.toBitVec = y.toModel.toBits.toBitVec := by
    refine Reads.bits_eq hx hy number (reads_unpack _) ?_
    rw [unpacked]
    exact reads_unpack _
  obtain ⟨⟨⟨a⟩, _⟩⟩ := x
  obtain ⟨⟨⟨b⟩, _⟩⟩ := y
  obtain rfl : a = b := bits
  rfl

/-! ### Intensities -/

theorem unsigned_zero : Unsigned 0.0 := by decide

theorem unsigned_third : Unsigned third := by decide

theorem unsigned_twoThirds : Unsigned twoThirds := by decide

/-- Only a double without a sign unpacks to something that has none: there is one way to write what
is not a number. -/
theorem Plain.unsigned_of_unpack {x : Float} (h : Plain x.toModel.unpack) : Unsigned x := by
  obtain ⟨⟨bits, valid⟩⟩ := x
  have clear : Sign.ofBitVec (@unpackSign .binary64 bits.toBitVec) = .positive →
      @unpackSign .binary64 bits.toBitVec = 0#1 := by
    simp [Sign.ofBitVec]
  simp only [Float.Model.unpack, UnpackedFloat.unpack] at h
  change @unpackSign .binary64 bits.toBitVec = 0#1
  split at h
  next greatest =>
    split at h
    · exact clear h
    next payload =>
      rw [valid.eq_packedNaN greatest payload]
      exact unpackSign_packComponents ..
  · split at h
    · split at h
      · exact clear h
      · exact clear h
    · exact clear h

/-- What does not lie below some positive number has no sign. -/
theorem unsigned_of_not_lt {x y : Float}
    (hy : ∃ m e hm, y.toModel.unpack = .finite .positive m e hm) (h : ¬x < y) : Unsigned x := by
  obtain ⟨m, e, hm, hy⟩ := hy
  refine Plain.unsigned_of_unpack ?_
  have notBelow : ¬(x.toModel.unpack.lt y.toModel.unpack) = true :=
    fun below => h (decide_eq_true below)
  rw [hy] at notBelow
  cases hx : x.toModel.unpack with
  | notANumber => trivial
  | infinity s | zero s | finite s _ _ _ =>
    cases s with
    | positive => rfl
    | negative =>
      rw [hx] at notBelow
      exact absurd rfl notBelow

/-- **Brought into the range that is broadcast, an intensity has no sign.** -/
theorem unsigned_clampIntensity (x : Float) : Unsigned (Cycle.clampIntensity x) := by
  simp only [Cycle.clampIntensity]
  split
  · decide
  · split
    · decide
    next h => exact unsigned_of_not_lt ⟨_, _, by decide, rfl⟩ h

end Microclimate
