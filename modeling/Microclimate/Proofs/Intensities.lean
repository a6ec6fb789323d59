import Mathlib
import Microclimate.Proofs.Nearest

/-!
# Arithmetic of intensities

Intensities lie between 0 and 1, the 1 itself excluded. They are drawn, scaled to a third, moved by
a third or two, and brought into the range that is broadcast, and all of it in doubles. The bands
leave no room for error: two thirds and a third, each rounded, add up to a number in the middle
between 1 and the double before it, and **would be rounded to 1**. That the greatest intensity stays
below 1 rests on a draw below 1, scaled to a third, staying below the third by a whole unit.

* `Microclimate.InUnit` – the doubles from 0 up to 1, without 1;
* `Microclimate.InBroadcast` – those in the range that is broadcast;
* `Microclimate.inBroadcast_clampIntensity` – **every number can be brought into that range**;
* `Microclimate.InUnit.scaled`, `Microclimate.InUnit.scaled_add_third`,
  `Microclimate.InUnit.scaled_add_twoThirds` – new intensities;
* `Microclimate.InUnit.nearest_sub_third`, … – what changed intensities are near to;
* `Microclimate.InUnit.sub_third_ne`, … – **a change is never lost in rounding**.
-/

namespace Microclimate

open Float.Model Float.Model.UnpackedFloat

/-- A double from 0 up to 1, without 1. -/
def InUnit (x : Float) : Prop := 0.0 ≤ x ∧ x < 1.0

/-- A double in the range that is broadcast. -/
def InBroadcast (x : Float) : Prop := Cycle.minIntensity ≤ x ∧ x ≤ Cycle.maxIntensity

instance : DecidablePred InUnit := fun _ => inferInstanceAs (Decidable (_ ∧ _))

instance : DecidablePred InBroadcast := fun _ => inferInstanceAs (Decidable (_ ∧ _))

/-! ### The values of the constants -/

theorem isFinite_of_unpack {x : Float} {m : Nat} {e : Int} {hm : 0 < m}
    (h : x.toModel.unpack = .finite .positive m e hm) : IsFinite x ∧ value x = m * 2 ^ e :=
  isFinite_iff (congrArg Exact.ofUnpacked h)

/-- The value of a third as a double, in units of the last place. -/
def thirdValue : ℚ := 6004799503160661 * 2 ^ (-54 : Int)

theorem value_third : IsFinite third ∧ value third = thirdValue := by
  have unpacked : third.toModel.unpack =
    .finite .positive 6004799503160661 (-54) (by decide) := by rfl
  refine ⟨(isFinite_of_unpack unpacked).1, (isFinite_of_unpack unpacked).2.trans ?_⟩
  norm_num [thirdValue]

theorem value_twoThirds : IsFinite twoThirds ∧ value twoThirds = 2 * thirdValue := by
  have unpacked : twoThirds.toModel.unpack =
    .finite .positive 6004799503160661 (-53) (by decide) := by rfl
  refine ⟨(isFinite_of_unpack unpacked).1, (isFinite_of_unpack unpacked).2.trans ?_⟩
  norm_num [thirdValue]

/-- **The intensities by their values.** -/
theorem inUnit_iff {x : Float} : InUnit x ↔ IsFinite x ∧ 0 ≤ value x ∧ value x < 1 := by
  constructor
  · rintro ⟨low, high⟩
    have number := isNumber_of_lt high
    have le : x ≤ 1.0 := (le_iff_place number.1 number.2).2 (place_lt_place high).le
    have finite := isFinite_of_between value_zero.1 value_one.1 low le
    rw [value_zero.1.le_iff finite, value_zero.2] at low
    rw [finite.lt_iff value_one.1, value_one.2] at high
    exact ⟨finite, low, high⟩
  · rintro ⟨finite, low, high⟩
    constructor
    · rwa [value_zero.1.le_iff finite, value_zero.2]
    · rwa [finite.lt_iff value_one.1, value_one.2]

theorem value_minIntensity :
    IsFinite Cycle.minIntensity ∧
      value Cycle.minIntensity = 7378697629483821 * 2 ^ (-66 : Int) := by
  have unpacked : Cycle.minIntensity.toModel.unpack =
    .finite .positive 7378697629483821 (-66) (by decide) := by rfl
  refine ⟨(isFinite_of_unpack unpacked).1, (isFinite_of_unpack unpacked).2.trans ?_⟩
  norm_num

theorem value_maxIntensity :
    IsFinite Cycle.maxIntensity ∧
      value Cycle.maxIntensity = 9006298534815518 * 2 ^ (-53 : Int) := by
  have unpacked : Cycle.maxIntensity.toModel.unpack =
    .finite .positive 9006298534815518 (-53) (by decide) := by rfl
  refine ⟨(isFinite_of_unpack unpacked).1, (isFinite_of_unpack unpacked).2.trans ?_⟩
  norm_num

/-! ### The range that is broadcast -/

theorem InUnit.isFinite {x : Float} (h : InUnit x) : IsFinite x := (inUnit_iff.1 h).1

theorem InBroadcast.isFinite {x : Float} (h : InBroadcast x) : IsFinite x :=
  isFinite_of_between value_minIntensity.1 value_maxIntensity.1 h.1 h.2

/-- What is broadcast is an intensity. -/
theorem InBroadcast.inUnit {x : Float} (h : InBroadcast x) : InUnit x := by
  have finite := h.isFinite
  have low := (value_minIntensity.1.le_iff finite).1 h.1
  have high := (finite.le_iff value_maxIntensity.1).1 h.2
  rw [value_minIntensity.2] at low
  rw [value_maxIntensity.2] at high
  refine inUnit_iff.2 ⟨finite, ?_, ?_⟩
  · exact le_trans (by norm_num) low
  · exact lt_of_le_of_lt high (by norm_num)

/-- **Every number can be brought into the range that is broadcast**, the infinities too. -/
theorem inBroadcast_clampIntensity {x : Float} (h : IsNumber x) :
    InBroadcast (Cycle.clampIntensity x) := by
  have least := value_minIntensity.1.isNumber
  have greatest := value_maxIntensity.1.isNumber
  rw [Cycle.clampIntensity]
  split
  next => decide
  next notAbove =>
    split
    next => decide
    next notBelow =>
      exact ⟨(h.not_lt_iff_le least).1 notBelow, (greatest.not_lt_iff_le h).1 notAbove⟩

/-- What is not a number stays so when it is brought into the range that is broadcast. -/
theorem isNumber_of_clampIntensity {x : Float} (h : IsNumber (Cycle.clampIntensity x)) :
    IsNumber x := by
  rw [Cycle.clampIntensity] at h
  split at h
  next above => exact (isNumber_of_lt above).2
  next =>
    split at h
    next below => exact (isNumber_of_lt below).1
    next => exact h

/-- What lies in the range stays where it is. -/
theorem InBroadcast.clampIntensity_eq {x : Float} (h : InBroadcast x) :
    Cycle.clampIntensity x = x := by
  have finite := h.isFinite
  have notAbove : ¬Cycle.maxIntensity < x := by
    rw [value_maxIntensity.1.lt_iff finite, not_lt]
    exact (finite.le_iff value_maxIntensity.1).1 h.2
  have notBelow : ¬x < Cycle.minIntensity := by
    rw [finite.lt_iff value_minIntensity.1, not_lt]
    exact (value_minIntensity.1.le_iff finite).1 h.1
  rw [Cycle.clampIntensity, if_neg notAbove, if_neg notBelow]

theorem InBroadcast.unsigned {x : Float} (h : InBroadcast x) : Unsigned x :=
  h.clampIntensity_eq ▸ unsigned_clampIntensity x

/-! ### New intensities -/

/-- A double without a sign that is a number is not below zero. -/
theorem Unsigned.zero_le {x : Float} (h : Unsigned x) (number : IsNumber x) : 0.0 ≤ x := by
  rw [le_iff_place value_zero.1.isNumber number, value_zero.1.place_eq, value_zero.2, place_eq]
  have plain := h.plain
  have some := isNumber_iff.1 number
  cases hf : x.toModel.unpack with
  | notANumber => exact absurd hf some
  | infinity s =>
    obtain rfl : s = .positive := by simpa [hf, Plain] using plain
    exact (real_lt_top 0).le
  | zero s => exact le_rfl
  | finite s m e hm =>
    obtain rfl : s = .positive := by simpa [hf, Plain] using plain
    have pos : (0 : ℚ) ≤ (m : Int) * 2 ^ e := by positivity
    exact WithBot.coe_le_coe.2 (WithTop.coe_le_coe.2 pos)

theorem inUnit_abs {x : Float} (h : x.abs < 1.0) : InUnit x.abs :=
  ⟨(unsigned_abs x).zero_le (isNumber_of_lt h).1, h⟩

/-- A double below 1 stays below 1 by a unit of the last place at least. -/
theorem InUnit.le_one_sub {x : Float} (h : InUnit x) : value x ≤ 1 - 2 ^ (-53 : Int) := by
  obtain ⟨finite, -, high⟩ := inUnit_iff.1 h
  obtain ⟨k, d, short, -, same⟩ := finite.scaled
  rw [same] at high ⊢
  have unit : (2 : ℚ) ^ 53 * 2 ^ (-53 : Int) = 1 := by norm_num
  rcases le_or_gt (-53) d with coarse | fine
  · -- a multiple of the unit
    have multiple : (k : ℚ) * 2 ^ d = (k * 2 ^ (d + 53).toNat : Int) * 2 ^ (-53 : Int) := by
      push_cast
      rw [mul_assoc, ← zpow_natCast, Int.toNat_of_nonneg (by omega), ← zpow_add₀ two_ne_zero]
      congr 2
      omega
    rw [multiple] at high ⊢
    have below : k * 2 ^ (d + 53).toNat < 2 ^ 53 := by
      have : (2 : ℚ) ^ (-53 : Int) > 0 := by positivity
      have : ((k * 2 ^ (d + 53).toNat : Int) : ℚ) < 2 ^ 53 := by
        by_contra! beyond
        nlinarith
      exact_mod_cast this
    have le : ((k * 2 ^ (d + 53).toNat : Int) : ℚ) ≤ 2 ^ 53 - 1 := by
      exact_mod_cast Int.le_sub_one_of_lt below
    calc _ ≤ ((2 : ℚ) ^ 53 - 1) * 2 ^ (-53 : Int) := by gcongr
      _ = 1 - 2 ^ (-53 : Int) := by norm_num
  · have le : (k : ℚ) ≤ 2 ^ 53 - 1 := by
      exact_mod_cast Int.le_sub_one_of_lt ((le_abs_self k).trans_lt short)
    calc (k : ℚ) * 2 ^ d ≤ (2 ^ 53 - 1) * 2 ^ d := by gcongr
      _ ≤ (2 ^ 53 - 1) * 2 ^ (-53 : Int) := by
        gcongr
        exact one_le_two
      _ = 1 - 2 ^ (-53 : Int) := by norm_num

/-- There is a double of every value that is written as doubles are. -/
theorem exists_double {m : Nat} {e : Int} (hm : 0 < m) (h : Canonical (.finite .positive m e hm))
    (small : e ≤ 971) : ∃ z, IsFinite z ∧ value z = m * 2 ^ e :=
  ⟨_, ((writes_finite hm h).mono small).isFinite le_rfl⟩

/-- Products and sums of intensities are of moderate size. -/
theorem moderate {q : ℚ} (h : |q| ≤ 2) : |q| < 2 ^ 1000 :=
  h.trans_lt (lt_self_pow₀ one_lt_two (by norm_num))

theorem thirdValue_bounds : 1 / 4 < thirdValue ∧ thirdValue < 1 / 2 := by norm_num [thirdValue]

/-- **A draw scaled to a third stays below the third.** -/
theorem InUnit.scaled_lt {x : Float} (h : InUnit x) :
    IsFinite (x * third) ∧ 0 ≤ value (x * third) ∧ value (x * third) < thirdValue := by
  obtain ⟨finite, low, high⟩ := inUnit_iff.1 h
  obtain ⟨finite', same⟩ := value_third
  obtain ⟨quarter, half⟩ := thirdValue_bounds
  have apart := h.le_one_sub
  -- the double before the third
  obtain ⟨z, hz, before⟩ := exists_double (m := 6004799503160660) (e := -54) (by norm_num)
    ⟨by norm_num, by norm_num, .inr (by norm_num)⟩ (by norm_num)
  have nonneg : 0 ≤ value x * thirdValue := by positivity
  have nearest := nearest_mul finite finite' (by
    rw [same]
    exact moderate (by rw [abs_of_nonneg nonneg]; nlinarith))
  rw [same] at nearest
  refine ⟨nearest.finite, ?_, ?_⟩
  · have := nearest.ge value_zero.1 (by rwa [value_zero.2])
    rwa [value_zero.2] at this
  · have gap : value z + 2 ^ (-54 : Int) = thirdValue := by rw [before]; norm_num [thirdValue]
    have unit : (0 : ℚ) < 2 ^ (-54 : Int) := by positivity
    have scaled : value x * thirdValue ≤ (1 - 2 ^ (-53 : Int)) * thirdValue := by gcongr
    have double : (2 : ℚ) ^ (-53 : Int) = 2 * 2 ^ (-54 : Int) := by norm_num
    exact nearest.lt_of_middle hz (by linarith) (by nlinarith)

theorem InUnit.scaled {x : Float} (h : InUnit x) : InUnit (x * third) := by
  obtain ⟨finite, low, high⟩ := h.scaled_lt
  exact inUnit_iff.2 ⟨finite, low, by linarith [thirdValue_bounds.2]⟩

theorem InUnit.scaled_add_third {x : Float} (h : InUnit x) : InUnit (x * third + third) := by
  obtain ⟨finite, low, high⟩ := h.scaled_lt
  obtain ⟨quarter, half⟩ := thirdValue_bounds
  have nearest := nearest_add finite value_third.1 (by
    rw [value_third.2]
    exact moderate (by rw [abs_of_nonneg (by linarith)]; linarith))
  rw [value_third.2] at nearest
  have low' := nearest.ge value_zero.1 (by rw [value_zero.2]; linarith)
  have high' := nearest.le value_twoThirds.1 (by rw [value_twoThirds.2]; linarith)
  rw [value_zero.2] at low'
  rw [value_twoThirds.2] at high'
  exact inUnit_iff.2 ⟨nearest.finite, low', by linarith⟩

/-- **In the highest band, too, an intensity stays below 1.** -/
theorem InUnit.scaled_add_twoThirds {x : Float} (h : InUnit x) :
    InUnit (x * third + twoThirds) := by
  obtain ⟨finite, low, high⟩ := h.scaled_lt
  obtain ⟨quarter, half⟩ := thirdValue_bounds
  -- the double before 1
  obtain ⟨z, hz, before⟩ := exists_double (m := 2 ^ 53 - 1) (e := -53) (by norm_num)
    ⟨by norm_num, by norm_num, .inr (by norm_num)⟩ (by norm_num)
  have nearest := nearest_add finite value_twoThirds.1 (by
    rw [value_twoThirds.2]
    exact moderate (by rw [abs_of_nonneg (by linarith)]; linarith))
  rw [value_twoThirds.2] at nearest
  have low' := nearest.ge value_zero.1 (by rw [value_zero.2]; linarith)
  rw [value_zero.2] at low'
  have thrice : 3 * thirdValue = 1 - 2 ^ (-54 : Int) := by norm_num [thirdValue]
  have gap : value z = 1 - 2 * 2 ^ (-54 : Int) := by rw [before]; norm_num
  have unit : (0 : ℚ) < 2 ^ (-54 : Int) := by positivity
  exact inUnit_iff.2 ⟨nearest.finite, low', nearest.lt_of_middle hz (by linarith) (by linarith)⟩

/-! ### Changed intensities -/

section Changed

variable {x : Float} (h : InUnit x)
include h

theorem InUnit.nearest_sub_third : Nearest (x - third) (value x - thirdValue) := by
  obtain ⟨finite, low, high⟩ := inUnit_iff.1 h
  obtain ⟨quarter, half⟩ := thirdValue_bounds
  have nearest := nearest_sub finite value_third.1
  rw [value_third.2] at nearest
  exact nearest (moderate (abs_le.2 ⟨by linarith, by linarith⟩))

theorem InUnit.nearest_add_third : Nearest (x + third) (value x + thirdValue) := by
  obtain ⟨finite, low, high⟩ := inUnit_iff.1 h
  obtain ⟨quarter, half⟩ := thirdValue_bounds
  have nearest := nearest_add finite value_third.1
  rw [value_third.2] at nearest
  exact nearest (moderate (abs_le.2 ⟨by linarith, by linarith⟩))

theorem InUnit.nearest_sub_twoThirds : Nearest (x - twoThirds) (value x - 2 * thirdValue) := by
  obtain ⟨finite, low, high⟩ := inUnit_iff.1 h
  obtain ⟨quarter, half⟩ := thirdValue_bounds
  have nearest := nearest_sub finite value_twoThirds.1
  rw [value_twoThirds.2] at nearest
  exact nearest (moderate (abs_le.2 ⟨by linarith, by linarith⟩))

/-! An intensity is never rounded back when it is changed. -/

theorem InUnit.add_third_ne : value (x + third) ≠ value x := by
  obtain ⟨finite, low, high⟩ := inUnit_iff.1 h
  obtain ⟨quarter, half⟩ := thirdValue_bounds
  have far : |value x - (value x + thirdValue)| = thirdValue := by
    rw [sub_add_cancel_left, abs_neg, abs_of_pos (by linarith)]
  rcases lt_or_ge (value x) thirdValue with least | more
  · refine h.nearest_add_third.ne_of_closer value_third.1 ?_
    rw [far, value_third.2, abs_lt]
    constructor <;> linarith
  rcases lt_or_ge (value x) (2 * thirdValue) with less | most
  · refine h.nearest_add_third.ne_of_closer value_twoThirds.1 ?_
    rw [far, value_twoThirds.2, abs_lt]
    constructor <;> linarith
  · refine h.nearest_add_third.ne_of_closer value_one.1 ?_
    rw [far, value_one.2, abs_lt]
    constructor <;> linarith

variable (positive : 0 < value x)
include positive

theorem InUnit.sub_third_ne : value (x - third) ≠ value x := by
  obtain ⟨finite, low, high⟩ := inUnit_iff.1 h
  obtain ⟨quarter, half⟩ := thirdValue_bounds
  have whole : 3 * thirdValue = 1 - 2 ^ (-54 : Int) := by norm_num [thirdValue]
  have far : |value x - (value x - thirdValue)| = thirdValue := by
    rw [sub_sub_cancel, abs_of_pos (by linarith)]
  rcases lt_or_ge (value x) (2 * thirdValue) with less | more
  · refine h.nearest_sub_third.ne_of_closer value_zero.1 ?_
    rw [far, value_zero.2, abs_lt]
    constructor <;> linarith
  · have apart := h.le_one_sub
    have unit : (2 : ℚ) ^ (-53 : Int) = 2 * 2 ^ (-54 : Int) := by norm_num
    refine h.nearest_sub_third.ne_of_closer value_third.1 ?_
    rw [far, value_third.2, abs_lt]
    constructor <;> linarith

theorem InUnit.sub_twoThirds_ne : value (x - twoThirds) ≠ value x := by
  obtain ⟨finite, low, high⟩ := inUnit_iff.1 h
  obtain ⟨quarter, half⟩ := thirdValue_bounds
  have far : |value x - (value x - 2 * thirdValue)| = 2 * thirdValue := by
    rw [sub_sub_cancel, abs_of_pos (by linarith)]
  refine h.nearest_sub_twoThirds.ne_of_closer value_zero.1 ?_
  rw [far, value_zero.2, abs_lt]
  constructor <;> linarith

end Changed

/-- What is broadcast is not zero. -/
theorem InBroadcast.value_pos {x : Float} (h : InBroadcast x) : 0 < value x := by
  have low := (value_minIntensity.1.le_iff h.isFinite).1 h.1
  rw [value_minIntensity.2] at low
  exact lt_of_lt_of_le (by norm_num) low

end Microclimate
