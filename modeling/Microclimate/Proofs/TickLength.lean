import Mathlib
import Microclimate.Engine
import Microclimate.Proofs.Nearest

/-!
# The length of a tick

The length of a tick is a thousand divided by the rate, in doubles, and then rounded to a whole
number of milliseconds. Below two thousand ticks a second the quotient is more than a half, by more
than rounding can do away with. From there on it is a half or less, and **a tick takes no time at
all**.

* `Microclimate.exact_ofInt` – **whole numbers of up to 53 bits are doubles**;
* `Microclimate.ofNat_cases` – what becomes of a whole number as a double: the nearest one, or
  infinity;
* `Microclimate.roundHalfEven_pos_iff` – what is rounded to a positive number;
* `Microclimate.Engine.lengthOf_pos_iff` – **which rates make ticks of some length.**
-/

namespace Microclimate

open Float.Model Float.Model.UnpackedFloat

/-! ### Whole numbers as doubles -/

/-- What is too large for a double is written as an infinity. -/
theorem unpack_pack_large {s : Sign} {m : Nat} {e : Int} (hm : 0 < m) (large : 971 < e) :
    (Float.ofModel (.pack (.finite s m e hm))).toModel.unpack = .infinity s := by
  change UnpackedFloat.unpack .binary64 (UnpackedFloat.pack .binary64 _) = .infinity s
  have biased : e + Format.binary64.exponentBias + (52 : Nat) = e + 1075 := by
    change e + (1023 : Nat) + (52 : Nat) = e + 1075
    omega
  have beyond : 2 ^ 11 ≤ (e + 1075).toNat + 1 := by omega
  simp only [UnpackedFloat.pack, biased]
  rw [if_pos beyond]
  cases s <;> rfl

/-- What is written as doubles are is read as it was written, or as an infinity. -/
theorem Writes.read {f : UnpackedFloat} {q : ℚ} {b : Int} (h : Writes f q b) :
    (IsFinite (.ofModel (.pack f)) ∧ value (.ofModel (.pack f)) = q) ∨
      ∃ s, (Float.ofModel (.pack f)).toModel.unpack = .infinity s := by
  have exact := h.exact
  have canonical := h.canonical
  cases f with
  | notANumber => exact nomatch exact
  | infinity s => exact nomatch exact
  | zero s =>
    obtain rfl := Exact.real.inj exact
    exact .inl ((writes_zero s 971).isFinite le_rfl)
  | finite s m e hm =>
    rcases le_or_gt e 971 with small | large
    · obtain rfl := Exact.real.inj exact
      exact .inl ((writes_finite hm canonical).isFinite small)
    · exact .inr ⟨s, unpack_pack_large hm large⟩

/-- A whole number of up to 53 bits, in a word of 64 bits, becomes the nearest double. -/
theorem nearest_toFloat {n : Nat} (short : n < 2 ^ 53) : Nearest n.toUInt64.toFloat n := by
  have whole : n.toUInt64.toNat = n := by
    simp
    omega
  have small : |(((n : Int) : ℚ)) * 2 ^ (0 : Int)| < 2 ^ 1000 := by
    rw [zpow_zero, mul_one, Int.cast_natCast, Nat.abs_cast]
    calc (n : ℚ) < 2 ^ 53 := by exact_mod_cast short
      _ ≤ 2 ^ 1000 := by gcongr <;> norm_num
  have near := nearest_normalize (n : Int) small .positive
  rw [zpow_zero, mul_one, Int.cast_natCast] at near
  change Nearest (.ofModel (.pack (normalize .binary64 (n.toUInt64.toNat : Int) 0 .positive))) n
  rwa [whole]

/-- A whole number of up to 53 bits becomes the nearest double, as a scientific numeral too. -/
theorem nearest_ofNat {n : Nat} (short : n < 2 ^ 53) : Nearest (Float.ofNat n) n := by
  have written := nearest_toFloat short
  -- that double is then multiplied by one
  let one : Float := Float.exactlyRepresentablePowersOfTen[0]
  have unit : IsFinite one ∧ value one = 1 := isFinite_of_exact (by decide +kernel)
  have computed : Float.ofNat n = n.toUInt64.toFloat * one := by
    change Float.ofScientific n false 0 = _
    rw [Float.ofScientific, dif_pos ⟨short, by decide⟩]
    rfl
  have moderate : |value n.toUInt64.toFloat * value one| < 2 ^ 1000 := by
    have near := written.abs_sub_le
    rw [unit.2, mul_one]
    calc |value n.toUInt64.toFloat| = |value n.toUInt64.toFloat - n + n| := by rw [sub_add_cancel]
      _ ≤ |value n.toUInt64.toFloat - n| + |(n : ℚ)| := abs_add_le _ _
      _ ≤ n + n := by rw [Nat.abs_cast] at near ⊢; gcongr
      _ < 2 ^ 53 + 2 ^ 53 := by gcongr <;> exact_mod_cast short
      _ = 2 ^ 54 := by norm_num
      _ ≤ 2 ^ 1000 := by gcongr <;> norm_num
  have product := nearest_mul written.finite unit.1 moderate
  rw [unit.2, mul_one, ← computed] at product
  have same := product.eq written.finite rfl
  exact ⟨product.finite, fun hz => same ▸ written.nearest hz⟩

/-- Changing the sign of a double changes the sign of its value. -/
theorem value_neg {x : Float} (h : IsFinite x) (small : |value x| < 2 ^ 1000) :
    IsFinite (-x) ∧ value (-x) = -value x := by
  have written := Writes.of_small (canonical_neg (canonical_unpack x))
    (ofUnpacked_neg h.ofUnpacked) (by rwa [abs_neg])
  exact written.isFinite le_rfl

/-- There is a double for every whole number of up to 53 bits, and for every multiple of a power of
two by such a number, unless the power is too small or too large. -/
theorem exists_scaled {n : Nat} (pos : 0 < n) (short : n < 2 ^ 53) {e : Int} (low : -1022 ≤ e)
    (high : e ≤ 971) : ∃ z : Float, IsFinite z ∧ value z = n * 2 ^ e := by
  have bits : n.log2 ≤ 52 := Nat.lt_succ_iff.1 ((Nat.log2_lt pos.ne').2 short)
  -- the mantissa is filled up with zeros at the end
  obtain ⟨k, fill⟩ : ∃ k, k = 52 - n.log2 := ⟨_, rfl⟩
  have filled := log2_shiftLeft pos k
  have pos' : 0 < n <<< k := by
    rw [Nat.shiftLeft_eq]
    positivity
  have canonical : Canonical (.finite .positive (n <<< k) (e - k) pos') := by
    refine ⟨(Nat.log2_lt pos'.ne').1 ?_, by omega, .inr ((Nat.le_log2 pos'.ne').1 ?_)⟩ <;> omega
  have written := (writes_finite pos' canonical).isFinite (by omega)
  refine ⟨_, written.1, written.2.trans ?_⟩
  rw [Nat.shiftLeft_eq, zpow_sub₀ two_ne_zero]
  simp [Sign.apply]
  field_simp

/-- A whole number of up to 53 bits, or the first one of more bits, is a double. -/
theorem value_ofNat {n : Nat} (short : n ≤ 2 ^ 53) :
    IsFinite (Float.ofNat n) ∧ value (Float.ofNat n) = n := by
  rcases short.lt_or_eq with less | rfl
  · have near := nearest_ofNat less
    rcases Nat.eq_zero_or_pos n with rfl | pos
    · exact ⟨near.finite, near.eq value_zero.1 (by rw [value_zero.2, Nat.cast_zero])⟩
    · obtain ⟨z, finite, same⟩ := exists_scaled pos less (e := 0) (by decide) (by decide)
      exact ⟨near.finite, near.eq finite (by rwa [zpow_zero, mul_one] at same)⟩
  · exact isFinite_of_exact (by decide +kernel)

/-- **Whole numbers of up to 53 bits are doubles**, whatever their sign. -/
theorem exact_ofInt {t : Int} (short : t.natAbs ≤ 2 ^ 53) :
    Exact.ofFloat (Float.ofInt t) = .real t := by
  rcases t with n | n
  · obtain ⟨finite, same⟩ := @value_ofNat n short
    change Exact.ofFloat (Float.ofNat n) = .real (n : Int)
    rw [finite.ofFloat, same, Int.cast_natCast]
  · obtain ⟨finite, same⟩ := @value_ofNat (n + 1) short
    have moderate : |value (Float.ofNat (n + 1))| < 2 ^ 1000 := by
      rw [same, Nat.abs_cast]
      calc ((n + 1 : Nat) : ℚ) ≤ 2 ^ 53 := by exact_mod_cast short
        _ < 2 ^ 1000 := by gcongr <;> norm_num
    obtain ⟨finite', same'⟩ := value_neg finite moderate
    change Exact.ofFloat (-Float.ofNat (n + 1)) = _
    rw [finite'.ofFloat, same', same, Int.cast_negSucc]

/-- A whole number of more bits becomes a large double, or an infinity. -/
theorem ofNat_large {n : Nat} (long : 2 ^ 53 ≤ n) :
    (IsFinite (Float.ofNat n) ∧ 2000 ≤ value (Float.ofNat n)) ∨
      ∃ s, (Float.ofNat n).toModel.unpack = .infinity s := by
  have pos : 0 < n <<< 53 := by
    rw [Nat.shiftLeft_eq]
    omega
  have computed : Float.ofNat n =
      .ofModel (.pack (roundWithAccuracy .binary64 .positive (n <<< 53) (-53) .exact)) := by
    change Float.ofScientific n false 0 = _
    rw [Float.ofScientific, dif_neg (by omega)]
    refine congrArg (fun f => Float.ofModel (.pack f)) ?_
    change UnpackedFloat.ofScientific .binary64 n 0 = _
    rw [UnpackedFloat.ofScientific, dif_neg (by omega), if_neg (by decide),
      if_neg (by change ¬(0 : Int) < -(2048 + n.log2); omega), if_pos le_rfl]
    have bits : Format.binary64.mantissaBits = 53 := rfl
    simp only [UnpackedFloat.mul, bits, Int.toNat_zero, pow_zero, mul_one, add_zero]
    rfl
  have bits := log2_shiftLeft (m := n) (by omega) 53
  have large := (Nat.le_log2 (n := n) (by omega)).2 long
  have low : (-53 : Int) ≤ target (n <<< 53) (-53) := by
    rw [target_eq]
    omega
  have exact := shows_exact (n <<< 53)
  obtain ⟨k, written, half⟩ := roundWithAccuracy_writes .positive exact low (.inl pos)
  have full : (2 : ℚ) ^ 52 * (2 : ℚ) ^ target (n <<< 53) (-53) ≤
      ((n <<< 53 : Nat) : ℚ) * (2 : ℚ) ^ (-53 : Int) := by
    refine (scaled_target exact.bounds.1 exact.bounds.2 (.inl pos)).2.resolve_left ?_
    omega
  have scaled : ((n <<< 53 : Nat) : ℚ) * 2 ^ (-53 : Int) = n := by
    rw [Nat.shiftLeft_eq, Nat.cast_mul, mul_assoc]
    norm_num
  rw [scaled] at half full
  have least : (2000 : ℚ) ≤ k * (2 : ℚ) ^ target (n <<< 53) (-53) := by
    have far : (2 ^ 53 : ℚ) ≤ n := by exact_mod_cast long
    have off := (abs_le.1 half).1
    linarith
  rw [computed]
  refine written.read.imp_left fun ⟨known, same⟩ => ⟨known, ?_⟩
  rw [same]
  exact_mod_cast least

/-- The double 2000 separates the whole numbers, whether they are doubles or not. -/
theorem ofNat_cases (n : Nat) :
    (n < 2000 ∧ IsFinite (Float.ofNat n) ∧ value (Float.ofNat n) ≤ 1999 ∧
        (0 < n → 1 ≤ value (Float.ofNat n))) ∨
      2000 ≤ n ∧ ((IsFinite (Float.ofNat n) ∧ 2000 ≤ value (Float.ofNat n)) ∨
        ∃ s, (Float.ofNat n).toModel.unpack = .infinity s) := by
  rcases lt_or_ge n (2 ^ 53) with short | long
  · have near := nearest_ofNat short
    rcases lt_or_ge n 2000 with low | high
    · have bound : IsFinite 1999.0 ∧ value 1999.0 = 1999 := isFinite_of_exact (by decide +kernel)
      refine .inl ⟨low, near.finite, ?_, fun pos => ?_⟩
      · rw [← bound.2]
        refine near.le bound.1 ?_
        rw [bound.2]
        exact_mod_cast Nat.le_of_lt_succ low
      · rw [← value_one.2]
        refine near.ge value_one.1 ?_
        rw [value_one.2]
        exact_mod_cast pos
    · have bound : IsFinite 2000.0 ∧ value 2000.0 = 2000 := isFinite_of_exact (by decide +kernel)
      refine .inr ⟨high, .inl ⟨near.finite, ?_⟩⟩
      rw [← bound.2]
      refine near.ge bound.1 ?_
      rw [bound.2]
      exact_mod_cast high
  · exact .inr ⟨by omega, ofNat_large long⟩

/-! ### Rounding to whole numbers -/

theorem roundHalfEven_nonneg {q : ℚ} (h : 0 ≤ q) : 0 ≤ roundHalfEven q := by
  have below : 0 ≤ q.floor := Rat.le_floor_iff.2 (by exact_mod_cast h)
  simp only [roundHalfEven]
  split_ifs <;> omega

/-- **What is more than a half is rounded up**, and a half itself is not. -/
theorem roundHalfEven_pos_iff {q : ℚ} (h : 0 ≤ q) : 0 < roundHalfEven q ↔ 1 / 2 < q := by
  have below : 0 ≤ q.floor := Rat.le_floor_iff.2 (by exact_mod_cast h)
  rcases below.eq_or_lt with none | some
  · have rounded : roundHalfEven q = if 1 / 2 < q then 1 else 0 := by
      simp only [roundHalfEven, ← none, Int.cast_zero, sub_zero, Int.zero_emod, if_true, zero_add]
      rcases lt_or_ge q (1 / 2) with low | high
      · rw [if_pos low, if_neg low.le.not_gt]
      · rw [if_neg high.not_gt]
    rw [rounded]
    split_ifs with high
    · exact ⟨fun _ => high, fun _ => Int.one_pos⟩
    · exact ⟨fun pos => absurd pos (lt_irrefl 0), fun above => absurd above high⟩
  · have more : (1 : ℚ) ≤ q := by
      exact_mod_cast Rat.le_floor_iff.1 (Int.add_one_le_of_lt some)
    refine ⟨fun _ => by linarith, fun _ => ?_⟩
    simp only [roundHalfEven]
    split_ifs <;> omega

/-! ### The length of a tick -/

/-- A finite double divided by an infinity is zero. -/
theorem ofFloat_div_infinity {x y : Float} (hx : IsFinite x) {s : Sign}
    (hy : y.toModel.unpack = .infinity s) : Exact.ofFloat (x / y) = .real 0 := by
  have exact := hx.ofUnpacked
  have zero (t : Sign) : Exact.ofFloat (.ofModel (.pack (.zero t))) = .real 0 := by
    cases t <;> decide +kernel
  change Exact.ofFloat (.ofModel (.pack (x.toModel.unpack.div .binary64 y.toModel.unpack))) = _
  rw [hy]
  generalize x.toModel.unpack = f at exact
  cases f with
  | notANumber => exact nomatch exact
  | infinity t => exact nomatch exact
  | zero t => exact zero _
  | finite t m e hm => exact zero _

namespace Engine

/-- A thousand divided by a double from 1 on. -/
theorem nearest_quotient {y : Float} (finite : IsFinite y) (one : 1 ≤ value y) :
    Nearest (1000.0 / y) (1000 / value y) := by
  have thousand : IsFinite 1000.0 ∧ value 1000.0 = 1000 := isFinite_of_exact (by decide +kernel)
  have small : |value 1000.0 / value y| < 2 ^ 1000 := by
    rw [thousand.2, abs_of_nonneg (by positivity)]
    calc 1000 / value y ≤ 1000 / 1 := by gcongr
      _ < 2 ^ 10 := by norm_num
      _ ≤ 2 ^ 1000 := by gcongr <;> norm_num
  have near := nearest_div thousand.1 finite (by linarith) small
  rwa [thousand.2] at near

theorem quotient_nonneg {y : Float} (finite : IsFinite y) (one : 1 ≤ value y) :
    0 ≤ value (1000.0 / y) := by
  rw [← value_zero.2]
  refine (nearest_quotient finite one).ge value_zero.1 ?_
  rw [value_zero.2]
  positivity

/-- What a thousand comes to when it is divided by a rate: a half or less from two thousand on, and
somewhat more below. -/
theorem quotient_cases (n : Nat) (pos : 0 < n) :
    ∃ q : ℚ, Exact.ofFloat (1000.0 / Float.ofNat n) = .real q ∧ 0 ≤ q ∧ (1 / 2 < q ↔ n < 2000) := by
  rcases ofNat_cases n with ⟨low, finite, bound, least⟩ | ⟨high, ⟨finite, bound⟩ | ⟨s, infinite⟩⟩
  · have one := least pos
    have near := nearest_quotient finite one
    -- there is a double between a half and the least such quotient
    have between : IsFinite 0.5002 ∧ 1 / 2 < value 0.5002 ∧ value 0.5002 ≤ 1000 / 1999 :=
      ⟨⟨_, rfl⟩, by decide +kernel, by decide +kernel⟩
    have above : value 0.5002 ≤ value (1000.0 / Float.ofNat n) :=
      near.ge between.1 (between.2.2.trans (by gcongr))
    refine ⟨_, near.finite.ofFloat, quotient_nonneg finite one, ?_⟩
    exact ⟨fun _ => low, fun _ => between.2.1.trans_le above⟩
  · have one : 1 ≤ value (Float.ofNat n) := by linarith
    have near := nearest_quotient finite one
    have half : IsFinite 0.5 ∧ value 0.5 = 1 / 2 := isFinite_of_exact (by decide +kernel)
    have below : value (1000.0 / Float.ofNat n) ≤ 1 / 2 := by
      rw [← half.2]
      refine near.le half.1 ?_
      rw [half.2]
      calc 1000 / value (Float.ofNat n) ≤ 1000 / 2000 := by gcongr
        _ = 1 / 2 := by norm_num
    refine ⟨_, near.finite.ofFloat, quotient_nonneg finite one, ?_⟩
    exact ⟨fun above => absurd below (not_le.2 above), fun low => absurd high (not_le.2 low)⟩
  · have thousand : IsFinite 1000.0 := ⟨1000, by decide +kernel⟩
    exact ⟨0, ofFloat_div_infinity thousand infinite, le_rfl, by norm_num; exact high⟩

/-- That quotient, rounded, is the length. -/
theorem lengthOf_cases {tps : Int} (pos : 0 < tps) :
    ∃ q : ℚ, lengthOf tps = roundHalfEven q ∧ 0 ≤ q ∧ (1 / 2 < q ↔ tps < 2000) := by
  obtain ⟨n, rfl⟩ := Int.eq_ofNat_of_zero_le pos.le
  obtain ⟨q, exact, nonneg, half⟩ := quotient_cases n (Int.ofNat_lt.1 pos)
  have same : Float.ofInt n = Float.ofNat n := rfl
  refine ⟨q, ?_, nonneg, half.trans Int.ofNat_lt.symm⟩
  rw [lengthOf, same, exact]

theorem lengthOf_nonneg {tps : Int} (pos : 0 < tps) : 0 ≤ lengthOf tps := by
  obtain ⟨q, length, nonneg, -⟩ := lengthOf_cases pos
  exact length ▸ roundHalfEven_nonneg nonneg

/-- **Ticks are of some length below two thousand in a second**, and of none from there on. -/
theorem lengthOf_pos_iff {tps : Int} (pos : 0 < tps) : 0 < lengthOf tps ↔ tps < 2000 := by
  obtain ⟨q, length, nonneg, half⟩ := lengthOf_cases pos
  rw [length, roundHalfEven_pos_iff nonneg, half]

end Engine

end Microclimate
