import Mathlib
import Microclimate.Proofs.Comparing

/-!
# Rounding mantissas

The logical model of doubles computes with a mantissa of any length and rounds it at the end: bits
are shifted out until 53 are left, or until the least exponent is reached, and two bits beside the
mantissa tell what was lost. This file follows a positive number through that, and what comes of it
is that no number a double can have is nearer than the one that is written down.

The argument has two parts, for a double may be written in greater or in smaller units than the
rounded number. In greater units it is a multiple of the unit of rounding, and multiples are a whole
unit apart. In smaller units it is **too small to matter**: the rounded number has all of its 53
bits, so the double lies below the least mantissa of 53 bits, which is itself a multiple.

* `Microclimate.Shows` – what an extended mantissa tells of a number, with
  `Microclimate.Shows.roundedMantissa`: rounding it is off by no more than a half;
* `Microclimate.Writes` – an unpacked double that is written as doubles are;
* `Microclimate.roundWithAccuracy_writes` – rounding writes down a mantissa that is off by no more
  than a half;
* `Microclimate.nearest_of_half` – **no double is nearer**.
-/

namespace Microclimate

open Float.Model Float.Model.UnpackedFloat

/-! ### Mantissas with two bits more -/

/-- An extended mantissa shows a number: its mantissa is the integer part, the round bit tells a
remainder of a half or more, and the sticky bit a remainder that is neither none nor a half. -/
structure Shows (em : ExtendedMantissa) (t : ℚ) : Prop where
  below : (em.mantissa : ℚ) ≤ t
  above : t < em.mantissa + 1
  half : em.roundBit = true ↔ (em.mantissa : ℚ) + 1 / 2 ≤ t
  rest : em.stickyBit = false ↔ t = em.mantissa ∨ t = em.mantissa + 1 / 2

theorem shows_exact (m : Nat) : Shows (.ofMantissaAndAccuracy m .exact) m := by
  constructor <;> simp [ExtendedMantissa.ofMantissaAndAccuracy]

/-- What is left of a division is shown by comparing it with a half. -/
theorem shows_fraction (m : Nat) {num den : Nat} (h : num < den) :
    Shows (.ofMantissaAndAccuracy m (accuracyOfFraction num den)) (m + num / den) := by
  have positive : (0 : ℚ) < den := by exact_mod_cast Nat.zero_lt_of_lt h
  have less : (num : ℚ) / den < 1 := (div_lt_one positive).2 (by exact_mod_cast h)
  rw [accuracyOfFraction]
  split
  next none =>
    subst none
    simpa using shows_exact m
  next some =>
    have more : (0 : ℚ) < num / den := div_pos (by exact_mod_cast Nat.pos_of_ne_zero some) positive
    rcases lt_trichotomy (2 * num) den with low | tie | high
    · have below : (num : ℚ) / den < 1 / 2 := by
        rw [div_lt_iff₀ positive]
        linarith [show (2 * num : ℚ) < den by exact_mod_cast low]
      rw [compare_lt_iff_lt.2 low]
      constructor <;> simp only [ExtendedMantissa.ofMantissaAndAccuracy]
      · linarith
      · linarith
      · simp
        linarith
      · simp only [Bool.true_eq_false, false_iff, not_or]
        constructor <;> intro same <;> linarith
    · have half : (num : ℚ) / den = 1 / 2 := by
        rw [div_eq_iff positive.ne']
        linarith [show (2 * num : ℚ) = den by exact_mod_cast tie]
      rw [compare_eq_iff_eq.2 tie, half]
      constructor <;> simp [ExtendedMantissa.ofMantissaAndAccuracy]
      norm_num
    · have above : (1 : ℚ) / 2 < num / den := by
        rw [lt_div_iff₀ positive]
        linarith [show (den : ℚ) < 2 * num by exact_mod_cast high]
      rw [compare_gt_iff_gt.2 high]
      constructor <;> simp only [ExtendedMantissa.ofMantissaAndAccuracy]
      · linarith
      · linarith
      · simp
        linarith
      · simp only [Bool.true_eq_false, false_iff, not_or]
        constructor <;> intro same <;> linarith

/-- The mantissa is the integer part of the number that is shown. -/
theorem Shows.bounds {m : Nat} {a : Accuracy} {t : ℚ} (h : Shows (.ofMantissaAndAccuracy m a) t) :
    (m : ℚ) ≤ t ∧ t < m + 1 := by
  have mantissa : (ExtendedMantissa.ofMantissaAndAccuracy m a).mantissa = m := by
    cases a with
    | exact => rfl
    | inexact o => cases o <;> rfl
  have below := h.below
  have above := h.above
  rw [mantissa] at below above
  exact ⟨below, above⟩

/-- Shifting by one bit halves the number that is shown. -/
theorem Shows.shiftRightOne {em : ExtendedMantissa} {t : ℚ} (h : Shows em t) :
    Shows em.shiftRightOne (t / 2) := by
  obtain ⟨m, roundBit, stickyBit⟩ := em
  obtain ⟨below, above, half, rest⟩ := h
  dsimp only at below above half rest
  have parts : (m : ℚ) = 2 * (m / 2 : Nat) + (m % 2 : Nat) := by
    exact_mod_cast (Nat.div_add_mod m 2).symm
  have exact_iff : (roundBit || stickyBit) = false ↔ t = m := by
    rw [Bool.or_eq_false_iff, rest, ← Bool.not_eq_true, half]
    constructor
    · rintro ⟨low, rfl | rfl⟩
      · rfl
      · exact absurd le_rfl low
    · rintro rfl
      exact ⟨by linarith, .inl rfl⟩
  rcases Nat.mod_two_eq_zero_or_one m with even | odd
  · rw [even] at parts
    push_cast at parts
    constructor <;> simp only [ExtendedMantissa.shiftRightOne, even]
    · linarith
    · linarith
    · simp; linarith
    · rw [exact_iff]
      constructor
      · rintro rfl
        left; linarith
      · rintro (h | h) <;> linarith
  · rw [odd] at parts
    push_cast at parts
    constructor <;> simp only [ExtendedMantissa.shiftRightOne, odd]
    · linarith
    · linarith
    · simp; linarith
    · rw [exact_iff]
      constructor
      · rintro rfl
        right; linarith
      · rintro (h | h) <;> linarith

theorem Shows.shiftRight {em : ExtendedMantissa} {t : ℚ} (h : Shows em t) (n : Nat) :
    Shows (em >>> n) (t / 2 ^ n) := by
  induction n with
  | zero => simpa [HShiftRight.hShiftRight, Nat.repeat] using h
  | succ n ih =>
    rw [pow_succ, ← div_div]
    exact ih.shiftRightOne

/-- **The rounded mantissa is off by no more than a half.** -/
theorem Shows.roundedMantissa {em : ExtendedMantissa} {t : ℚ} (h : Shows em t) :
    |(em.roundedMantissa : ℚ) - t| ≤ 1 / 2 := by
  obtain ⟨m, roundBit, stickyBit⟩ := em
  obtain ⟨below, above, half, rest⟩ := h
  dsimp only at below above half rest
  rw [abs_le]
  cases roundBit with
  | false =>
    have low : t < m + 1 / 2 := not_le.1 fun high => nomatch half.2 high
    cases stickyBit <;> simp only [ExtendedMantissa.roundedMantissa, ExtendedMantissa.accuracy,
      Accuracy.roundToNearestEven] <;> constructor <;> linarith
  | true =>
    have high := half.1 rfl
    cases stickyBit with
    | false =>
      have tie : t = m + 1 / 2 := (rest.1 rfl).resolve_left (by linarith)
      simp only [ExtendedMantissa.roundedMantissa, ExtendedMantissa.accuracy,
        Accuracy.roundToNearestEven]
      rcases Nat.mod_two_eq_zero_or_one m with even | odd
      · rw [even, tie]
        constructor <;> push_cast <;> linarith
      · rw [odd, tie]
        constructor <;> push_cast <;> linarith
    | true =>
      simp only [ExtendedMantissa.roundedMantissa, ExtendedMantissa.accuracy,
        Accuracy.roundToNearestEven]
      constructor <;> push_cast <;> linarith

/-! ### Rounding a mantissa and an exponent -/

/-- The exponent to which a positive number is rounded. -/
def target (m : Nat) (e : Int) : Int := Format.binary64.targetExponent (totalExponent m e)

theorem target_eq (m : Nat) (e : Int) : target m e = max (m.log2 + 1 + e - 53) (-1074) := rfl

/-- Shifting to a greater exponent shows the number in units of the new exponent. -/
theorem shows_shiftToExponent {m : Nat} {a : Accuracy} {t : ℚ}
    (shown : Shows (.ofMantissaAndAccuracy m a) t) {e d : Int} (h : e ≤ d) :
    ∃ em, shiftToExponent m e a d = (em, d) ∧ Shows em (t * 2 ^ e / 2 ^ d) := by
  refine ⟨_, Prod.ext rfl (show e + (d - e).toNat = d by omega), ?_⟩
  have shift := shown.shiftRight (d - e).toNat
  have : t * 2 ^ e / 2 ^ d = t / 2 ^ (d - e).toNat := by
    rw [← zpow_natCast, Int.toNat_of_nonneg (by omega), zpow_sub₀ two_ne_zero]
    field_simp
  rw [this]
  exact shift

/-- Nothing is shifted if the exponent is large enough. -/
theorem shiftToExponent_of_le (m : Nat) {e d : Int} (h : d ≤ e) :
    shiftToExponent m e .exact d = (.ofMantissaAndAccuracy m .exact, e) := by
  have : (d - e).toNat = 0 := by omega
  simp only [shiftToExponent, this]
  exact Prod.ext rfl (by simp)

/-- An unpacked double is written as doubles are, with an exponent up to some bound, and has some
exact value. -/
structure Writes (f : UnpackedFloat) (q : ℚ) (bound : Int) : Prop where
  canonical : Canonical f
  exact : Exact.ofUnpacked f = .real q
  small : ∀ {s m e hm}, f = .finite s m e hm → e ≤ bound

theorem writes_zero (s : Sign) (bound : Int) : Writes (.zero s) 0 bound :=
  ⟨trivial, rfl, fun h => nomatch h⟩

theorem writes_finite {s : Sign} {m : Nat} {e : Int} (hm : 0 < m)
    (h : Canonical (.finite s m e hm)) : Writes (.finite s m e hm) ((s.apply m : Int) * 2 ^ e) e :=
  ⟨h, rfl, fun same => by cases same; exact le_rfl⟩

theorem Writes.mono {f : UnpackedFloat} {q : ℚ} {b c : Int} (h : Writes f q b) (le : b ≤ c) :
    Writes f q c :=
  ⟨h.canonical, h.exact, fun same => (h.small same).trans le⟩

/-- A rounded mantissa is written down: at most, it has become a bit too long. -/
theorem writes_rounded (s : Sign) {n : Nat} {e : Int} (large : n ≤ 2 ^ 53) (least : -1074 ≤ e)
    (full : e = -1074 ∨ 2 ^ 52 ≤ n) :
    let shifted := shiftToTargetExponent .binary64 n e .exact
    Writes
      (if h : shifted.1.mantissa = 0 then .zero s
        else .finite s shifted.1.mantissa shifted.2 (Nat.pos_of_ne_zero h))
      ((s.apply n : Int) * 2 ^ e) (e + 1) := by
  have goal :
      shiftToTargetExponent .binary64 n e .exact = shiftToExponent n e .exact (target n e) := rfl
  rw [goal]
  rcases large.lt_or_eq with short | rfl
  · have bits : n.log2 ≤ 52 := by
      rcases Nat.eq_zero_or_pos n with rfl | pos
      · simp
      · exact Nat.lt_succ_iff.1 ((Nat.log2_lt pos.ne').2 short)
    rw [shiftToExponent_of_le n (by rw [target_eq]; omega)]
    dsimp only [ExtendedMantissa.ofMantissaAndAccuracy]
    split
    next zero =>
      subst zero
      cases s <;> simpa [Sign.apply] using writes_zero _ _
    next nonzero =>
      exact (writes_finite _ ⟨short, least, full⟩).mono (by omega)
  · -- the mantissa has become a power of two, and loses a bit that is clear
    have next : target (2 ^ 53) e = e + 1 := by
      rw [target_eq, Nat.log2_two_pow]
      omega
    have one : (e + 1 - e).toNat = 1 := by omega
    have shifted : shiftToExponent (2 ^ 53) e .exact (e + 1) = (⟨2 ^ 52, false, false⟩, e + 1) := by
      simp only [shiftToExponent, one]
      rfl
    rw [next, shifted]
    have value : ((s.apply (2 ^ 53 : Nat) : Int) : ℚ) * 2 ^ e
        = (s.apply (2 ^ 52 : Nat) : Int) * 2 ^ (e + 1) := by
      rw [zpow_add_one₀ two_ne_zero]
      cases s <;> simp only [Sign.apply] <;> push_cast <;> ring
    dsimp only
    rw [value, dif_neg (by decide : ¬(2 : Nat) ^ 52 = 0)]
    exact writes_finite _ ⟨by norm_num, by omega, .inr le_rfl⟩

/-- The units in which a positive number is rounded: it has less than 53 bits before the point, and
53 of them unless the exponent is the least one. -/
theorem scaled_target {m : Nat} {t : ℚ} (below : (m : ℚ) ≤ t) (above : t < m + 1) {e : Int}
    (some : 0 < m ∨ target m e = -1074) :
    t * 2 ^ e < 2 ^ 53 * 2 ^ target m e ∧
      (target m e = -1074 ∨ 2 ^ 52 * 2 ^ target m e ≤ t * 2 ^ e) := by
  have upper : (m : ℚ) + 1 ≤ 2 ^ ((m.log2 : Int) + 1) := by
    exact_mod_cast Nat.succ_le_of_lt (Nat.lt_log2_self : m < 2 ^ (m.log2 + 1))
  have scale : (0 : ℚ) < 2 ^ e := zpow_pos two_pos e
  constructor
  · calc t * 2 ^ e < 2 ^ ((m.log2 : Int) + 1) * 2 ^ e := by gcongr; exact above.trans_le upper
      _ = 2 ^ ((m.log2 : Int) + 1 + e) := by rw [← zpow_add₀ two_ne_zero]
      _ ≤ 2 ^ (53 + target m e) := by
        refine zpow_le_zpow_right₀ one_le_two ?_
        rw [target_eq]
        omega
      _ = 2 ^ 53 * 2 ^ target m e := by
        rw [zpow_add₀ two_ne_zero]
        norm_cast
  · rcases eq_or_ne (target m e) (-1074) with least | other
    · exact .inl least
    · refine .inr ?_
      have pos := some.resolve_right other
      have lower : (2 : ℚ) ^ (m.log2 : Int) ≤ t := by
        refine le_trans ?_ below
        exact_mod_cast Nat.log2_self_le pos.ne'
      have same : target m e = m.log2 + e - 52 := by
        rw [target_eq] at other ⊢
        omega
      calc (2 : ℚ) ^ 52 * 2 ^ target m e = 2 ^ (52 + target m e) := by
            rw [zpow_add₀ two_ne_zero]
            norm_cast
        _ = 2 ^ ((m.log2 : Int) + e) := by
            rw [same]
            congr 1
            omega
        _ = 2 ^ (m.log2 : Int) * 2 ^ e := zpow_add₀ two_ne_zero _ _
        _ ≤ t * 2 ^ e := by gcongr

/-- **Rounding a positive number**: it is written with a mantissa that is off by no more than a
half. -/
theorem roundWithAccuracy_writes (s : Sign) {m : Nat} {a : Accuracy} {t : ℚ}
    (shown : Shows (.ofMantissaAndAccuracy m a) t) {e : Int} (h : e ≤ target m e)
    (some : 0 < m ∨ target m e = -1074) :
    ∃ n : Nat, Writes (roundWithAccuracy .binary64 s m e a)
        ((s.apply n : Int) * 2 ^ target m e) (target m e + 1) ∧
      |(n : ℚ) * 2 ^ target m e - t * 2 ^ e| ≤ 2 ^ target m e / 2 := by
  obtain ⟨em, shifted, shows⟩ := shows_shiftToExponent shown h
  obtain ⟨upper, lower⟩ := scaled_target shown.bounds.1 shown.bounds.2 some
  have unit : (0 : ℚ) < 2 ^ target m e := zpow_pos two_pos _
  have off := abs_le.1 shows.roundedMantissa
  have short : em.roundedMantissa ≤ 2 ^ 53 := by
    have bound := (div_lt_iff₀ unit).2 upper
    by_contra long
    have : (2 : ℚ) ^ 53 + 1 ≤ em.roundedMantissa := by exact_mod_cast not_le.1 long
    linarith [off.2]
  have full : target m e = -1074 ∨ 2 ^ 52 ≤ em.roundedMantissa := by
    refine lower.imp_right fun lower => ?_
    have bound := (le_div_iff₀ unit).2 lower
    by_contra short
    have : (em.roundedMantissa : ℚ) + 1 ≤ 2 ^ 52 := by exact_mod_cast not_le.1 short
    linarith [off.1]
  refine ⟨em.roundedMantissa, ?_, ?_⟩
  · have first : shiftToTargetExponent .binary64 m e a = (em, target m e) := shifted
    have written := writes_rounded s short (by rw [target_eq]; omega) full
    simpa only [roundWithAccuracy, first] using written
  · have scaled : (em.roundedMantissa : ℚ) * 2 ^ target m e - t * 2 ^ e =
        (em.roundedMantissa - t * 2 ^ e / 2 ^ target m e) * 2 ^ target m e := by
      field_simp
    rw [scaled, abs_mul, abs_of_pos unit]
    calc _ ≤ 1 / 2 * (2 : ℚ) ^ target m e := by gcongr; exact shows.roundedMantissa
      _ = 2 ^ target m e / 2 := by ring

/-- No number that a double can have is nearer than a mantissa that is off by no more than a half.
-/
theorem nearest_of_half {n : Nat} {u : Int} {q : ℚ} (full : u = -1074 ∨ 2 ^ 52 * 2 ^ u ≤ q)
    (half : |(n : ℚ) * 2 ^ u - q| ≤ 2 ^ u / 2) {k d : Int} (short : |k| < 2 ^ 53)
    (least : -1074 ≤ d) : |(n : ℚ) * 2 ^ u - q| ≤ |(k : ℚ) * 2 ^ d - q| := by
  have unit : (0 : ℚ) < 2 ^ u := zpow_pos two_pos _
  -- a multiple of the unit is the same one or at least a whole unit away
  have multiple (k : Int) : |(n : ℚ) * 2 ^ u - q| ≤ |(k : ℚ) * 2 ^ u - q| := by
    rcases eq_or_ne k n with rfl | other
    · simp
    · have apart : (1 : ℚ) ≤ |(k : ℚ) - n| := by
        exact_mod_cast Int.one_le_abs (sub_ne_zero.2 other)
      have : (2 : ℚ) ^ u ≤ |(k : ℚ) * 2 ^ u - n * 2 ^ u| := by
        rw [← sub_mul, abs_mul, abs_of_pos unit]
        exact le_mul_of_one_le_left unit.le apart
      have triangle := abs_sub_le ((k : ℚ) * 2 ^ u) q (n * 2 ^ u)
      rw [abs_sub_comm q] at triangle
      linarith
  rcases le_or_gt u d with above | below
  · have same : ((k * 2 ^ (d - u).toNat : Int) : ℚ) * 2 ^ u = k * 2 ^ d := by
      have := zpow_add₀ (two_ne_zero : (2 : ℚ) ≠ 0) (d - u) u
      rw [sub_add_cancel] at this
      rw [this, ← Int.toNat_of_nonneg (sub_nonneg.2 above), zpow_natCast,
        Int.toNat_of_nonneg (sub_nonneg.2 above)]
      push_cast
      ring
    exact same ▸ multiple _
  · -- what is written in smaller units lies below the least mantissa of 53 bits
    have full := full.resolve_left (by omega)
    have beyond : (k : ℚ) * 2 ^ d ≤ 2 ^ 52 * 2 ^ u := by
      have bound : (k : ℚ) ≤ 2 ^ 53 := by exact_mod_cast ((le_abs_self k).trans_lt short).le
      calc (k : ℚ) * 2 ^ d ≤ 2 ^ 53 * 2 ^ d := by gcongr
        _ = 2 ^ 52 * (2 * 2 ^ d) := by ring
        _ = 2 ^ 52 * 2 ^ (1 + d) := by rw [zpow_one_add₀ two_ne_zero]
        _ ≤ 2 ^ 52 * 2 ^ u := by
          gcongr
          · exact one_le_two
          · omega
    have edge := multiple (2 ^ 52)
    rw [Int.cast_pow, Int.cast_ofNat, abs_of_nonpos (sub_nonpos.2 full)] at edge
    rw [abs_of_nonpos (sub_nonpos.2 (beyond.trans full))]
    linarith

end Microclimate
