import Mathlib
import Microclimate.Proofs.TickLength

/-!
# The length of a tick is rounded once

The length of a tick is rounded twice: a thousand is divided by the rate, which gives the nearest
double, and that is rounded to a whole number. Rounding twice may go wrong, since the first rounding
may lead just to the middle between two whole numbers, from where the second one may go the other
way.

It does not go wrong here. A quotient of a thousand by a rate lies just in the middle, and then it
is a double itself, or it keeps a distance from the middle that is **more than the doubles are
apart**. For very large rates, which are no doubles themselves, nothing is left in either case.

* `Microclimate.NearestWhole` – an integer is nearest to a number, and even if there are two;
* `Microclimate.nearestWhole_iff` – rounding gives this integer;
* `Microclimate.quotient_gap` – how far a quotient stays away from a middle;
* `Microclimate.Engine.lengthOf_eq` – **the exact quotient, rounded once, is the length**;
* `Microclimate.Engine.lengthOf_near_mul`, `Microclimate.Engine.mul_lengthOf_eq_ideal_iff` – how far
  off some ticks are, and at which rates they are exact.
-/

namespace Microclimate

/-! ### Rounding to whole numbers -/

/-- An integer is nearest to a number, and the even one if there are two. -/
structure NearestWhole (q : ℚ) (n : Int) : Prop where
  nearest : ∀ m : Int, |(n : ℚ) - q| ≤ |(m : ℚ) - q|
  even : ∀ m : Int, m ≠ n → |(m : ℚ) - q| = |(n : ℚ) - q| → n % 2 = 0

/-- What is rounded is off by less than a half, or by a half if it comes to an even integer. -/
theorem roundHalfEven_off (q : ℚ) :
    |(roundHalfEven q : ℚ) - q| < 1 / 2 ∨
      |(roundHalfEven q : ℚ) - q| = 1 / 2 ∧ roundHalfEven q % 2 = 0 := by
  have low : (q.floor : ℚ) ≤ q := Rat.floor_le q
  have high : q < q.floor + 1 := by linarith [Rat.lt_floor (x := q)]
  simp only [roundHalfEven]
  split_ifs with below above even
  · exact .inl (abs_lt.2 ⟨by linarith, by linarith⟩)
  · push_cast
    exact .inl (abs_lt.2 ⟨by linarith, by linarith⟩)
  · have middle : q - q.floor = 1 / 2 := le_antisymm (not_lt.1 above) (not_lt.1 below)
    refine .inr ⟨?_, even⟩
    rw [abs_sub_comm, middle, abs_of_pos (by norm_num)]
  · have middle : q - q.floor = 1 / 2 := le_antisymm (not_lt.1 above) (not_lt.1 below)
    refine .inr ⟨?_, by omega⟩
    push_cast
    rw [show (q.floor : ℚ) + 1 - q = 1 / 2 by linarith, abs_of_pos (by norm_num)]

theorem roundHalfEven_near (q : ℚ) : |(roundHalfEven q : ℚ) - q| ≤ 1 / 2 :=
  (roundHalfEven_off q).elim le_of_lt fun tie => tie.1.le

/-- Another integer is farther off than a half, or just as far. -/
theorem half_le_of_ne {n m : Int} {q : ℚ} (near : |(n : ℚ) - q| ≤ 1 / 2) (ne : m ≠ n) :
    1 / 2 ≤ |(m : ℚ) - q| := by
  have apart : (1 : ℚ) ≤ |(m : ℚ) - n| := by exact_mod_cast Int.one_le_abs (sub_ne_zero.2 ne)
  have triangle := abs_sub_le (m : ℚ) q n
  rw [abs_sub_comm q] at triangle
  linarith

/-- **Rounding gives the nearest integer**, and the even one if there are two. -/
theorem nearestWhole_roundHalfEven (q : ℚ) : NearestWhole q (roundHalfEven q) := by
  have near := roundHalfEven_near q
  refine ⟨fun m => ?_, fun m ne same => ?_⟩
  · rcases eq_or_ne m (roundHalfEven q) with rfl | ne
    · exact le_rfl
    · exact near.trans (half_le_of_ne near ne)
  · have half := half_le_of_ne near ne
    rw [same] at half
    exact ((roundHalfEven_off q).resolve_left (not_lt.2 half)).2

/-- **There is only one such integer.** -/
theorem nearestWhole_iff {q : ℚ} {n : Int} : NearestWhole q n ↔ n = roundHalfEven q := by
  refine ⟨fun h => ?_, fun same => same ▸ nearestWhole_roundHalfEven q⟩
  by_contra ne
  have rounded := nearestWhole_roundHalfEven q
  have same := le_antisymm (h.nearest _) (rounded.nearest n)
  have near := roundHalfEven_near q
  -- two even integers are not both so near
  have evens := rounded.even n ne same
  have evens' := h.even _ (Ne.symm ne) same.symm
  have apart : |(n : ℚ) - roundHalfEven q| ≤ 1 := by
    have triangle := abs_sub_le (n : ℚ) q (roundHalfEven q)
    rw [abs_sub_comm q, same] at triangle
    linarith
  have close : |n - roundHalfEven q| ≤ 1 := by exact_mod_cast apart
  rw [abs_le] at close
  omega

/-- What is within less than a half of an integer is rounded to it. -/
theorem roundHalfEven_eq_of_lt {q : ℚ} {n : Int} (off : |(n : ℚ) - q| < 1 / 2) :
    roundHalfEven q = n := by
  by_contra ne
  exact absurd (half_le_of_ne (roundHalfEven_near q) (Ne.symm ne)) (not_le.2 off)

/-! ### Quotients of a thousand -/

/-- A quotient of a thousand is a half off the nearest integer, or it is away from that by more than
`2 ^ -12`. -/
theorem quotient_gap {n : Nat} (pos : 0 < n) (small : n < 2000) {r : Int}
    (off : |(r : ℚ) - 1000 / n| < 1 / 2) : |(r : ℚ) - 1000 / n| ≤ 1 / 2 - 2 ^ (-12 : Int) := by
  have size : (0 : ℚ) < n := by exact_mod_cast pos
  have bound : (n : ℚ) ≤ 2000 := by exact_mod_cast small.le
  -- the distance in units of half of one by the rate
  have scaled : ((2 * (n * r - 1000) : Int) : ℚ) = 2 * n * (r - 1000 / n) := by
    push_cast
    field_simp
  have scaled' : ((|2 * (n * r - 1000)| : Int) : ℚ) = 2 * n * |(r : ℚ) - 1000 / n| := by
    rw [Int.cast_abs, scaled, abs_mul, abs_of_pos (by positivity)]
  have less : |2 * ((n : Int) * r - 1000)| < n := by
    have : ((|2 * (n * r - 1000)| : Int) : ℚ) < n := by
      rw [scaled']
      nlinarith
    exact_mod_cast this
  have le : 2 * n * |(r : ℚ) - 1000 / n| ≤ n - 1 := by
    rw [← scaled']
    exact_mod_cast Int.le_sub_one_of_lt less
  have unit : (2 : ℚ) ^ (-12 : Int) = 1 / 4096 := by norm_num
  rw [unit]
  nlinarith [abs_nonneg ((r : ℚ) - 1000 / n)]

/-- A positive multiple of a power of two is a double, if it is written with few bits. -/
theorem exists_scaled_int {m e : Int} (pos : 0 < m) (short : m < 2 ^ 53) (low : -1022 ≤ e)
    (high : e ≤ 971) : ∃ z : Float, IsFinite z ∧ value z = m * 2 ^ e := by
  obtain ⟨k, rfl⟩ := Int.eq_ofNat_of_zero_le pos.le
  exact exists_scaled (by omega) (by omega) low high

section Nearby

variable {r : Int} (nonneg : 0 ≤ r) (bound : r ≤ 1000) {q : ℚ}
include nonneg bound

/-- A positive number in the middle between two integers is a double. -/
theorem exists_middle (pos : 0 < q) (tie : |(r : ℚ) - q| = 1 / 2) :
    ∃ z : Float, IsFinite z ∧ value z = q := by
  have half : (2 : ℚ) ^ (-1 : Int) = 1 / 2 := by norm_num
  have middle : ∃ m : Int, 0 < m ∧ m < 2 ^ 53 ∧ q = m * 2 ^ (-1 : Int) := by
    rw [half]
    rcases abs_cases ((r : ℚ) - q) with ⟨same, -⟩ | ⟨same, -⟩
    · have least : 0 < r := by
        by_contra none
        obtain rfl : r = 0 := by omega
        push_cast at same
        linarith
      exact ⟨2 * r - 1, by omega, by omega, by push_cast; linarith⟩
    · exact ⟨2 * r + 1, by omega, by omega, by push_cast; linarith⟩
  obtain ⟨m, pos', short, rfl⟩ := middle
  exact exists_scaled_int pos' short (by decide) (by decide)

/-- What keeps away from the middle between two integers is not rounded to it, since there are
doubles between. -/
theorem Nearest.off_lt {x : Float} (h : Nearest x q) (pos : 0 < q)
    (gap : |(r : ℚ) - q| ≤ 1 / 2 - 2 ^ (-12 : Int)) : |(r : ℚ) - value x| < 1 / 2 := by
  have unit : (2 : ℚ) ^ (-12 : Int) = 1 / 4096 := by norm_num
  rw [unit, abs_le] at gap
  refine abs_lt.2 ⟨?_, ?_⟩
  · obtain ⟨z, finite, same⟩ := @exists_scaled_int (4096 * r + 2047) (-12) (by omega) (by omega)
      (by decide) (by decide)
    rw [unit] at same
    push_cast at same
    have below := h.le finite (by rw [same]; linarith)
    rw [same] at below
    linarith
  · rcases nonneg.eq_or_lt with rfl | more
    · have above := h.ge value_zero.1 (by rw [value_zero.2]; exact pos.le)
      rw [value_zero.2] at above
      push_cast
      linarith
    · obtain ⟨z, finite, same⟩ := @exists_scaled_int (4096 * r - 2047) (-12) (by omega) (by omega)
        (by decide) (by decide)
      rw [unit] at same
      push_cast at same
      have above := h.ge finite (by rw [same]; linarith)
      rw [same] at above
      linarith

end Nearby

/-- **Rounding such a quotient to a double first makes no difference.** -/
theorem roundHalfEven_quotient {n : Nat} (pos : 0 < n) (small : n < 2000) {x : Float}
    (h : Nearest x (1000 / n)) : roundHalfEven (value x) = roundHalfEven (1000 / n) := by
  have size : (1 : ℚ) ≤ n := by exact_mod_cast pos
  have positive : (0 : ℚ) < 1000 / n := by positivity
  have most : (1000 : ℚ) / n ≤ 1000 := div_le_self (by norm_num) size
  have near := roundHalfEven_near (1000 / n)
  have nonneg := roundHalfEven_nonneg positive.le
  have bound : roundHalfEven (1000 / n : ℚ) ≤ 1000 := by
    have : (roundHalfEven (1000 / n : ℚ) : ℚ) < 1001 := by linarith [(abs_le.1 near).2]
    exact Int.lt_add_one_iff.1 (by exact_mod_cast this)
  rcases near.lt_or_eq with off | tie
  · exact roundHalfEven_eq_of_lt (h.off_lt nonneg bound positive (quotient_gap pos small off))
  · obtain ⟨z, finite, same⟩ := exists_middle nonneg bound positive tie
    rw [h.eq finite same]

/-! ### The length of a tick -/

namespace Engine

/-- **The length of a tick is a thousand divided by the rate, rounded once.** -/
theorem lengthOf_eq {tps : Int} (pos : 0 < tps) : lengthOf tps = roundHalfEven (1000 / tps) := by
  have size : (0 : ℚ) < tps := by exact_mod_cast pos
  have nonneg : (0 : ℚ) ≤ 1000 / tps := by positivity
  rcases lt_or_ge tps 2000 with few | many
  · obtain ⟨n, rfl⟩ := Int.eq_ofNat_of_zero_le pos.le
    have pos' : 0 < n := Int.ofNat_lt.1 pos
    have few' : n < 2000 := Int.ofNat_lt.1 few
    obtain ⟨finite, same⟩ := @value_ofNat n (by omega)
    have near := nearest_quotient finite (same ▸ by exact_mod_cast pos')
    have whole : Float.ofInt n = Float.ofNat n := rfl
    rw [same] at near
    rw [lengthOf, whole, near.finite.ofFloat, Int.cast_natCast]
    exact roundHalfEven_quotient pos' few' near
  · -- from two thousand ticks on both are zero
    have none : ¬0 < lengthOf tps := by rwa [lengthOf_pos_iff pos, not_lt]
    have none' : ¬0 < roundHalfEven (1000 / tps : ℚ) := by
      rw [roundHalfEven_pos_iff nonneg, not_lt, div_le_iff₀ size]
      have : (2000 : ℚ) ≤ tps := by exact_mod_cast many
      linarith
    have := lengthOf_nonneg pos
    have := roundHalfEven_nonneg nonneg
    omega

/-- The length is off by no more than a half. -/
theorem lengthOf_near {tps : Int} (pos : 0 < tps) : 2 * |tps * lengthOf tps - 1000| ≤ tps := by
  have size : (0 : ℚ) < tps := by exact_mod_cast pos
  have near := roundHalfEven_near (1000 / tps)
  rw [← lengthOf_eq pos] at near
  have off : |(tps : ℚ) * lengthOf tps - 1000| = tps * |(lengthOf tps : ℚ) - 1000 / tps| := by
    rw [← abs_of_pos size, ← abs_mul, abs_of_pos size, mul_sub, mul_div_cancel₀ _ size.ne']
  have : 2 * |(tps : ℚ) * lengthOf tps - 1000| ≤ tps := by
    rw [off]
    nlinarith
  exact_mod_cast this

/-- **Ticks are of the exact length if and only if the rate divides a thousand.** -/
theorem mul_lengthOf_eq_iff {tps : Int} (pos : 0 < tps) :
    tps * lengthOf tps = 1000 ↔ tps ∣ 1000 := by
  refine ⟨fun same => ⟨_, same.symm⟩, ?_⟩
  rintro ⟨k, same⟩
  have size : (tps : ℚ) ≠ 0 := by exact_mod_cast pos.ne'
  have quotient : (1000 : ℚ) / tps = k := by
    rw [div_eq_iff size, mul_comm]
    exact_mod_cast same
  rw [lengthOf_eq pos, quotient, roundHalfEven_eq_of_lt (n := k) (by norm_num), same]

section Multiples

variable {tps k : Int} (pos : 0 < tps)
include pos

/-- Over some ticks, what the length is off by adds up. -/
theorem lengthOf_near_mul (nonneg : 0 ≤ k) :
    2 * |tps * (k * lengthOf tps) - 1000 * k| ≤ k * tps := by
  have off : tps * (k * lengthOf tps) - 1000 * k = k * (tps * lengthOf tps - 1000) := by ring
  rw [off, abs_mul, abs_of_nonneg nonneg, mul_left_comm]
  exact Int.mul_le_mul_of_nonneg_left (lengthOf_near pos) nonneg

/-- **Some ticks take the time that they should take just if the rate divides a thousand**, unless
there are none. -/
theorem mul_lengthOf_eq_ideal_iff :
    ((k * lengthOf tps : Int) : ℚ) = 1000 * k / tps ↔ k = 0 ∨ tps ∣ 1000 := by
  have size : (tps : ℚ) ≠ 0 := by exact_mod_cast pos.ne'
  rw [eq_div_iff size, ← mul_lengthOf_eq_iff pos, or_comm, ← mul_eq_mul_left_iff]
  constructor <;> intro same
  · have whole : k * lengthOf tps * tps = 1000 * k := by exact_mod_cast same
    linarith
  · have whole : k * lengthOf tps * tps = 1000 * k := by linarith
    exact_mod_cast whole

end Multiples

end Engine

end Microclimate
