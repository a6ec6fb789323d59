import Mathlib
import Microclimate.Proofs.Rounding

/-!
# The nearest double

Sums, differences, products and quotients of finite doubles are rounded to the **nearest** double,
as long as they are of moderate size. All that is needed of rounding follows: it does not cross a
double, and what lies below the middle between two doubles is not rounded up to the greater one.

Ties do not matter here. Where a number lies just in the middle between two doubles, both count as
nearest.

* `Microclimate.unpack_pack` – a double is read as it was written;
* `Microclimate.Nearest` – a double is nearest to a number, with `Microclimate.Nearest.le`,
  `Microclimate.Nearest.ge` and `Microclimate.Nearest.lt_of_middle`;
* `Microclimate.nearest_add`, `Microclimate.nearest_sub`, `Microclimate.nearest_mul`,
  `Microclimate.nearest_div` – **arithmetic is correctly rounded**.
-/

namespace Microclimate

open Float.Model Float.Model.UnpackedFloat

/-! ### Writing doubles and reading them back -/

theorem ofBitVec_toBitVec (s : Sign) : Sign.ofBitVec s.toBitVec = s := by cases s <;> rfl

/-- What is read where a mantissa is written below the least exponent. -/
theorem unpack_subnormal (s : Sign) {m : Nat} (pos : 0 < m) (short : m < 2 ^ 52) :
    UnpackedFloat.unpack .binary64 (packComponents .binary64 s 0#_ (BitVec.ofNat _ m)) =
      .finite s m (-1074) pos := by
  have mantissa : (BitVec.ofNat 52 m).toNat = m := by
    rw [BitVec.toNat_ofNat, Nat.mod_eq_of_lt short]
  have nonzero : BitVec.ofNat 52 m ≠ 0#52 := fun zero => by
    rw [zero] at mantissa
    exact pos.ne mantissa
  simp only [UnpackedFloat.unpack, unpackMantissa_packComponents, unpackExponent_packComponents,
    unpackSign_packComponents, ofBitVec_toBitVec, mantissa]
  rw [if_neg (by decide), if_pos trivial, dif_neg nonzero]
  rfl

/-- What is read where a mantissa of 53 bits is written. -/
theorem unpack_normal (s : Sign) {m b : Nat} (pos : 0 < m) (long : 2 ^ 52 ≤ m) (short : m < 2 ^ 53)
    (above : 0 < b) (below : b < 2047) :
    UnpackedFloat.unpack .binary64
        (packComponents .binary64 s (BitVec.ofNat _ b) (BitVec.ofNat _ m)) =
      .finite s m (b - 1075) pos := by
  have exponent : (BitVec.ofNat 11 b).toNat = b := by
    rw [BitVec.toNat_ofNat, Nat.mod_eq_of_lt (by omega)]
  have notLeast : BitVec.ofNat 11 b ≠ 0#11 := fun h => by
    rw [h] at exponent
    exact above.ne exponent
  have notGreatest : BitVec.ofNat 11 b ≠ -1#11 := fun h => by
    rw [h] at exponent
    exact below.ne' exponent
  have mantissa : (1#1 ++ BitVec.ofNat 52 m).toNat = m := by
    rw [BitVec.toNat_append, ← Nat.shiftLeft_add_eq_or_of_lt (BitVec.ofNat 52 m).isLt,
      BitVec.toNat_ofNat]
    change 2 ^ 52 + m % 2 ^ 52 = m
    omega
  simp only [UnpackedFloat.unpack, unpackMantissa_packComponents, unpackExponent_packComponents,
    unpackSign_packComponents, ofBitVec_toBitVec, mantissa, exponent]
  rw [if_neg notGreatest, if_neg notLeast]
  rfl

/-- **A double is read as it was written**, unless the exponent is too large. -/
theorem unpack_pack {f : UnpackedFloat} (h : Canonical f)
    (small : ∀ {s m e hm}, f = .finite s m e hm → e ≤ 971) :
    (Float.ofModel (.pack f)).toModel.unpack = f := by
  change UnpackedFloat.unpack .binary64 (UnpackedFloat.pack .binary64 f) = f
  cases f with
  | notANumber => rfl
  | infinity s => cases s <;> rfl
  | zero s => cases s <;> rfl
  | finite s m e hm =>
    obtain ⟨short, least, full⟩ := h
    have range := small rfl
    have biased : e + Format.binary64.exponentBias + (52 : Nat) = e + 1075 := by
      change e + (1023 : Nat) + (52 : Nat) = e + 1075
      omega
    have bits : m.log2 + 1 = Format.binary64.mantissaBits ↔ 2 ^ 52 ≤ m := by
      change m.log2 + 1 = 53 ↔ _
      rw [← Nat.le_log2 hm.ne']
      have := (Nat.log2_lt hm.ne').2 short
      omega
    have fits : ¬2 ^ 11 ≤ (e + 1075).toNat + 1 := by omega
    simp only [UnpackedFloat.pack, biased]
    rw [if_neg fits]
    by_cases long : 2 ^ 52 ≤ m
    · rw [if_pos (bits.2 long), unpack_normal s hm long short (by omega) (by omega)]
      congr
      omega
    · rw [if_neg (mt bits.1 long), unpack_subnormal s hm (not_le.1 long)]
      congr
      exact (full.resolve_right long).symm

/-! ### The nearest double -/

/-- **A double is nearest to a number**: it is finite, and no finite double is nearer. -/
structure Nearest (x : Float) (q : ℚ) : Prop where
  finite : IsFinite x
  nearest : ∀ {z : Float}, IsFinite z → |value x - q| ≤ |value z - q|

namespace Nearest

variable {x z : Float} {q : ℚ}

/-- A double that has the value itself is nearest. -/
theorem of_value (h : IsFinite x) (same : value x = q) : Nearest x q :=
  ⟨h, fun _ => by simp [same]⟩

/-- **Rounding does not cross a double.** -/
theorem le (h : Nearest x q) (hz : IsFinite z) (le : q ≤ value z) : value x ≤ value z := by
  by_contra! crossed
  have near := h.nearest hz
  rw [abs_of_pos (by linarith), abs_of_nonneg (by linarith)] at near
  linarith

theorem ge (h : Nearest x q) (hz : IsFinite z) (ge : value z ≤ q) : value z ≤ value x := by
  by_contra! crossed
  have near := h.nearest hz
  rw [abs_of_neg (by linarith), abs_of_nonpos (by linarith)] at near
  linarith

/-- What is farther off than some double is not the value of the nearest one. -/
theorem ne_of_closer (h : Nearest x q) (hz : IsFinite z) {p : ℚ}
    (closer : |value z - q| < |p - q|) : value x ≠ p := by
  rintro rfl
  exact absurd (h.nearest hz) (not_le.2 closer)

/-- A number below the middle between a double and some other number is not rounded to the latter,
or beyond. -/
theorem lt_of_middle (h : Nearest x q) (hz : IsFinite z) {p : ℚ} (above : value z < p)
    (middle : 2 * q < value z + p) : value x < p := by
  by_contra! beyond
  have near := h.nearest hz
  rw [abs_of_pos (by linarith)] at near
  rcases abs_cases (value z - q) with ⟨same, -⟩ | ⟨same, -⟩ <;> linarith

end Nearest

theorem isFinite_of_exact {x : Float} {q : ℚ} (h : Exact.ofFloat x = .real q) :
    IsFinite x ∧ value x = q :=
  ⟨⟨q, h⟩, by rw [value, h]⟩

theorem isFinite_iff {x : Float} {q : ℚ} (h : Exact.ofUnpacked x.toModel.unpack = .real q) :
    IsFinite x ∧ value x = q :=
  isFinite_of_exact (by rw [Exact.ofFloat_eq, h])

theorem value_zero : IsFinite 0.0 ∧ value 0.0 = 0 := isFinite_of_exact (by decide +kernel)

theorem value_one : IsFinite 1.0 ∧ value 1.0 = 1 := isFinite_of_exact (by decide +kernel)

namespace Nearest

variable {x z : Float} {q : ℚ}

/-- A double is not further from a number than zero is. -/
theorem abs_sub_le (h : Nearest x q) : |value x - q| ≤ |q| := by
  have near := h.nearest value_zero.1
  rwa [value_zero.2, zero_sub, abs_neg] at near

/-- What has the value of a double is rounded to that value. -/
theorem eq (h : Nearest x q) (hz : IsFinite z) (same : value z = q) : value x = q := by
  have near := h.nearest hz
  rwa [same, sub_self, abs_zero, abs_nonpos_iff, sub_eq_zero] at near

end Nearest

/-- What is written as doubles are, with an exponent that is not too large, is a finite double. -/
theorem Writes.isFinite {f : UnpackedFloat} {q : ℚ} {b : Int} (h : Writes f q b) (hb : b ≤ 971) :
    IsFinite (.ofModel (.pack f)) ∧ value (.ofModel (.pack f)) = q := by
  refine isFinite_iff ?_
  rw [unpack_pack h.canonical fun same => (h.small same).trans hb, h.exact]

/-- The value of a finite double in units of a power of two. -/
theorem IsFinite.scaled {x : Float} (h : IsFinite x) :
    ∃ k d : Int, |k| < 2 ^ 53 ∧ -1074 ≤ d ∧ value x = k * 2 ^ d := by
  have exact := h.ofFloat
  have canonical := canonical_unpack x
  rw [Exact.ofFloat_eq] at exact
  generalize x.toModel.unpack = f at exact canonical
  cases f with
  | notANumber => exact nomatch exact
  | infinity s => exact nomatch exact
  | zero s =>
    refine ⟨0, 0, by norm_num, by norm_num, ?_⟩
    simpa [Exact.ofUnpacked] using (Exact.real.inj exact).symm
  | finite s m e hm =>
    refine ⟨s.apply m, e, ?_, canonical.2.1, (Exact.real.inj exact).symm⟩
    have short := canonical.1
    cases s <;> simp only [Sign.apply, abs_neg, Nat.abs_cast] <;> exact_mod_cast short

theorem abs_apply (s : Sign) (m : Nat) : |((s.apply m : Int) : ℚ)| = m := by
  cases s <;> simp [Sign.apply]

theorem apply_mul (s t : Sign) (m n : Int) : (s * t).apply (m * n) = s.apply m * t.apply n := by
  cases s <;> cases t
  · exact (neg_mul_neg m n).symm
  · exact (neg_mul m n).symm
  · exact (mul_neg m n).symm
  · rfl

/-- A sign is a factor. -/
theorem apply_eq_mul (s : Sign) (m : Int) : s.apply m = s.apply 1 * m := by
  cases s <;> simp [Sign.apply]

/-- **Rounding gives the nearest double**, unless the number is too large. -/
theorem nearest_roundShown (s : Sign) {m : Nat} {a : Accuracy} {t : ℚ}
    (shown : Shows (.ofMantissaAndAccuracy m a) t) {e : Int} (h : e ≤ target m e)
    (some : 0 < m ∨ target m e = -1074) (small : t * 2 ^ e < 2 ^ 1000) :
    Nearest (.ofModel (.pack (roundWithAccuracy .binary64 s m e a)))
      ((s.apply 1 : Int) * (t * 2 ^ e)) := by
  obtain ⟨n, written, half⟩ := roundWithAccuracy_writes s shown h some
  have full := (scaled_target shown.bounds.1 shown.bounds.2 some).2
  have bound : target m e + 1 ≤ 971 := by
    rcases full with least | full
    · omega
    · have : (2 : ℚ) ^ (52 + target m e) < 2 ^ (1000 : Int) := by
        rw [zpow_add₀ two_ne_zero]
        exact_mod_cast full.trans_lt small
      have := (zpow_lt_zpow_iff_right₀ one_lt_two).1 this
      omega
  obtain ⟨finite, value_eq⟩ := written.isFinite bound
  refine ⟨finite, fun {z} hz => ?_⟩
  obtain ⟨k, d, short, least, same⟩ := hz.scaled
  rw [value_eq, same, apply_eq_mul]
  cases s with
  | positive =>
    simpa [Sign.apply] using nearest_of_half full half short least
  | negative =>
    have mirrored := nearest_of_half full half (k := -k) (by rwa [abs_neg]) least
    simp only [Sign.apply]
    push_cast at mirrored ⊢
    rw [show -1 * (n : ℚ) * 2 ^ target m e - -1 * (t * 2 ^ e) =
        -(n * 2 ^ target m e - t * 2 ^ e) by ring,
      show (k : ℚ) * 2 ^ d - -1 * (t * 2 ^ e) = -(-k * 2 ^ d - t * 2 ^ e) by ring, abs_neg, abs_neg]
    exact mirrored

/-- Rounding a mantissa to which nothing is to be added. -/
theorem nearest_roundWithAccuracy (s : Sign) {m : Nat} (pos : 0 < m) {e : Int} (h : e ≤ target m e)
    (small : (m : ℚ) * 2 ^ e < 2 ^ 1000) :
    Nearest (.ofModel (.pack (roundWithAccuracy .binary64 s m e .exact)))
      ((s.apply m : Int) * 2 ^ e) := by
  have rounded := nearest_roundShown s (shows_exact m) h (.inl pos) small
  rw [apply_eq_mul, Int.cast_mul, Int.cast_natCast, mul_assoc]
  exact rounded

theorem log2_shiftLeft {m : Nat} (pos : 0 < m) (k : Nat) : (m <<< k).log2 = m.log2 + k := by
  induction k with
  | zero => simp
  | succ k ih =>
    have pos' : m <<< k ≠ 0 := by simp [Nat.shiftLeft_eq, pos.ne']
    rw [Nat.shiftLeft_succ, Nat.log2_two_mul pos', ih]
    omega

/-- Decreasing the exponent does not change the number. -/
theorem decreaseExponent_value (m : Nat) (e d : Int) :
    ((decreaseExponent m e d).1 : ℚ) * 2 ^ (decreaseExponent m e d).2 = m * 2 ^ e := by
  simp only [decreaseExponent, Nat.shiftLeft_eq]
  push_cast
  rw [mul_assoc, ← zpow_natCast, ← zpow_add₀ two_ne_zero]
  congr 2
  omega

theorem nearest_round (s : Sign) {m : Nat} (pos : 0 < m) {e : Int}
    (small : (m : ℚ) * 2 ^ e < 2 ^ 1000) :
    Nearest (.ofModel (.pack (UnpackedFloat.round .binary64 s m e)))
      ((s.apply m : Int) * 2 ^ e) := by
  have pos' : 0 < m <<< (e - target m e).toNat := by
    rw [Nat.shiftLeft_eq]
    positivity
  have le : e - (e - target m e).toNat ≤
      target (m <<< (e - target m e).toNat) (e - (e - target m e).toNat) := by
    have := target_eq m e
    rw [target_eq (_ <<< _), log2_shiftLeft pos]
    omega
  have same := decreaseExponent_value m e (target m e)
  have rounded := nearest_roundWithAccuracy s pos' le (same ▸ small)
  have same' : ((s.apply (m <<< (e - target m e).toNat : Nat) : Int) : ℚ) *
      2 ^ (e - (e - target m e).toNat) = (s.apply m : Int) * 2 ^ e := by
    cases s with
    | positive => exact same
    | negative =>
      simp only [Sign.apply]
      push_cast
      rw [neg_mul, neg_mul]
      exact congrArg Neg.neg same
  exact same' ▸ rounded

/-- Rounding a number with a sign. -/
theorem nearest_normalize (m : Int) {e : Int} (small : |(m : ℚ) * 2 ^ e| < 2 ^ 1000) (s : Sign) :
    Nearest (.ofModel (.pack (UnpackedFloat.normalize .binary64 m e s))) (m * 2 ^ e) := by
  have unit : (0 : ℚ) < 2 ^ e := zpow_pos two_pos e
  rw [abs_mul, abs_of_pos unit] at small
  rw [UnpackedFloat.normalize]
  rcases lt_trichotomy m 0 with below | rfl | above
  · have size : ((-m).toNat : Int) = -m := Int.toNat_of_nonneg (by omega)
    have cast : (((-m).toNat : Nat) : ℚ) = |(m : ℚ)| := by
      rw [abs_of_neg (by exact_mod_cast below)]
      exact_mod_cast size
    have rounded := nearest_round .negative (m := (-m).toNat) (e := e) (by omega) (by rwa [cast])
    simp only [Sign.apply, size, neg_neg] at rounded
    rwa [compare_lt_iff_lt.2 below]
  · rw [compare_eq_iff_eq.2 rfl]
    have zero := (writes_zero s 971).isFinite le_rfl
    exact .of_value zero.1 (by simpa using zero.2)
  · have size : (m.toNat : Int) = m := Int.toNat_of_nonneg (by omega)
    have cast : ((m.toNat : Nat) : ℚ) = |(m : ℚ)| := by
      rw [abs_of_pos (by exact_mod_cast above)]
      exact_mod_cast size
    have rounded := nearest_round .positive (m := m.toNat) (e := e) (by omega) (by rwa [cast])
    simp only [Sign.apply, size] at rounded
    rwa [compare_gt_iff_gt.2 above]

/-! ### Arithmetic -/

/-- A double of moderate value has an exponent that is not too large. -/
theorem Writes.of_small {f : UnpackedFloat} {q : ℚ} (h : Canonical f)
    (exact : Exact.ofUnpacked f = .real q) (small : |q| < 2 ^ 1000) : Writes f q 971 := by
  refine ⟨h, exact, fun {s m e hm} same => ?_⟩
  subst same
  obtain rfl := Exact.real.inj exact
  by_contra! large
  have full : (2 : ℚ) ^ 52 ≤ m := by exact_mod_cast h.2.2.resolve_left (by omega)
  have power : (2 : ℚ) ^ (1000 : Int) ≤ 2 ^ (52 + e) :=
    zpow_le_zpow_right₀ one_le_two (by omega)
  rw [zpow_add₀ two_ne_zero] at power
  rw [abs_mul, abs_apply, abs_of_pos (zpow_pos two_pos e)] at small
  have : (2 : ℚ) ^ 1000 ≤ m * 2 ^ e := by
    calc (2 : ℚ) ^ 1000 ≤ (2 : ℚ) ^ 52 * 2 ^ e := by exact_mod_cast power
      _ ≤ (m : ℚ) * 2 ^ e := by gcongr
  exact absurd small (not_lt.2 this)

theorem Nearest.of_writes {f : UnpackedFloat} {q : ℚ} (h : Writes f q 971) :
    Nearest (.ofModel (.pack f)) q :=
  .of_value (h.isFinite le_rfl).1 (h.isFinite le_rfl).2

/-- A mantissa with a sign, once its exponent has been decreased. -/
theorem apply_decreaseExponent (s : Sign) (m : Nat) {e d : Int} (h : d ≤ e) :
    ((s.apply (decreaseExponent m e d).1 : Int) : ℚ) * 2 ^ d = (s.apply m : Int) * 2 ^ e := by
  have same := decreaseExponent_value m e d
  have exponent : (decreaseExponent m e d).2 = d := by
    simp only [decreaseExponent]
    omega
  rw [exponent] at same
  cases s with
  | positive => exact same
  | negative =>
    simp only [Sign.apply]
    push_cast
    rw [neg_mul, neg_mul, same]

/-- Adding unpacked doubles gives the nearest double to the sum of their values. -/
theorem nearest_unpacked_add {f g : UnpackedFloat} {p q : ℚ} (hf : Canonical f) (hg : Canonical g)
    (ef : Exact.ofUnpacked f = .real p) (eg : Exact.ofUnpacked g = .real q)
    (small : |p + q| < 2 ^ 1000) : Nearest (.ofModel (.pack (f.add .binary64 g))) (p + q) := by
  cases f with
  | notANumber => exact nomatch ef
  | infinity s => exact nomatch ef
  | zero s =>
    obtain rfl := Exact.real.inj ef
    rw [zero_add] at small ⊢
    cases g with
    | notANumber => exact nomatch eg
    | infinity t => exact nomatch eg
    | zero t =>
      obtain rfl := Exact.real.inj eg
      cases s <;> cases t <;> exact .of_writes (writes_zero _ _)
    | finite t n d hn => exact .of_writes (.of_small hg eg small)
  | finite s m e hm =>
    cases g with
    | notANumber => exact nomatch eg
    | infinity t => exact nomatch eg
    | zero t =>
      obtain rfl := Exact.real.inj eg
      rw [add_zero] at small ⊢
      exact .of_writes (.of_small hf ef small)
    | finite t n d hn =>
      obtain rfl := Exact.real.inj ef
      obtain rfl := Exact.real.inj eg
      have sum : (((s.apply (decreaseExponent m e (min e d)).1 +
          t.apply (decreaseExponent n d (min e d)).1 : Int)) : ℚ) * 2 ^ min e d =
          (s.apply m : Int) * 2 ^ e + (t.apply n : Int) * 2 ^ d := by
        rw [Int.cast_add, add_mul, apply_decreaseExponent s m (min_le_left e d),
          apply_decreaseExponent t n (min_le_right e d)]
      rw [← sum] at small ⊢
      exact nearest_normalize _ small .positive

/-- Subtracting is adding with the sign changed. -/
theorem unpacked_sub_eq_add_neg (f g : UnpackedFloat) :
    f.sub .binary64 g = f.add .binary64 g.neg := by
  cases f with
  | notANumber => rfl
  | infinity s => cases g <;> rfl
  | zero s => cases g <;> rfl
  | finite s m e hm =>
    cases g with
    | notANumber | infinity t | zero t => rfl
    | finite t n d hn =>
      have flip : s.apply (decreaseExponent m e (min e d)).1 -
          t.apply (decreaseExponent n d (min e d)).1 =
          s.apply (decreaseExponent m e (min e d)).1 +
            (-t).apply (decreaseExponent n d (min e d)).1 := by
        cases t
        · exact sub_neg_eq_add _ _
        · exact sub_eq_add_neg _ _
      exact congrArg (UnpackedFloat.normalize .binary64 · (min e d) .positive) flip

theorem canonical_neg {f : UnpackedFloat} (h : Canonical f) : Canonical f.neg := by
  cases f <;> exact h

theorem ofUnpacked_neg {f : UnpackedFloat} {q : ℚ} (h : Exact.ofUnpacked f = .real q) :
    Exact.ofUnpacked f.neg = .real (-q) := by
  cases f with
  | notANumber => exact nomatch h
  | infinity s => exact nomatch h
  | zero s =>
    obtain rfl := Exact.real.inj h
    rfl
  | finite s m e hm =>
    obtain rfl := Exact.real.inj h
    refine congrArg Exact.real ?_
    rw [← neg_mul, ← Int.cast_neg]
    cases s
    · rw [Sign.apply, neg_neg]
      rfl
    · rfl

/-- Multiplying unpacked doubles gives the nearest double to the product of their values. -/
theorem nearest_unpacked_mul {f g : UnpackedFloat} {p q : ℚ} (hf : Canonical f) (hg : Canonical g)
    (ef : Exact.ofUnpacked f = .real p) (eg : Exact.ofUnpacked g = .real q)
    (small : |p * q| < 2 ^ 1000) : Nearest (.ofModel (.pack (f.mul .binary64 g))) (p * q) := by
  have zero (s : Sign) : Nearest (.ofModel (.pack (.zero s))) 0 := .of_writes (writes_zero _ _)
  cases f with
  | notANumber => exact nomatch ef
  | infinity s => exact nomatch ef
  | zero s =>
    obtain rfl := Exact.real.inj ef
    rw [zero_mul]
    cases g with
    | notANumber => exact nomatch eg
    | infinity t => exact nomatch eg
    | zero t => exact zero _
    | finite t n d hn => exact zero _
  | finite s m e hm =>
    cases g with
    | notANumber => exact nomatch eg
    | infinity t => exact nomatch eg
    | zero t =>
      obtain rfl := Exact.real.inj eg
      rw [mul_zero]
      exact zero _
    | finite t n d hn =>
      obtain rfl := Exact.real.inj ef
      obtain rfl := Exact.real.inj eg
      have pos : 0 < m * n := Nat.mul_pos hm hn
      -- one of the two mantissas has all of its bits, or the exponent is small anyway
      have le : e + d ≤ target (m * n) (e + d) := by
        rw [target_eq]
        rcases hf.2.2 with least | full
        · rcases hg.2.2 with least' | full
          · omega
          · have := (Nat.le_log2 pos.ne').2 (full.trans (Nat.le_mul_of_pos_left n hm))
            omega
        · have := (Nat.le_log2 pos.ne').2 (full.trans (Nat.le_mul_of_pos_right m hn))
          omega
      have product : (((s * t).apply (m * n : Nat) : Int) : ℚ) * 2 ^ (e + d) =
          (s.apply m : Int) * 2 ^ e * ((t.apply n : Int) * 2 ^ d) := by
        rw [zpow_add₀ two_ne_zero, Nat.cast_mul, apply_mul, Int.cast_mul]
        ring
      rw [← product, abs_mul, abs_apply, abs_of_pos (zpow_pos two_pos _)] at small
      rw [← product]
      exact nearest_roundWithAccuracy (s * t) pos le small

/-- The quotient of two signs is that of the numbers that they stand for. -/
theorem apply_div (s t : Sign) :
    (((s / t).apply 1 : Int) : ℚ) = (s.apply 1 : Int) / (t.apply 1 : Int) := by
  have product : (s / t).apply 1 = s.apply 1 * t.apply 1 := apply_mul s t 1 1
  rw [product, Int.cast_mul]
  cases s <;> cases t <;> norm_num [Sign.apply]

/-- The quotient of two mantissas is computed with as many bits as are rounded to, or more. -/
theorem divCore_eq {m n : Nat} (hm : 0 < m) (hn : 0 < n) (e d : Int) :
    ∃ (k : Nat) (u : Int), divCore .binary64 m e n d =
        (k / n, u, accuracyOfFraction (k % n) n) ∧ (k : ℚ) * 2 ^ u = m * 2 ^ (e - d) ∧
      u ≤ target (k / n) u ∧ (0 < k / n ∨ target (k / n) u = -1074) := by
  let u := min (e - d) (max (m.log2 + 1 + e - (n.log2 + 1 + d) - 53) (-1074))
  refine ⟨m <<< (e - d - u).toNat, u, rfl, ?_, ?_⟩
  · rw [Nat.shiftLeft_eq]
    push_cast
    rw [mul_assoc, ← zpow_natCast, ← zpow_add₀ two_ne_zero]
    congr 2
    omega
  · have bits := log2_shiftLeft hm (e - d - u).toNat
    generalize m <<< (e - d - u).toNat = k at bits
    rw [target_eq]
    rcases le_or_gt u (-1074) with least | more
    · refine ⟨by omega, ?_⟩
      rcases Nat.eq_zero_or_pos (k / n) with none | some
      · refine .inr ?_
        rw [none, Nat.log2_zero]
        omega
      · exact .inl some
    · -- there are 53 bits more than those of the divisor
      have long : 2 ^ (n.log2 + 53) ≤ k := by
        have nonzero : k ≠ 0 := by
          rintro rfl
          rw [Nat.log2_zero] at bits
          omega
        refine (Nat.le_log2 nonzero).1 ?_
        omega
      have full : 2 ^ 52 ≤ k / n := by
        rw [Nat.le_div_iff_mul_le hn]
        calc 2 ^ 52 * n ≤ 2 ^ 52 * 2 ^ (n.log2 + 1) :=
              Nat.mul_le_mul_left _ Nat.lt_log2_self.le
          _ = 2 ^ (n.log2 + 53) := by rw [← pow_add]; congr 1; omega
          _ ≤ k := long
      have some : 0 < k / n := lt_of_lt_of_le (by norm_num) full
      have := (Nat.le_log2 some.ne').2 full
      exact ⟨by omega, .inl some⟩

/-- Dividing unpacked doubles gives the nearest double to the quotient of their values. -/
theorem nearest_unpacked_div {f g : UnpackedFloat} {p q : ℚ}
    (ef : Exact.ofUnpacked f = .real p) (eg : Exact.ofUnpacked g = .real q) (nonzero : q ≠ 0)
    (small : |p / q| < 2 ^ 1000) : Nearest (.ofModel (.pack (f.div .binary64 g))) (p / q) := by
  cases g with
  | notANumber => exact nomatch eg
  | infinity t => exact nomatch eg
  | zero t => exact absurd (Exact.real.inj eg).symm nonzero
  | finite t n d hn =>
    cases f with
    | notANumber => exact nomatch ef
    | infinity s => exact nomatch ef
    | zero s =>
      obtain rfl := Exact.real.inj ef
      rw [zero_div]
      exact .of_writes (writes_zero _ _)
    | finite s m e hm =>
      obtain rfl := Exact.real.inj ef
      obtain rfl := Exact.real.inj eg
      obtain ⟨k, u, computed, scaled, le, some⟩ := divCore_eq hm hn e d
      have divisor : (n : ℚ) ≠ 0 := by exact_mod_cast hn.ne'
      have whole : ((k / n : Nat) : ℚ) + (k % n : Nat) / n = k / n := by
        rw [add_div' _ _ _ divisor, div_left_inj' divisor]
        exact_mod_cast Nat.div_add_mod' k n
      have quotient : (((s / t).apply 1 : Int) : ℚ) *
          ((((k / n : Nat) : ℚ) + (k % n : Nat) / n) * 2 ^ u) =
          (s.apply m : Int) * 2 ^ e / ((t.apply n : Int) * 2 ^ d) := by
        rw [whole, apply_div, apply_eq_mul s m, apply_eq_mul t n, div_mul_eq_mul_div (k : ℚ),
          scaled, zpow_sub₀ two_ne_zero]
        push_cast
        field_simp
      have rest : (0 : ℚ) ≤ (k % n : Nat) / n := div_nonneg (Nat.cast_nonneg _) (Nat.cast_nonneg _)
      have positive : 0 ≤ (((k / n : Nat) : ℚ) + (k % n : Nat) / n) * 2 ^ u :=
        mul_nonneg (add_nonneg (Nat.cast_nonneg _) rest) (zpow_nonneg zero_le_two u)
      rw [← quotient, abs_mul, abs_of_nonneg positive] at small
      have one : |(((s / t).apply 1 : Int) : ℚ)| = 1 := by exact_mod_cast abs_apply (s / t) 1
      rw [one, one_mul] at small
      have shown := shows_fraction (k / n) (Nat.mod_lt k hn)
      rw [← quotient, UnpackedFloat.div, computed]
      exact nearest_roundShown (s / t) shown le some small

section Arithmetic

variable {x y : Float}

theorem IsFinite.ofUnpacked (h : IsFinite x) :
    Exact.ofUnpacked x.toModel.unpack = .real (value x) := by
  rw [← Exact.ofFloat_eq, h.ofFloat]

/-- **A sum is the nearest double** to the sum of the values. -/
theorem nearest_add (hx : IsFinite x) (hy : IsFinite y) (small : |value x + value y| < 2 ^ 1000) :
    Nearest (x + y) (value x + value y) :=
  nearest_unpacked_add (canonical_unpack x) (canonical_unpack y) hx.ofUnpacked hy.ofUnpacked small

/-- A difference is the nearest double to the difference of the values. -/
theorem nearest_sub (hx : IsFinite x) (hy : IsFinite y) (small : |value x - value y| < 2 ^ 1000) :
    Nearest (x - y) (value x - value y) := by
  rw [sub_eq_add_neg] at small
  have difference := nearest_unpacked_add (canonical_unpack x) (canonical_neg (canonical_unpack y))
    hx.ofUnpacked (ofUnpacked_neg hy.ofUnpacked) small
  rw [← unpacked_sub_eq_add_neg, ← sub_eq_add_neg] at difference
  exact difference

/-- A product is the nearest double to the product of the values. -/
theorem nearest_mul (hx : IsFinite x) (hy : IsFinite y) (small : |value x * value y| < 2 ^ 1000) :
    Nearest (x * y) (value x * value y) :=
  nearest_unpacked_mul (canonical_unpack x) (canonical_unpack y) hx.ofUnpacked hy.ofUnpacked small

/-- A quotient is the nearest double to the quotient of the values. -/
theorem nearest_div (hx : IsFinite x) (hy : IsFinite y) (nonzero : value y ≠ 0)
    (small : |value x / value y| < 2 ^ 1000) : Nearest (x / y) (value x / value y) :=
  nearest_unpacked_div hx.ofUnpacked hy.ofUnpacked nonzero small

end Arithmetic

end Microclimate
