import Mathlib
import Microclimate.Proofs.Comparing
import Microclimate.Proofs.Tables
import Microclimate.Rows

/-!
# What can be written down

A complaint shows the zone, the cell or the row that it is about, and it cannot be made if an
integer in them has too many digits. One has to look for such an integer in the row itself, for
**the integer that a cell is taken for is not too long unless the cell is that very integer**: a
double is not that large, and a text of so many digits is not read in the first place.

* `Microclimate.Numeral.isWritable_iff` – the integers that can be written down;
* `Microclimate.Numeral.isWritable_of_read?`, `Microclimate.abs_lt_of_exact` – the integers of
  texts, and the size of doubles;
* `Microclimate.Value.isWritable_of_whole` – **the integer of a cell** can be written down with the
  cell;
* `Microclimate.Value.isWritable_dict_iff` – a dictionary can be written down if its entries can.
-/

namespace Microclimate

open Float.Model Float.Model.UnpackedFloat

/-! ### Integers -/

namespace Numeral

/-- An integer can be written down if it lies below the first number with too many digits. -/
theorem isWritable_iff {n : ℤ} : isWritable n = true ↔ n.natAbs < 10 ^ maxDigits := by
  rw [isWritable, decide_eq_true_eq]
  exact Nat.length_repr_le_iff (by decide)

theorem value_eq (ds : List ℕ) : value ds = Nat.ofDigits 10 ds.reverse := by
  rw [Nat.ofDigits_eq_foldr, List.foldr_reverse]
  simp only [value, Nat.cast_id, Nat.add_comm]

/-- What is read of a text are decimal digits. -/
theorem digits?_lt {inside : Bool} {cs : List CodePoint} {ds : List ℕ}
    (h : digits? inside cs = some ds) : ∀ d ∈ ds, d < 10 := by
  induction cs generalizing inside ds with
  | nil =>
    cases inside <;> cases h
    exact fun _ mem => absurd mem List.not_mem_nil
  | cons c rest ih =>
    rw [digits?] at h
    split at h
    next d digit =>
      obtain ⟨others, read, rfl⟩ := Option.map_eq_some_iff.1 h
      exact List.forall_mem_cons.2 ⟨Nat.lt_succ_of_le (CodePoint.digit?_le digit), ih read⟩
    next =>
      split at h
      · exact ih h
      · cases h

/-- **What is read can be written down.** -/
theorem isWritable_of_read? {t : Text} {n : ℤ} (h : read? t = some n) : isWritable n = true := by
  simp only [read?] at h
  split at h
  next => cases h
  next ds found =>
    split at h
    next short =>
      have bound : value ds < 10 ^ maxDigits := by
        rw [value_eq]
        refine (Nat.ofDigits_lt_base_pow_length (by decide) fun d mem => ?_).trans_le
          (Nat.pow_le_pow_right (by decide) ?_)
        · exact digits?_lt found d (List.mem_reverse.1 mem)
        · rwa [List.length_reverse]
      rw [isWritable_iff, ← Option.some.inj h]
      split
      · rwa [Int.natAbs_neg, Int.natAbs_natCast]
      · rwa [Int.natAbs_natCast]
    next => cases h

end Numeral

/-! ### Doubles -/

/-- Finite doubles lie below the first number with too many digits. -/
theorem abs_lt_of_exact {x : Float} {q : ℚ} (h : Exact.ofFloat x = .real q) :
    |q| < 10 ^ Numeral.maxDigits := by
  obtain ⟨b, reads⟩ : ∃ b, Reads b x.toModel.unpack := ⟨_, reads_unpack _⟩
  have canonical := canonical_unpack x
  rw [Exact.ofFloat_eq] at h
  generalize x.toModel.unpack = f at h reads canonical
  cases f with
  | notANumber => cases h
  | infinity s => cases h
  | zero s =>
    cases h
    rw [abs_zero]
    positivity
  | finite s m e hm =>
    obtain rfl := Exact.real.inj h
    have size : |((s.apply m : ℤ) : ℚ)| = m := by cases s <;> simp [Sign.apply]
    have short : (m : ℚ) < 2 ^ 53 := by exact_mod_cast canonical.1
    have least : e ≤ 973 := by
      rcases reads with ⟨-, -, rfl⟩ | ⟨-, -, rfl⟩
      · norm_num
      · have greatest : (unpackExponent b).toNat < 2 ^ 11 := (unpackExponent b).isLt
        omega
    have scale : (2 : ℚ) ^ e ≤ 2 ^ (973 : ℤ) := zpow_le_zpow_right₀ (by norm_num) least
    rw [abs_mul, size, abs_of_pos (by positivity : (0 : ℚ) < 2 ^ e)]
    calc (m : ℚ) * 2 ^ e ≤ m * 2 ^ (973 : ℤ) := by gcongr
      _ < 2 ^ 53 * 2 ^ (973 : ℤ) := by gcongr
      _ = 2 ^ (53 + 973) := (pow_add 2 53 973).symm
      _ ≤ 10 ^ (53 + 973) := pow_le_pow_left₀ (by norm_num) (by norm_num) _
      _ ≤ 10 ^ Numeral.maxDigits := pow_le_pow_right₀ (by norm_num) (by decide)

/-- A number does not grow when its fraction is dropped. -/
theorem natAbs_truncate_le (q : ℚ) : ((truncate q).natAbs : ℚ) ≤ |q| := by
  rw [Nat.cast_natAbs, Int.cast_abs, truncate]
  split
  next below =>
    have ceil : q ≤ q.ceil := Rat.le_ceil
    have sign : (q.ceil : ℚ) ≤ 0 := by exact_mod_cast Rat.ceil_le_iff.2 (by simpa using below.le)
    rw [abs_of_nonpos sign, abs_of_neg below]
    linarith
  next least =>
    have floor := Rat.floor_le q
    have sign : (0 : ℚ) ≤ q.floor := by
      exact_mod_cast Rat.le_floor_iff.2 (by simpa using not_lt.1 least)
    rw [abs_of_nonneg sign, abs_of_nonneg (not_lt.1 least)]
    exact floor

/-! ### Values -/

namespace Value

/-- **The integer of a cell** can be written down if the cell can. -/
theorem isWritable_of_whole {v : Value} {n : ℤ} (short : v.isWritable = true)
    (whole : v.whole = .number n) : Numeral.isWritable n = true := by
  cases v with
  | null | list _ | dict _ => cases whole
  | bool b =>
    cases whole
    cases b <;> decide
  | int m =>
    cases whole
    exact short
  | float x =>
    rw [Value.whole] at whole
    split at whole
    next q exact =>
      cases whole
      have least := (natAbs_truncate_le q).trans_lt (abs_lt_of_exact exact)
      rw [Numeral.isWritable_iff]
      exact_mod_cast least
    next => cases whole
    next => cases whole
  | text t =>
    rw [Value.whole] at whole
    split at whole
    next m read =>
      cases whole
      exact Numeral.isWritable_of_read? read
    next => cases whole

theorem areWritable_iff {items : List Value} :
    areWritable items = true ↔ ∀ v ∈ items, v.isWritable = true := by
  induction items with
  | nil => simp [areWritable]
  | cons v rest ih => simp [areWritable, ih]

/-- **A dictionary can be written down** if its keys and values can. -/
theorem isWritable_dict_iff {entries : List (Value × Value)} :
    (dict entries).isWritable = true ↔
      ∀ e ∈ entries, e.1.isWritable = true ∧ e.2.isWritable = true := by
  rw [isWritable]
  induction entries with
  | nil => simp [haveWritable]
  | cons e rest ih => simp [haveWritable, ih, and_assoc]

end Value

/-- What a row holds under some name can be written down if the row can. -/
theorem Rows.isWritable_of_lookup {row : List (Value × Value)} {name : Text} {v : Value}
    (short : (Value.dict row).isWritable = true) (found : lookup row name = some v) :
    v.isWritable = true := by
  obtain ⟨k, mem, -⟩ := Table.mem_of_find? found
  exact (Value.isWritable_dict_iff.1 short _ mem).2

end Microclimate
