import Mathlib
import Microclimate.Exact
import Microclimate.Proofs.Unsigned

/-!
# Comparing doubles

The doubles that are numbers lie on a line: at one end the infinity with a sign, at the other end
the one without, and between them the finite doubles by their exact values. Comparing two doubles
compares their **places** on that line, and what is not a number has none.

The comparison of the logical model goes by exponent first and by mantissa then. That this is the
order of the values rests on the doubles being written in one way only: below the least exponent
there is none, and above it the mantissa has all of its bits.

* `Microclimate.IsNumber`, `Microclimate.place` – the numbers and their places;
* `Microclimate.lt_iff_place`, `Microclimate.le_iff_place`, `Microclimate.beq_iff_place` –
  **comparisons order the numbers totally**;
* `Microclimate.IsFinite.lt_iff`, `Microclimate.IsFinite.le_iff`, `Microclimate.IsFinite.beq_iff` –
  the same for finite doubles, by their values;
* `Microclimate.Canonical` – how the mantissa and the exponent of a double are written.
-/

namespace Microclimate

open Float.Model Float.Model.UnpackedFloat

/-! ### Numbers and their places -/

/-- The line of all numbers, from minus infinity to infinity. -/
abbrev Line : Type := WithBot (WithTop ℚ)

/-- The place of a number on the line; what is not a number is put at the lower end. -/
def Exact.place : Exact → Line
  | .real q => ((q : WithTop ℚ) : Line)
  | .infinite false => ((⊤ : WithTop ℚ) : Line)
  | .infinite true | .undefined => ⊥

/-- The place of a double on the line. -/
def place (x : Float) : Line := (Exact.ofFloat x).place

/-- A double that is a number, or one of the two infinities. -/
def IsNumber (x : Float) : Prop := Exact.ofFloat x ≠ .undefined

/-- A double with an exact value. -/
def IsFinite (x : Float) : Prop := ∃ q, Exact.ofFloat x = .real q

/-- The exact value of a double that has one. -/
def value (x : Float) : ℚ :=
  match Exact.ofFloat x with
  | .real q => q
  | _ => 0

instance : DecidablePred IsNumber := fun _ => inferInstanceAs (Decidable (¬_))

theorem IsFinite.ofFloat {x : Float} (h : IsFinite x) : Exact.ofFloat x = .real (value x) := by
  obtain ⟨q, exact⟩ := h
  rw [value, exact]

theorem IsFinite.isNumber {x : Float} (h : IsFinite x) : IsNumber x := by
  rw [IsNumber, h.ofFloat]
  exact Exact.noConfusion

theorem IsFinite.place_eq {x : Float} (h : IsFinite x) :
    place x = ((value x : WithTop ℚ) : Line) := by
  rw [place, h.ofFloat, Exact.place]

/-! ### Written in one way -/

/-- The mantissa and the exponent of an unpacked double are written as a double writes them: the
exponent is not below the least one, and above the least one the mantissa has all of its 53 bits. -/
def Canonical : UnpackedFloat → Prop
  | .finite _ m e _ => m < 2 ^ 53 ∧ -1074 ≤ e ∧ (e = -1074 ∨ 2 ^ 52 ≤ m)
  | _ => True

theorem Reads.canonical {b : Bits} {f : UnpackedFloat} (h : Reads b f) : Canonical f := by
  cases f with
  | finite s m e hm =>
    have bound : (unpackMantissa b).toNat < 2 ^ 52 := (unpackMantissa b).isLt
    rcases h with ⟨-, rfl, rfl⟩ | ⟨pos, rfl, rfl⟩
    · exact ⟨by omega, by omega, .inl rfl⟩
    · exact ⟨by omega, by omega, .inr (by omega)⟩
  | notANumber => trivial
  | infinity s => trivial
  | zero s => trivial

theorem canonical_unpack (x : Float) : Canonical x.toModel.unpack := (reads_unpack _).canonical

/-- What an unpacked double stands for. -/
def Exact.ofUnpacked : UnpackedFloat → Exact
  | .notANumber => .undefined
  | .infinity sign => .infinite (sign == .negative)
  | .zero _ => .real 0
  | .finite sign m e _ => .real ((sign.apply m : Int) * (2 : ℚ) ^ e)

theorem Exact.ofFloat_eq (x : Float) : ofFloat x = ofUnpacked x.toModel.unpack := by
  rw [ofFloat]
  cases x.toModel.unpack <;> rfl

/-- The value of a double of great exponent is above that of one of small exponent. -/
theorem scaled_lt_of_exponent_lt {m n : Nat} {d e : Int} (small : m < 2 ^ 53) (large : 2 ^ 52 ≤ n)
    (h : d < e) : (m : ℚ) * 2 ^ d < n * 2 ^ e := by
  have power : (2 : ℚ) * 2 ^ d ≤ 2 ^ e := by
    rw [← zpow_one_add₀ two_ne_zero]
    exact zpow_le_zpow_right₀ one_le_two (by omega)
  have pos : (0 : ℚ) < 2 ^ d := zpow_pos two_pos d
  have m' : (m : ℚ) < 2 ^ 53 := by exact_mod_cast small
  have n' : (2 : ℚ) ^ 52 ≤ n := by exact_mod_cast large
  calc (m : ℚ) * 2 ^ d < 2 ^ 53 * 2 ^ d := by gcongr
    _ = 2 ^ 52 * (2 * 2 ^ d) := by ring
    _ ≤ n * 2 ^ e := by gcongr

/-- Comparing by exponent first and by mantissa then compares values. -/
theorem compares_scaled {m n : Nat} {d e : Int} (hm : m < 2 ^ 53) (hn : n < 2 ^ 53)
    (hd : -1074 ≤ d ∧ (d = -1074 ∨ 2 ^ 52 ≤ m)) (he : -1074 ≤ e ∧ (e = -1074 ∨ 2 ^ 52 ≤ n)) :
    ((compare d e).then (compare m n)).Compares ((m : ℚ) * 2 ^ d) (n * 2 ^ e) := by
  rcases lt_trichotomy d e with h | rfl | h
  · rw [compare_lt_iff_lt.2 h]
    exact scaled_lt_of_exponent_lt hm (by omega) h
  · rw [compare_eq_iff_eq.2 rfl]
    have pos : (0 : ℚ) < 2 ^ d := zpow_pos two_pos d
    rcases lt_trichotomy m n with h | rfl | h
    · rw [compare_lt_iff_lt.2 h]
      have : (m : ℚ) < n := by exact_mod_cast h
      exact mul_lt_mul_of_pos_right this pos
    · rw [compare_eq_iff_eq.2 rfl]
      exact rfl
    · rw [compare_gt_iff_gt.2 h]
      have : (n : ℚ) < m := by exact_mod_cast h
      exact mul_lt_mul_of_pos_right this pos
  · rw [compare_gt_iff_gt.2 h]
    exact scaled_lt_of_exponent_lt hn (by omega) h


/-- The two ends of the line, and a number between them. -/
theorem bot_lt_real (q : ℚ) : (⊥ : Line) < (Exact.real q).place := WithBot.bot_lt_coe _

theorem real_lt_top (q : ℚ) : (Exact.real q).place < ((⊤ : WithTop ℚ) : Line) :=
  WithBot.coe_lt_coe.2 (WithTop.coe_lt_top q)

theorem compares_real {o : Ordering} {p q : ℚ} (h : o.Compares p q) :
    o.Compares (Exact.real p).place (Exact.real q).place := by
  cases o <;> simpa [Ordering.Compares, Exact.place] using h

/-- Finite doubles compare as their values do. -/
theorem compares_finite {s t : Sign} {m n : Nat} {d e : Int} {hm : 0 < m} {hn : 0 < n}
    (hf : Canonical (.finite s m d hm)) (hg : Canonical (.finite t n e hn)) :
    ∃ o, (UnpackedFloat.finite s m d hm).compare (.finite t n e hn) = some o ∧
      o.Compares ((s.apply m : Int) * 2 ^ d : ℚ) ((t.apply n : Int) * 2 ^ e) := by
  have sizes := compares_scaled hf.1 hg.1 hf.2 hg.2
  have pos : (0 : ℚ) < m * 2 ^ d := by positivity
  have pos' : (0 : ℚ) < n * 2 ^ e := by positivity
  cases s <;> cases t <;> refine ⟨_, rfl, ?_⟩ <;> simp only [Sign.apply] <;> push_cast
  · generalize ((compare d e).then (compare m n)) = o at sizes
    cases o <;> simp only [Ordering.swap, Ordering.Compares] at sizes ⊢ <;> linarith
  · change -(m : ℚ) * 2 ^ d < n * 2 ^ e
    linarith
  · change -(n : ℚ) * 2 ^ e < m * 2 ^ d
    linarith
  · exact sizes

/-- **Two numbers compare as their places do.** -/
theorem compare_compares {f g : UnpackedFloat} (hf : Canonical f) (hg : Canonical g)
    (nf : f ≠ .notANumber) (ng : g ≠ .notANumber) :
    ∃ o, f.compare g = some o ∧
      o.Compares (Exact.ofUnpacked f).place (Exact.ofUnpacked g).place := by
  have ends : (⊥ : Line) < ((⊤ : WithTop ℚ) : Line) := WithBot.bot_lt_coe _
  cases f with
  | notANumber => exact absurd rfl nf
  | infinity s =>
    cases g with
    | notANumber => exact absurd rfl ng
    | infinity t => cases s <;> cases t <;> first | exact ⟨_, rfl, rfl⟩ | exact ⟨_, rfl, ends⟩
    | zero t => cases s; exacts [⟨_, rfl, bot_lt_real _⟩, ⟨_, rfl, real_lt_top _⟩]
    | finite t => cases s; exacts [⟨_, rfl, bot_lt_real _⟩, ⟨_, rfl, real_lt_top _⟩]
  | zero s =>
    cases g with
    | notANumber => exact absurd rfl ng
    | infinity t => cases t; exacts [⟨_, rfl, bot_lt_real _⟩, ⟨_, rfl, real_lt_top _⟩]
    | zero t => exact ⟨_, rfl, rfl⟩
    | finite t n e hn =>
      have pos : (0 : ℚ) < n * 2 ^ e := by positivity
      cases t <;> exact ⟨_, rfl, compares_real (by simpa [Ordering.Compares, Sign.apply] using pos)⟩
  | finite s m d hm =>
    cases g with
    | notANumber => exact absurd rfl ng
    | infinity t => cases t; exacts [⟨_, rfl, bot_lt_real _⟩, ⟨_, rfl, real_lt_top _⟩]
    | zero t =>
      have pos : (0 : ℚ) < m * 2 ^ d := by positivity
      cases s <;> exact ⟨_, rfl, compares_real (by simpa [Ordering.Compares, Sign.apply] using pos)⟩
    | finite t n e hn =>
      obtain ⟨o, same, compares⟩ := compares_finite hf hg
      exact ⟨o, same, compares_real compares⟩

/-! ### Comparing doubles -/

theorem compare_notANumber (f : UnpackedFloat) : f.compare .notANumber = none := by
  cases f with
  | infinity s | finite s => cases s <;> rfl
  | notANumber | zero => rfl

theorem isNumber_iff {x : Float} : IsNumber x ↔ x.toModel.unpack ≠ .notANumber := by
  rw [IsNumber, Exact.ofFloat_eq]
  cases x.toModel.unpack <;> simp [Exact.ofUnpacked]

theorem place_eq (x : Float) : place x = (Exact.ofUnpacked x.toModel.unpack).place := by
  rw [place, Exact.ofFloat_eq]

section Numbers

variable {x y : Float}

/-- The outcome of a comparison, which only numbers have. -/
theorem compares_place (hx : IsNumber x) (hy : IsNumber y) :
    ∃ o, x.toModel.unpack.compare y.toModel.unpack = some o ∧ o.Compares (place x) (place y) := by
  rw [place_eq, place_eq]
  exact compare_compares (canonical_unpack x) (canonical_unpack y) (isNumber_iff.1 hx)
    (isNumber_iff.1 hy)

theorem isNumber_of_compare {o : Ordering}
    (h : x.toModel.unpack.compare y.toModel.unpack = some o) : IsNumber x ∧ IsNumber y := by
  rw [isNumber_iff, isNumber_iff]
  constructor
  · intro undefined
    rw [undefined] at h
    exact nomatch h
  · intro undefined
    rw [undefined, compare_notANumber] at h
    exact nomatch h

theorem lt_def : x < y ↔ x.toModel.unpack.compare y.toModel.unpack = some .lt := by
  change decide ((_ == _) = true) = true ↔ _
  rw [decide_eq_true_iff, beq_iff_eq]

theorem le_def :
    x ≤ y ↔ ∃ o, x.toModel.unpack.compare y.toModel.unpack = some o ∧ o.isLE = true := by
  change decide ((x.toModel.unpack.compare y.toModel.unpack).any (·.isLE) = true) = true ↔ _
  rw [decide_eq_true_iff, Option.any_eq_true]

theorem beq_def : (x == y) = true ↔ x.toModel.unpack.compare y.toModel.unpack = some .eq := by
  change (x.toModel.unpack.compare y.toModel.unpack == some .eq) = true ↔ _
  rw [beq_iff_eq]

theorem isNumber_of_lt (h : x < y) : IsNumber x ∧ IsNumber y := isNumber_of_compare (lt_def.1 h)

theorem isNumber_of_le (h : x ≤ y) : IsNumber x ∧ IsNumber y := by
  obtain ⟨o, compares, -⟩ := le_def.1 h
  exact isNumber_of_compare compares

variable (hx : IsNumber x) (hy : IsNumber y)
include hx hy

/-- **A number is below another one** if its place is. -/
theorem lt_iff_place : x < y ↔ place x < place y := by
  obtain ⟨o, same, compares⟩ := compares_place hx hy
  rw [lt_def, same, Option.some_inj]
  exact compares.eq_lt

/-- Two numbers are equal if they have the same place. -/
theorem beq_iff_place : (x == y) = true ↔ place x = place y := by
  obtain ⟨o, same, compares⟩ := compares_place hx hy
  rw [beq_def, same, Option.some_inj]
  exact compares.eq_eq

theorem le_iff_place : x ≤ y ↔ place x ≤ place y := by
  obtain ⟨o, same, compares⟩ := compares_place hx hy
  rw [le_def, same]
  cases o with
  | lt => simpa using le_of_lt compares
  | eq => simpa using le_of_eq compares
  | gt => simpa using (show place y < place x from compares)

end Numbers

/-! ### Orders and places -/

section Orders

variable {x y z : Float}

theorem place_lt_place (h : x < y) : place x < place y :=
  (lt_iff_place (isNumber_of_lt h).1 (isNumber_of_lt h).2).1 h

theorem place_le_place (h : x ≤ y) : place x ≤ place y :=
  (le_iff_place (isNumber_of_le h).1 (isNumber_of_le h).2).1 h

theorem float_lt_trans (h : x < y) (h' : y < z) : x < z :=
  (lt_iff_place (isNumber_of_lt h).1 (isNumber_of_lt h').2).2
    ((place_lt_place h).trans (place_lt_place h'))

/-- Of two numbers one is not less than the other one. -/
theorem IsNumber.not_lt_iff_le (hx : IsNumber x) (hy : IsNumber y) : ¬x < y ↔ y ≤ x := by
  rw [lt_iff_place hx hy, le_iff_place hy hx, not_lt]

theorem float_not_le_of_lt (h : x < y) : ¬y ≤ x := fun le =>
  ((isNumber_of_lt h).1.not_lt_iff_le (isNumber_of_lt h).2).2 le h

end Orders

/-! ### Finite doubles -/

section Finite

variable {x y : Float} (hx : IsFinite x) (hy : IsFinite y)
include hx hy

theorem IsFinite.lt_iff : x < y ↔ value x < value y := by
  rw [lt_iff_place hx.isNumber hy.isNumber, hx.place_eq, hy.place_eq]
  exact WithBot.coe_lt_coe.trans WithTop.coe_lt_coe

theorem IsFinite.le_iff : x ≤ y ↔ value x ≤ value y := by
  rw [le_iff_place hx.isNumber hy.isNumber, hx.place_eq, hy.place_eq]
  exact WithBot.coe_le_coe.trans WithTop.coe_le_coe

theorem IsFinite.beq_iff : (x == y) = true ↔ value x = value y := by
  rw [beq_iff_place hx.isNumber hy.isNumber, hx.place_eq, hy.place_eq]
  exact WithBot.coe_inj.trans WithTop.coe_inj

end Finite

/-- A number between two finite doubles is finite. -/
theorem isFinite_of_between {x y z : Float} (hx : IsFinite x) (hz : IsFinite z) (low : x ≤ y)
    (high : y ≤ z) : IsFinite y := by
  have number := (isNumber_of_le low).2
  rw [le_iff_place hx.isNumber number, hx.place_eq, place] at low
  rw [le_iff_place number hz.isNumber, hz.place_eq, place] at high
  rw [IsFinite]
  cases hy : Exact.ofFloat y with
  | real q => exact ⟨q, rfl⟩
  | undefined => exact absurd hy number
  | infinite negative =>
    rw [hy] at low high
    cases negative with
    | true => exact absurd low (not_le.2 (bot_lt_real _))
    | false => exact absurd high (not_le.2 (real_lt_top _))

end Microclimate
