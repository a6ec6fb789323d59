import Microclimate.Value

/-!
# Values as keys

Only values without parts can be keys. Two keys are the same if they are the same text, or both
nothing, or **equal as numbers**: truth values count as 0 and 1, and an integer and a double are
equal when their exact values are. What is not a number equals nothing, itself included.

* `Microclimate.Key` – what counts when two keys are compared;
* `Microclimate.Value.key?` – the key of a value, `none` for a list or a dictionary;
* `Microclimate.Value.sameKey` – do two values denote the same key?
* `Microclimate.Value.sameConstant` – the same, for values written in one file, where the constant
  that is not a number is one object and so does equal itself.
-/

namespace Microclimate

/-- What counts when two keys are compared. -/
inductive Key where
  /-- Nothing. -/
  | null
  /-- A text. -/
  | text (t : Text)
  /-- A number, by its exact value. -/
  | number (q : Rat)
  /-- One of the two infinities. -/
  | infinite (negative : Bool)
  /-- Not a number. -/
  | undefined
  deriving DecidableEq

namespace Value

/-- The key of a value; lists and dictionaries have none. -/
def key? : Value → Option Key
  | null => some .null
  | bool b => some (.number (if b then 1 else 0))
  | int n => some (.number n)
  | float x =>
    match Exact.ofFloat x with
    | .real q => some (.number q)
    | .infinite negative => some (.infinite negative)
    | .undefined => some .undefined
  | text t => some (.text t)
  | list _ => none
  | dict _ => none

/-- Can the value be a key? -/
def isKey (v : Value) : Bool := v.key?.isSome

/-- Do two values written in one file denote the same key? -/
def sameConstant (a b : Value) : Bool := a.isKey && a.key? = b.key?

/-- Do two values denote the same key? -/
def sameKey (a b : Value) : Bool := a.sameConstant b && a.key? ≠ some .undefined

theorem sameKey_iff {a b : Value} :
    a.sameKey b = true ↔ a.isKey = true ∧ a.key? = b.key? ∧ a.key? ≠ some .undefined := by
  simp [sameKey, sameConstant, and_assoc]

theorem sameKey_symm {a b : Value} (h : a.sameKey b = true) : b.sameKey a = true := by
  rw [sameKey_iff] at h ⊢
  obtain ⟨key, same, defined⟩ := h
  exact ⟨by simpa [isKey, ← same] using key, same.symm, same ▸ defined⟩

theorem sameKey_trans {a b c : Value} (h : a.sameKey b = true) (h' : b.sameKey c = true) :
    a.sameKey c = true := by
  rw [sameKey_iff] at h h' ⊢
  exact ⟨h.1, h.2.1.trans h'.2.1, h.2.2⟩

/-- A key other than the one that is not a number is the same as itself. -/
theorem sameKey_self {a : Value} (key : a.isKey = true) (defined : a.key? ≠ some .undefined) :
    a.sameKey a = true :=
  sameKey_iff.2 ⟨key, rfl, defined⟩

/-- Only a text is the same key as a text. -/
theorem sameKey_text {a : Value} {t : Text} : a.sameKey (.text t) = true ↔ a = .text t := by
  rw [sameKey_iff]
  cases a with
  | float x =>
    simp only [isKey, key?]
    split <;> simp
  | _ => simp [isKey, key?]

end Value

end Microclimate
