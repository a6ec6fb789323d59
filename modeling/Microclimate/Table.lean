import Microclimate.Value.Key

/-!
# Tables in order of insertion

A table holds values under keys, in the order in which the keys were first written. Writing under a
key that is there replaces the value and keeps both the place and the key as it was first written;
taking a key out and writing it again moves it to the end.

* `Microclimate.Table` – the type, with `find?`, `insert`, `erase` and `keys`;
* `Microclimate.Table.find?_insert` and `Microclimate.Table.find?_erase_of_ne` – **what a look-up
  sees after a change**.
-/

namespace Microclimate

/-- Values under keys, in order of insertion. -/
structure Table (α : Type) where
  /-- The keys as first written, with their present values. -/
  entries : List (Value × α)
  deriving Inhabited

namespace Table

variable {α : Type}

/-- The table without entries. -/
def empty : Table α := ⟨[]⟩

/-- The keys, oldest first. -/
def keys (t : Table α) : List Value := t.entries.map (·.1)

/-- The value under a key. -/
def find? (t : Table α) (key : Value) : Option α :=
  (t.entries.find? (·.1.sameKey key)).map (·.2)

/-- Writes a value under a key into a list of entries, with a given notion of being the same. -/
def put (same : Value → Value → Bool) (key : Value) (a : α) :
    List (Value × α) → List (Value × α)
  | [] => [(key, a)]
  | (k, b) :: rest => if same k key then (k, a) :: rest else (k, b) :: put same key a rest

/-- Writes a value under a key, with a given notion of two keys being the same. -/
def insertBy (same : Value → Value → Bool) (t : Table α) (key : Value) (a : α) : Table α :=
  ⟨put same key a t.entries⟩

/-- Writes a value under a key. -/
def insert (t : Table α) (key : Value) (a : α) : Table α := t.insertBy Value.sameKey key a

/-- Takes a key out, if it is there. -/
def erase (t : Table α) (key : Value) : Table α := ⟨t.entries.eraseP (·.1.sameKey key)⟩

/-- The table of some entries, a later one replacing the value of an earlier one of the same key. -/
def ofList (entries : List (Value × α)) : Table α :=
  entries.foldl (fun t e => t.insert e.1 e.2) empty

@[simp] theorem find?_empty (key : Value) : (empty : Table α).find? key = none := rfl

theorem find?_cons (k : Value) (b : α) (rest : List (Value × α)) (z : Value) :
    (⟨(k, b) :: rest⟩ : Table α).find? z =
      if k.sameKey z then some b else (⟨rest⟩ : Table α).find? z := by
  cases h : k.sameKey z <;> simp [find?, h]

/-- **A look-up after writing** sees the new value under the keys that are the same as the one
written, and what it saw before under all others. -/
theorem find?_insert (t : Table α) (key : Value) (a : α) (z : Value) :
    (t.insert key a).find? z = if key.sameKey z then some a else t.find? z := by
  obtain ⟨entries⟩ := t
  induction entries with
  | nil => cases h : key.sameKey z <;> simp [insert, insertBy, put, find?, h]
  | cons e rest ih =>
    obtain ⟨k, b⟩ := e
    cases hk : k.sameKey key with
    | true =>
      have transfer : k.sameKey z = key.sameKey z := by
        cases hz : key.sameKey z with
        | true => exact Value.sameKey_trans hk hz
        | false =>
          cases hk' : k.sameKey z with
          | true => exact absurd (Value.sameKey_trans (Value.sameKey_symm hk) hk') (by simp [hz])
          | false => rfl
      have written : (⟨(k, b) :: rest⟩ : Table α).insert key a = ⟨(k, a) :: rest⟩ := by
        simp [insert, insertBy, put, hk]
      rw [written, find?_cons, find?_cons, transfer]
      cases key.sameKey z <;> rfl
    | false =>
      have written : (⟨(k, b) :: rest⟩ : Table α).insert key a =
          ⟨(k, b) :: ((⟨rest⟩ : Table α).insert key a).entries⟩ := by
        simp [insert, insertBy, put, hk]
      rw [written, find?_cons, find?_cons]
      change (if _ then _ else ((⟨rest⟩ : Table α).insert key a).find? z) = _
      rw [ih]
      cases hz : key.sameKey z with
      | false => rfl
      | true =>
        cases hk' : k.sameKey z with
        | false => rfl
        | true =>
          exact absurd (Value.sameKey_trans hk' (Value.sameKey_symm hz)) (by simp [hk])

/-- Taking a key out leaves the values of all other keys as they were. -/
theorem find?_erase_of_ne (t : Table α) {key z : Value} (h : key.sameKey z = false) :
    (t.erase key).find? z = t.find? z := by
  obtain ⟨entries⟩ := t
  induction entries with
  | nil => rfl
  | cons e rest ih =>
    obtain ⟨k, b⟩ := e
    cases hk : k.sameKey key with
    | true =>
      have erased : (⟨(k, b) :: rest⟩ : Table α).erase key = ⟨rest⟩ := by
        simp [erase, hk]
      have apart : k.sameKey z = false := by
        cases hz : k.sameKey z with
        | false => rfl
        | true => exact absurd (Value.sameKey_trans (Value.sameKey_symm hk) hz) (by simp [h])
      rw [erased, find?_cons, apart]
      rfl
    | false =>
      have erased : (⟨(k, b) :: rest⟩ : Table α).erase key =
          ⟨(k, b) :: ((⟨rest⟩ : Table α).erase key).entries⟩ := by
        simp [erase, hk]
      rw [erased, find?_cons, find?_cons]
      change (if _ then _ else ((⟨rest⟩ : Table α).erase key).find? z) = _
      rw [ih]

end Table

end Microclimate
