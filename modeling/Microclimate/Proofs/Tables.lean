import Microclimate.Table

/-!
# Tables with different keys

A table is only ever written through `Microclimate.Table.insert` and `Microclimate.Table.erase`, and
so no two of its entries have the same key. That is what lets entries and look-ups be exchanged: an
entry is found under its key, and what is not found any more is the one entry that was taken out.

* `Microclimate.Table.Distinct` – no two entries have the same key, kept by both ways of writing;
* `Microclimate.Table.Distinct.find?_eq_some` – **a look-up finds the entries**;
* `Microclimate.Table.Distinct.find?_of_lost_erase`, `Microclimate.Table.Distinct.erase_entry` –
  what is lost by taking a key out is the entry of that key.
-/

namespace Microclimate

namespace Table

variable {α : Type}

/-- No two entries have the same key. -/
def Distinct (t : Table α) : Prop := t.entries.Pairwise fun e f => e.1.sameKey f.1 = false

/-- The values, in the order of their keys. -/
def values (t : Table α) : List α := t.entries.map (·.2)

theorem distinct_empty : (empty : Table α).Distinct := .nil

theorem sameKey_comm (a b : Value) : a.sameKey b = b.sameKey a := by
  rw [Bool.eq_iff_iff]
  exact ⟨Value.sameKey_symm, Value.sameKey_symm⟩

/-- Keys that are the same are the same as the same keys. -/
theorem sameKey_congr {a b : Value} (h : a.sameKey b = true) (z : Value) :
    a.sameKey z = b.sameKey z := by
  rw [Bool.eq_iff_iff]
  exact ⟨Value.sameKey_trans (Value.sameKey_symm h), Value.sameKey_trans h⟩

/-- A key that is the same as some key is the same as itself. -/
theorem sameKey_refl_of {a b : Value} (h : a.sameKey b = true) : b.sameKey b = true :=
  Value.sameKey_trans (Value.sameKey_symm h) h

/-- Looking up keys that are the same finds the same. -/
theorem find?_congr (t : Table α) {y z : Value} (h : y.sameKey z = true) :
    t.find? y = t.find? z := by
  have same (e : Value × α) : e.1.sameKey y = e.1.sameKey z := by
    rw [sameKey_comm, sameKey_comm e.1, sameKey_congr h]
  simp only [find?, same]

theorem mem_of_find? {t : Table α} {z : Value} {a : α} (h : t.find? z = some a) :
    ∃ k, (k, a) ∈ t.entries ∧ k.sameKey z = true := by
  obtain ⟨⟨k, b⟩, found, rfl⟩ := Option.map_eq_some_iff.1 h
  exact ⟨k, List.mem_of_find?_eq_some found, by simpa using List.find?_some found⟩

/-- What is found under a key can only be found under a key that is the same as itself. -/
theorem sameKey_self_of_find? {t : Table α} {z : Value} {a : α} (h : t.find? z = some a) :
    z.sameKey z = true := by
  obtain ⟨k, -, same⟩ := mem_of_find? h
  exact sameKey_refl_of same

theorem Distinct.find?_of_mem {t : Table α} (h : t.Distinct) {k z : Value} {a : α}
    (mem : (k, a) ∈ t.entries) (same : k.sameKey z = true) : t.find? z = some a := by
  obtain ⟨before, after, split⟩ := List.append_of_mem mem
  have apart : ∀ e ∈ before, e.1.sameKey z = false := by
    intro e he
    rw [Distinct, split, List.pairwise_append] at h
    rw [sameKey_comm, ← sameKey_congr same, sameKey_comm]
    exact h.2.2 e he (k, a) (by simp)
  have skipped : before.find? (·.1.sameKey z) = none := by simpa using apart
  simp [find?, split, List.find?_append, skipped, same]

/-- **A look-up finds the entries** of a table with different keys. -/
theorem Distinct.find?_eq_some {t : Table α} (h : t.Distinct) {z : Value} {a : α} :
    t.find? z = some a ↔ ∃ k, (k, a) ∈ t.entries ∧ k.sameKey z = true :=
  ⟨mem_of_find?, fun ⟨_, mem, same⟩ => h.find?_of_mem mem same⟩

/-! ### Writing -/

/-- Writing adds one entry at the end, or replaces the value of one. -/
theorem put_eq (z : Value) (a : α) (l : List (Value × α)) :
    (∀ e ∈ l, e.1.sameKey z = false) ∧ put Value.sameKey z a l = l ++ [(z, a)] ∨
      ∃ before k b after, l = before ++ (k, b) :: after ∧ k.sameKey z = true ∧
        put Value.sameKey z a l = before ++ (k, a) :: after := by
  induction l with
  | nil => exact .inl ⟨by simp, rfl⟩
  | cons e rest ih =>
    obtain ⟨k, b⟩ := e
    cases same : k.sameKey z with
    | true => exact .inr ⟨[], k, b, rest, rfl, same, by simp [put, same]⟩
    | false =>
      rcases ih with ⟨apart, written⟩ | ⟨before, k', b', after, split, same', written⟩
      · exact .inl ⟨by simpa [same] using apart, by simp [put, same, written]⟩
      · exact .inr ⟨(k, b) :: before, k', b', after, by simp [split], same',
          by simp [put, same, written]⟩

theorem Distinct.insert {t : Table α} (h : t.Distinct) (z : Value) (a : α) :
    (t.insert z a).Distinct := by
  obtain ⟨entries⟩ := t
  simp only [Distinct, Table.insert, insertBy] at h ⊢
  rcases put_eq z a entries with ⟨apart, written⟩ | ⟨before, k, b, after, rfl, -, written⟩
  · rw [written, List.pairwise_append]
    exact ⟨h, by simp, by simpa using apart⟩
  · rw [written]
    simpa [List.pairwise_append] using h

theorem Distinct.erase {t : Table α} (h : t.Distinct) (z : Value) : (t.erase z).Distinct :=
  List.Pairwise.sublist List.eraseP_sublist h

/-- An entry after writing was there before, or it is the one that was written. -/
theorem mem_insert {t : Table α} {z : Value} {a : α} {e : Value × α}
    (h : e ∈ (t.insert z a).entries) :
    e ∈ t.entries ∨ (z.sameKey z = true → e.1.sameKey z = true) ∧ e.2 = a := by
  obtain ⟨entries⟩ := t
  simp only [Table.insert, insertBy] at h ⊢
  rcases put_eq z a entries with ⟨-, written⟩ | ⟨before, k, b, after, rfl, same, written⟩
  · rw [written] at h
    rcases List.mem_append.1 h with old | new
    · exact .inl old
    · obtain rfl := List.mem_singleton.1 new
      exact .inr ⟨id, rfl⟩
  · rw [written] at h
    rcases List.mem_append.1 h with old | new
    · exact .inl (by simp [old])
    · rcases List.mem_cons.1 new with rfl | old
      · exact .inr ⟨fun _ => same, rfl⟩
      · exact .inl (by simp [old])

/-- Writing a new value keeps values different. -/
theorem nodup_values_insert {t : Table α} (h : t.values.Nodup) (z : Value) {a : α}
    (new : a ∉ t.values) : (t.insert z a).values.Nodup := by
  obtain ⟨entries⟩ := t
  simp only [values, Table.insert, insertBy] at h new ⊢
  rcases put_eq z a entries with ⟨-, written⟩ | ⟨before, k, b, after, rfl, -, written⟩
  · rw [written, List.map_append, List.nodup_append]
    refine ⟨h, by simp, ?_⟩
    rintro b hb c hc rfl
    obtain rfl : b = a := by simpa using hc
    exact new hb
  · rw [written]
    simp only [List.map_append, List.map_cons, List.nodup_append, List.nodup_cons, List.mem_append,
      List.mem_cons, not_or] at h new ⊢
    refine ⟨h.1, ⟨new.2.2, h.2.1.2⟩, ?_⟩
    rintro b hb c (rfl | hc)
    · rintro rfl
      exact new.1 hb
    · exact h.2.2 b hb c (.inr hc)

theorem nodup_values_erase {t : Table α} (h : t.values.Nodup) (z : Value) :
    (t.erase z).values.Nodup :=
  h.sublist (List.eraseP_sublist.map _)

theorem mem_of_mem_erase {t : Table α} {z : Value} {e : Value × α} (h : e ∈ (t.erase z).entries) :
    e ∈ t.entries :=
  List.eraseP_sublist.mem h

/-- The written value can be found among the values. -/
theorem mem_values_insert (t : Table α) (z : Value) (a : α) : a ∈ (t.insert z a).values := by
  obtain ⟨entries⟩ := t
  simp only [values, Table.insert, insertBy]
  rcases put_eq z a entries with ⟨-, written⟩ | ⟨before, k, b, after, -, -, written⟩
  · simp [written]
  · simp [written]

/-! ### Taking a key out -/

/-- A value that is lost when a key is taken out was under that key. -/
theorem Distinct.find?_of_lost_erase {t : Table α} (h : t.Distinct) {z : Value} {b : α}
    (there : b ∈ t.values) (lost : b ∉ (t.erase z).values) : t.find? z = some b := by
  obtain ⟨⟨k, b⟩, mem, rfl⟩ := List.mem_map.1 there
  by_cases same : k.sameKey z = true
  · exact h.find?_of_mem mem same
  · have kept : (k, b) ∈ (t.erase z).entries := (List.mem_eraseP_of_neg (by simpa using same)).2 mem
    exact absurd (List.mem_map_of_mem kept) lost

/-- Taking out the key of an entry takes out that entry. -/
theorem Distinct.erase_entry {before after : List (Value × α)} {k z : Value} {a : α}
    (h : (⟨before ++ (k, a) :: after⟩ : Table α).Distinct) (same : k.sameKey z = true) :
    (⟨before ++ (k, a) :: after⟩ : Table α).erase z = ⟨before ++ after⟩ := by
  have apart : ∀ e ∈ before, ¬e.1.sameKey z = true := by
    intro e he
    rw [Distinct, List.pairwise_append] at h
    rw [sameKey_comm, ← sameKey_congr same, sameKey_comm]
    simp [h.2.2 e he (k, a) (by simp)]
  rw [Table.erase, List.eraseP_append_right _ apart, List.eraseP_cons_of_pos (by exact same)]

end Table

end Microclimate
