import Mathlib
import Microclimate.Proofs.Tables

/-!
# Tables that are filled

A table is filled by writing entries into it, one after the other. A key may come up more than once,
in one spelling or in several, and then an entry in the table is the work of two: **the first one
gives the key and its place, and the last one gives the value.** So it takes two descriptions to say
what a filled table is, one of its keys and one of its look-ups; and where no key fails to be the
same as itself these say everything, since a table with different keys is made out by the two of
them.

* `Microclimate.Table.insertAll`, `Microclimate.Table.update` – a table is filled, from a list or
  from another table;
* `Microclimate.Table.find?_insertAll`, `Microclimate.Table.find?_ofList_eq_some` – **the last entry
  counts**;
* `Microclimate.Table.keys_insertAll`, `Microclimate.Table.keys_ofList` – **the first entry gives
  the key and its place**;
* `Microclimate.Table.Distinct.ext` – a table with different keys is made out by its keys and
  look-ups;
* `Microclimate.Table.Distinct.ofList_entries` – entries with different keys are all kept;
* `Microclimate.Table.ofList_append` – **a list may be written in two portions.**
-/

namespace Microclimate

/-- The first of the values that are the same key, for each key, in order. -/
def Value.firsts : List Value → List Value
  | [] => []
  | z :: rest => z :: (firsts rest).filter fun y => !z.sameKey y

theorem Value.firsts_subset (l : List Value) : firsts l ⊆ l := by
  induction l with
  | nil => exact List.Subset.refl _
  | cons z rest ih =>
    refine List.cons_subset_cons z fun y mem => ih (List.mem_of_mem_filter mem)

namespace Table

variable {α : Type}

/-- A table with some entries written into it, one after the other. -/
def insertAll (t : Table α) (es : List (Value × α)) : Table α :=
  es.foldl (fun t e => t.insert e.1 e.2) t

/-- A table with the entries of another one written into it. -/
def update (t u : Table α) : Table α := t.insertAll u.entries

theorem insertAll_cons (t : Table α) (e : Value × α) (es : List (Value × α)) :
    t.insertAll (e :: es) = (t.insert e.1 e.2).insertAll es := rfl

theorem insertAll_append (t : Table α) (es fs : List (Value × α)) :
    t.insertAll (es ++ fs) = (t.insertAll es).insertAll fs := List.foldl_append

/-! ### The last entry counts -/

/-- **A look-up after filling** sees the last entry of the key, and what was there before if there
is none. -/
theorem find?_insertAll (t : Table α) (es : List (Value × α)) (z : Value) :
    (t.insertAll es).find? z = ((es.reverse.find? (·.1.sameKey z)).map (·.2)).or (t.find? z) := by
  induction es generalizing t with
  | nil => rfl
  | cons e rest ih =>
    rw [insertAll_cons, ih, find?_insert, List.reverse_cons, List.find?_append, Option.map_or,
      Option.or_assoc]
    congr 1
    cases same : e.1.sameKey z <;> simp [same]

/-- **The last entry of a key counts** in the table of a list. -/
theorem find?_ofList_eq_some {es : List (Value × α)} {z : Value} {a : α} :
    (ofList es).find? z = some a ↔ ∃ before k after, es = before ++ (k, a) :: after ∧
      k.sameKey z = true ∧ ∀ e ∈ after, e.1.sameKey z = false := by
  rw [show ofList es = empty.insertAll es from rfl, find?_insertAll, find?_empty, Option.or_none,
    Option.map_eq_some_iff]
  constructor
  · rintro ⟨⟨k, a⟩, found, rfl⟩
    obtain ⟨same, later, earlier, split, apart⟩ := List.find?_eq_some_iff_append.1 found
    refine ⟨earlier.reverse, k, later.reverse, ?_, same, ?_⟩
    · simpa using congrArg List.reverse split
    · simpa using apart
  · rintro ⟨before, k, after, rfl, same, apart⟩
    refine ⟨(k, a), List.find?_eq_some_iff_append.2 ⟨same, after.reverse, before.reverse, ?_, ?_⟩,
      rfl⟩
    · simp
    · simpa using apart

theorem find?_ofList_eq_none {es : List (Value × α)} {z : Value} :
    (ofList es).find? z = none ↔ ∀ e ∈ es, e.1.sameKey z = false := by
  rw [show ofList es = empty.insertAll es from rfl, find?_insertAll]
  simp

/-- Filling from a list is seen as filling from its table. -/
theorem find?_insertAll_ofList (t : Table α) (es : List (Value × α)) (z : Value) :
    (t.insertAll es).find? z = ((ofList es).find? z).or (t.find? z) := by
  rw [show ofList es = empty.insertAll es from rfl, find?_insertAll, find?_insertAll, find?_empty,
    Option.or_none]

/-! ### The first entry gives the key and its place -/

/-- A key that is written comes at the end, unless it can be found already. -/
theorem keys_insert (t : Table α) (z : Value) (a : α) :
    (t.insert z a).keys = t.keys ++ [z].filter fun y => (t.find? y).isNone := by
  obtain ⟨entries⟩ := t
  simp only [keys, Table.insert, insertBy]
  rcases put_eq z a entries with ⟨apart, written⟩ | ⟨before, k, b, after, rfl, same, written⟩
  · have absent : (⟨entries⟩ : Table α).find? z = none := by simpa [find?] using apart
    simp [written, absent]
  · have present : (⟨before ++ (k, b) :: after⟩ : Table α).find? z ≠ none := by
      simp [find?, same]
    simp [written, present]

/-- **Filling a table adds the keys that cannot be found in it**, each where and as it comes up
first. -/
theorem keys_insertAll (t : Table α) (es : List (Value × α)) :
    (t.insertAll es).keys =
      t.keys ++ (Value.firsts (es.map (·.1))).filter fun z => (t.find? z).isNone := by
  induction es generalizing t with
  | nil => simp [insertAll, Value.firsts]
  | cons e rest ih =>
    -- the keys that the later entries add are those that are neither in the table nor `e.1`
    have seen (y : Value) : ((t.insert e.1 e.2).find? y).isNone =
        ((t.find? y).isNone && !e.1.sameKey y) := by
      rw [find?_insert]
      cases e.1.sameKey y <;> simp
    rw [insertAll_cons, ih, keys_insert, List.append_assoc, List.map_cons, Value.firsts]
    refine congrArg (t.keys ++ ·) (Eq.trans ?_ (List.filter_append [e.1] _).symm)
    rw [List.filter_filter]
    simp only [seen]

theorem keys_ofList (es : List (Value × α)) : (ofList es).keys = Value.firsts (es.map (·.1)) := by
  rw [show ofList es = empty.insertAll es from rfl, keys_insertAll]
  simp [empty, keys, find?]

/-! ### Tables with different keys -/

theorem Distinct.insertAll {t : Table α} (h : t.Distinct) (es : List (Value × α)) :
    (t.insertAll es).Distinct := by
  induction es generalizing t with
  | nil => exact h
  | cons e rest ih => exact ih (h.insert e.1 e.2)

theorem distinct_ofList (es : List (Value × α)) : (ofList es).Distinct :=
  Distinct.insertAll distinct_empty es

/-- Entries with keys that are not in the table are added at its end, if no two of them are the
same. -/
theorem insertAll_of_distinct {l es : List (Value × α)} (h : (⟨l ++ es⟩ : Table α).Distinct) :
    (⟨l⟩ : Table α).insertAll es = ⟨l ++ es⟩ := by
  induction es generalizing l with
  | nil => rw [List.append_nil, insertAll, List.foldl_nil]
  | cons e rest ih =>
    have apart : ∀ f ∈ l, f.1.sameKey e.1 = false := fun f mem =>
      (List.pairwise_append.1 h).2.2 f mem e List.mem_cons_self
    have added : (⟨l⟩ : Table α).insert e.1 e.2 = ⟨l ++ [e]⟩ := by
      rcases put_eq e.1 e.2 l with ⟨-, written⟩ | ⟨before, k, b, after, rfl, same, -⟩
      · exact congrArg Table.mk written
      · rw [apart (k, b) (by simp)] at same
        cases same
    rw [List.append_cons] at h ⊢
    rw [insertAll_cons, added, ih h]

/-- **Entries with different keys are all kept**, in their order. -/
theorem Distinct.ofList_entries {t : Table α} (h : t.Distinct) : ofList t.entries = t :=
  insertAll_of_distinct (l := []) h

/-- A key in front of others is not found among them. -/
theorem Distinct.find?_tail {e : Value × α} {l : List (Value × α)}
    (h : (⟨e :: l⟩ : Table α).Distinct) {z : Value} (same : e.1.sameKey z = true) :
    (⟨l⟩ : Table α).find? z = none := by
  have apart : ∀ f ∈ l, f.1.sameKey z = false := by
    intro f mem
    rw [sameKey_comm, ← sameKey_congr same]
    exact (List.pairwise_cons.1 h).1 f mem
  simpa [find?] using apart

/-- **A table with different keys is made out** by its keys and by what is found under them, if each
key is the same as itself. -/
theorem Distinct.ext {t u : Table α} (ht : t.Distinct) (hu : u.Distinct)
    (self : ∀ k ∈ t.keys, k.sameKey k = true) (keys : t.keys = u.keys)
    (found : ∀ z, t.find? z = u.find? z) : t = u := by
  obtain ⟨l⟩ := t
  obtain ⟨m⟩ := u
  refine congrArg Table.mk ?_
  -- over both lists at once: without its first key a table still has different keys
  induction l generalizing m with
  | nil =>
    cases m with
    | nil => rfl
    | cons => cases keys
  | cons e rest ih =>
    cases m with
    | nil => cases keys
    | cons f others =>
      obtain ⟨k, a⟩ := e
      obtain ⟨k', b⟩ := f
      obtain ⟨rfl, tails⟩ := List.cons.inj keys
      obtain ⟨selfFirst, selfRest⟩ := List.forall_mem_cons.1 self
      have value : a = b := by
        have first := found k
        rw [find?_cons, find?_cons, if_pos selfFirst, if_pos selfFirst] at first
        exact Option.some.inj first
      have later (z : Value) : (⟨rest⟩ : Table α).find? z = (⟨others⟩ : Table α).find? z := by
        cases same : k.sameKey z with
        | true => rw [ht.find?_tail same, hu.find?_tail same]
        | false =>
          have whole := found z
          rwa [find?_cons, find?_cons, same] at whole
      rw [value, ih (List.pairwise_cons.1 ht).2 selfRest others (List.pairwise_cons.1 hu).2 tails
        later]

/-- Different keys are different in any order. -/
theorem Distinct.of_perm {t u : Table α} (h : t.Distinct) (perm : u.entries.Perm t.entries) :
    u.Distinct :=
  (perm.pairwise_iff fun apart => by rwa [sameKey_comm]).2 h

/-- Tables with different keys and the same entries, in whatever order, look the same. -/
theorem Distinct.find?_of_perm {t u : Table α} (h : t.Distinct) (perm : u.entries.Perm t.entries)
    (z : Value) : u.find? z = t.find? z := by
  ext a
  rw [(h.of_perm perm).find?_eq_some, h.find?_eq_some]
  simp only [perm.mem_iff]

/-! ### Filling in portions -/

/-- Keys that are the same as themselves fill a table with such keys. -/
theorem self_of_insertAll {t : Table α} {es : List (Value × α)}
    (self : ∀ k ∈ t.keys, k.sameKey k = true) (self' : ∀ e ∈ es, e.1.sameKey e.1 = true) :
    ∀ k ∈ (t.insertAll es).keys, k.sameKey k = true := by
  intro k mem
  rw [keys_insertAll] at mem
  rcases List.mem_append.1 mem with old | new
  · exact self k old
  · obtain ⟨e, among, rfl⟩ := List.mem_map.1 (Value.firsts_subset _ (List.mem_of_mem_filter new))
    exact self' e among

/-- **To fill a table from a list is to fill it from the table of the list**, if each key is the
same as itself. -/
theorem Distinct.insertAll_eq_update {t : Table α} (h : t.Distinct) {es : List (Value × α)}
    (self : ∀ k ∈ t.keys, k.sameKey k = true) (self' : ∀ e ∈ es, e.1.sameKey e.1 = true) :
    t.insertAll es = t.update (ofList es) := by
  have same : ofList (ofList es).entries = ofList es := (distinct_ofList es).ofList_entries
  -- the table of the list is the table of its own entries, so it adds the same keys
  have keys : Value.firsts ((ofList es).entries.map (·.1)) = Value.firsts (es.map (·.1)) := by
    rw [← keys_ofList, same, keys_ofList]
  refine (h.insertAll es).ext (h.insertAll _) (self_of_insertAll self self') ?_ fun z => ?_
  · rw [update, keys_insertAll, keys_insertAll, keys]
  · rw [update, find?_insertAll_ofList, find?_insertAll_ofList, same]

/-- **A list of two portions** fills a table with the first one, which is updated with the table of
the second one. -/
theorem ofList_append {es fs : List (Value × α)} (self : ∀ e ∈ es, e.1.sameKey e.1 = true)
    (self' : ∀ e ∈ fs, e.1.sameKey e.1 = true) :
    ofList (es ++ fs) = (ofList es).update (ofList fs) := by
  have none : ∀ k ∈ (empty : Table α).keys, k.sameKey k = true := fun _ mem =>
    absurd mem List.not_mem_nil
  exact (insertAll_append empty es fs).trans
    ((distinct_ofList es).insertAll_eq_update (self_of_insertAll none self) self')

end Table

end Microclimate
