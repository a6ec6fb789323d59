import Mathlib.Data.List.Nodup
import Microclimate.Directory
import Microclimate.Proofs.Tables

/-!
# Who is where

The directory writes down twice who is where. As long as nobody comes into a zone before having left
the last one, the two agree: whoever has a place is on the list of that place, once and on no other,
and nobody is on a list who has no place. Then **leaving cannot fail**, and it does what is expected
of it: whoever leaves is taken off their list, and a list on which nobody is left goes with them.

* `Microclimate.Directory.Tidy` – **the two agree**, kept by both moves;
* `Microclimate.Directory.Tidy.leave_eq` – what leaving comes to, `Microclimate.Directory.without`;
* `Microclimate.Directory.Tidy.mem_observers_iff` – the two views agree;
* `Microclimate.Directory.Tidy.observers_without`, `Microclimate.Directory.observers_add` – who is
  listed after a move, in which order.
-/

namespace Microclimate

namespace Directory

/-- Zones that are the same key have the same members. -/
theorem observers_congr (d : Directory) {y z : Value} (h : y.sameKey z = true) :
    d.observers y = d.observers z := by
  rw [observers, d.members.lists.find?_congr h, observers]

/-- All who are on a list, list by list. -/
def listed (d : Directory) : List ActorName := d.members.lists.entries.flatMap (·.2)

/-- **The lists and the places agree.** No zone is listed twice and nobody is; nobody has two
places. Whoever is on a list has their place there, and whoever has a place is on a list. Nobody
keeps a list without names. -/
structure Tidy (d : Directory) : Prop where
  distinct : d.members.lists.Distinct
  once : d.listed.Nodup
  single : (d.members.places.map (·.1)).Nodup
  occupied : ∀ {k names}, (k, names) ∈ d.members.lists.entries → names ≠ []
  placed : ∀ {k names observer}, (k, names) ∈ d.members.lists.entries → observer ∈ names →
    ∃ place, (observer, place) ∈ d.members.places ∧ (k = place ∨ k.sameKey place = true)
  listed : ∀ {observer place}, (observer, place) ∈ d.members.places → observer ∈ d.listed

/-- Nobody is anywhere. -/
theorem tidy_empty : Tidy ⟨.empty⟩ where
  distinct := Table.distinct_empty
  once := .nil
  single := .nil
  occupied mem := absurd mem List.not_mem_nil
  placed mem := absurd mem List.not_mem_nil
  listed mem := absurd mem List.not_mem_nil

theorem tidy_of_empty {d : Directory} (nobody : d.members = .empty) : d.Tidy := by
  rw [show d = ⟨.empty⟩ from congrArg Directory.mk nobody]
  exact tidy_empty

/-- Whoever is on a list is in the entry of some zone. -/
theorem mem_listed {d : Directory} {observer : ActorName} :
    observer ∈ d.listed ↔ ∃ k names, (k, names) ∈ d.members.lists.entries ∧ observer ∈ names := by
  simp [listed]

/-- Whoever is listed in a zone is in an entry of that zone. -/
theorem mem_observers {d : Directory} (distinct : d.members.lists.Distinct) {observer : ActorName}
    {z : Value} :
    observer ∈ d.observers z ↔
      ∃ k names, (k, names) ∈ d.members.lists.entries ∧ k.sameKey z = true ∧ observer ∈ names := by
  rw [observers]
  constructor
  · intro mem
    cases found : d.members.lists.find? z with
    | none =>
      rw [found] at mem
      exact absurd mem List.not_mem_nil
    | some names =>
      rw [found] at mem
      obtain ⟨k, entry, same⟩ := Table.mem_of_find? found
      exact ⟨k, names, entry, same, mem⟩
  · rintro ⟨k, names, entry, same, mem⟩
    rw [distinct.find?_of_mem entry same]
    exact mem

/-- Whoever is in some zone has a place. -/
theorem mem_places_of_zoneOf? {d : Directory} {observer : ActorName} {place : Value}
    (h : d.zoneOf? observer = some place) : (observer, place) ∈ d.members.places := by
  obtain ⟨⟨other, place⟩, found, rfl⟩ := Option.map_eq_some_iff.1 h
  obtain rfl : other = observer := by simpa using List.find?_some found
  exact List.mem_of_find?_eq_some found

/-- Whoever is nowhere has no place. -/
theorem not_mem_places_of_zoneOf? {d : Directory} {observer : ActorName}
    (h : d.zoneOf? observer = none) (place : Value) : (observer, place) ∉ d.members.places := by
  rw [zoneOf?, Option.map_eq_none_iff, List.find?_eq_none] at h
  exact fun mem => h _ mem (by simp)

/-! ### The two views -/

namespace Tidy

variable {d : Directory} {observer : ActorName} {place : Value}

/-- Somebody with a place is there. -/
theorem zoneOf?_eq (h : d.Tidy) (mem : (observer, place) ∈ d.members.places) :
    d.zoneOf? observer = some place := by
  obtain ⟨⟨other, place'⟩, found⟩ :
      ∃ e, d.members.places.find? (·.1 = observer) = some e :=
    Option.isSome_iff_exists.1 (List.find?_isSome.2 ⟨_, mem, by simp⟩)
  have same : other = observer := by simpa using List.find?_some found
  obtain ⟨-, rfl⟩ := Prod.mk.inj
    (List.inj_on_of_nodup_map h.single (List.mem_of_find?_eq_some found) mem same)
  rw [zoneOf?, found]
  rfl

/-- **The two views of a tidy directory agree**: whoever is listed in a zone is where the directory
says they are. -/
theorem mem_observers_iff (h : d.Tidy) {z : Value} :
    observer ∈ d.observers z ↔
      ∃ place, d.zoneOf? observer = some place ∧ place.sameKey z = true := by
  rw [mem_observers h.distinct]
  constructor
  · rintro ⟨k, names, entry, same, mem⟩
    obtain ⟨place, there, named⟩ := h.placed entry mem
    refine ⟨place, h.zoneOf?_eq there, ?_⟩
    rcases named with rfl | named
    · exact same
    · exact Value.sameKey_trans (Value.sameKey_symm named) same
  · rintro ⟨place, there, same⟩
    have noted := mem_places_of_zoneOf? there
    obtain ⟨k, names, entry, mem⟩ := mem_listed.1 (h.listed noted)
    refine ⟨k, names, entry, ?_, mem⟩
    obtain ⟨place', there', named⟩ := h.placed entry mem
    obtain rfl : place' = place := Option.some.inj ((h.zoneOf?_eq there').symm.trans there)
    rcases named with rfl | named
    · exact same
    · exact Value.sameKey_trans named same

/-- Nobody is in two zones. -/
theorem sameKey_of_mem (h : d.Tidy) {y z : Value} (here : observer ∈ d.observers y)
    (there : observer ∈ d.observers z) : y.sameKey z = true := by
  obtain ⟨place, at_y, same⟩ := h.mem_observers_iff.1 here
  obtain ⟨place', at_z, same'⟩ := h.mem_observers_iff.1 there
  obtain rfl : place = place' := Option.some.inj (at_y.symm.trans at_z)
  exact Value.sameKey_trans (Value.sameKey_symm same) same'

/-- Nobody is listed twice in a zone. -/
theorem nodup_observers (h : d.Tidy) (z : Value) : (d.observers z).Nodup := by
  rw [observers]
  cases found : d.members.lists.find? z with
  | none => exact .nil
  | some names =>
    obtain ⟨k, entry, -⟩ := Table.mem_of_find? found
    exact (List.nodup_flatMap.1 h.once).1 _ entry

/-- The list of the zone that somebody is in is the one on which they are. -/
theorem isListOf_iff (h : d.Tidy) (there : (observer, place) ∈ d.members.places)
    {list : Value × List ActorName} (entry : list ∈ d.members.lists.entries) :
    isListOf observer place list = true ↔ observer ∈ list.2 := by
  have placed {e : Value × List ActorName} (entry : e ∈ d.members.lists.entries)
      (mem : observer ∈ e.2) : e.1 = place ∨ e.1.sameKey place = true := by
    obtain ⟨place', there', named⟩ := h.placed (k := e.1) entry mem
    obtain rfl : place' = place :=
      Option.some.inj ((h.zoneOf?_eq there').symm.trans (h.zoneOf?_eq there))
    exact named
  simp only [isListOf, Bool.or_eq_true, Bool.and_eq_true, Bool.not_eq_true', decide_eq_true_eq]
  constructor
  · rintro (same | ⟨-, mem⟩)
    · obtain ⟨k, names, entry', mem⟩ := mem_listed.1 (h.listed there)
      -- both lists are the one that is found under the place
      have self := Table.sameKey_refl_of same
      have named : k.sameKey place = true := (placed entry' mem).elim (fun eq => eq ▸ self) id
      have found := h.distinct.find?_of_mem (k := list.1) (a := list.2) entry same
      rw [h.distinct.find?_of_mem entry' named] at found
      exact Option.some.inj found ▸ mem
    · exact mem
  · intro mem
    rcases placed entry mem with rfl | named
    · cases self : list.1.sameKey list.1 with
      | true => exact .inl rfl
      | false => exact .inr ⟨rfl, mem⟩
    · exact .inl named

end Tidy

/-! ### Leaving -/

/-- The list of a zone without an observer. -/
def takeOff (observer : ActorName) (list : Value × List ActorName) : Value × List ActorName :=
  (list.1, list.2.filter (· ≠ observer))

/-- The lists on which somebody is. -/
def inUse (lists : List (Value × List ActorName)) : List (Value × List ActorName) :=
  lists.filter (!·.2.isEmpty)

/-- The directory without an observer. -/
def without (d : Directory) (observer : ActorName) : Directory :=
  ⟨⟨inUse (d.members.lists.entries.map (takeOff observer))⟩, forget observer d.members.places⟩

theorem takeOff_of_not_mem {observer : ActorName} {list : Value × List ActorName}
    (absent : observer ∉ list.2) : takeOff observer list = list := by
  have stays : list.2.filter (· ≠ observer) = list.2 := List.filter_eq_self.2 fun other mem => by
    simpa using fun same : other = observer => absent (same ▸ mem)
  rw [takeOff, stays]

theorem inUse_cons (list : Value × List ActorName) (rest : List (Value × List ActorName)) :
    inUse (list :: rest) = if list.2.isEmpty then inUse rest else list :: inUse rest := by
  rw [inUse, List.filter_cons]
  cases list.2.isEmpty <;> rfl

/-- Taking somebody off some lists changes nothing if they are on none. -/
theorem inUse_takeOff_of_absent {observer : ActorName} {lists : List (Value × List ActorName)}
    (occupied : ∀ e ∈ lists, e.2 ≠ []) (absent : ∀ e ∈ lists, observer ∉ e.2) :
    inUse (lists.map (takeOff observer)) = lists := by
  have same : lists.map (takeOff observer) = lists := by
    rw [List.map_congr_left fun e mem => takeOff_of_not_mem (absent e mem)]
    exact List.map_id _
  rw [same, inUse, List.filter_eq_self]
  exact fun e mem => by simpa using occupied e mem

/-- **Striking somebody off the list of their zone** takes them off all lists, if that list is the
one on which they are. -/
theorem strike_eq {observer : ActorName} {zone : Value} {lists : List (Value × List ActorName)}
    (once : (lists.flatMap (·.2)).Nodup) (occupied : ∀ e ∈ lists, e.2 ≠ [])
    (known : ∀ e ∈ lists, isListOf observer zone e = true ↔ observer ∈ e.2)
    (there : ∃ e ∈ lists, observer ∈ e.2) :
    strike observer zone lists = .ok (inUse (lists.map (takeOff observer))) := by
  induction lists with
  | nil =>
    obtain ⟨e, mem, -⟩ := there
    exact absurd mem List.not_mem_nil
  | cons e rest ih =>
    rw [List.flatMap_cons, List.nodup_append] at once
    have occupied' : ∀ e ∈ rest, e.2 ≠ [] := fun e mem => occupied e (by simp [mem])
    rw [strike, List.map_cons, inUse_cons]
    by_cases mem : observer ∈ e.2
    · -- this is the list, and so they are on no other
      have absent : ∀ e ∈ rest, observer ∉ e.2 := fun e' mem' here =>
        once.2.2 observer mem observer (List.mem_flatMap.2 ⟨e', mem', here⟩) rfl
      have struck : (e.1, e.2.erase observer) = takeOff observer e := by
        rw [once.1.erase_eq_filter, takeOff]
        exact congrArg _ (List.filter_congr fun other _ => by rw [Bool.eq_iff_iff]; simp)
      rw [if_pos ((known e (by simp)).2 mem), if_neg (not_not_intro mem), struck,
        inUse_takeOff_of_absent occupied' absent, ← congrArg Prod.snd struck]
      split <;> rfl
    · have kept : e.2.isEmpty = false := by simpa using occupied e (by simp)
      have further : ∃ e ∈ rest, observer ∈ e.2 := by
        obtain ⟨e', mem', here⟩ := there
        rcases List.mem_cons.1 mem' with rfl | mem'
        · exact absurd here mem
        · exact ⟨e', mem', here⟩
      rw [if_neg fun this => mem ((known e (by simp)).1 this), takeOff_of_not_mem mem, kept,
        ih once.2.1 occupied' (fun e mem => known e (by simp [mem])) further]
      rfl

/-- Leaving, for somebody who is nowhere. -/
theorem leave_of_nowhere {d : Directory} {observer : ActorName}
    (nowhere : d.zoneOf? observer = none) : leave observer d = .ok () d := by
  change (leave observer).run d = _
  simp only [leave, EStateM.run_bind, EStateM.run_get, nowhere, EStateM.run_pure]

/-- Leaving, for somebody who is somewhere. -/
theorem leave_of_somewhere {d : Directory} {observer : ActorName} {place : Value}
    (there : d.zoneOf? observer = some place) :
    leave observer d =
      match strike observer place d.members.lists.entries with
      | .ok lists => .ok () ⟨⟨lists⟩, forget observer d.members.places⟩
      | .error f => .error f ⟨d.members.lists, forget observer d.members.places⟩ := by
  change (leave observer).run d = _
  simp only [leave, EStateM.run_bind, EStateM.run_get, there, EStateM.run_modify]
  cases strike observer place d.members.lists.entries <;> rfl

/-- Whoever has left is nowhere. -/
theorem zoneOf?_leave {d d' : Directory} {observer : ActorName}
    (left : leave observer d = .ok () d') : d'.zoneOf? observer = none := by
  cases there : d.zoneOf? observer with
  | none =>
    rw [leave_of_nowhere there] at left
    cases left
    exact there
  | some place =>
    rw [leave_of_somewhere there] at left
    cases struck : strike observer place d.members.lists.entries with
    | error f =>
      rw [struck] at left
      cases left
    | ok lists =>
      rw [struck] at left
      cases left
      simp [zoneOf?, forget]

/-- **Leaving a tidy directory does not fail**, and the directory is without the observer then. -/
theorem Tidy.leave_eq {d : Directory} (h : d.Tidy) (observer : ActorName) :
    leave observer d = .ok () (d.without observer) := by
  have occupied : ∀ e ∈ d.members.lists.entries, e.2 ≠ [] := fun e => h.occupied (k := e.1)
  cases there : d.zoneOf? observer with
  | none =>
    have nowhere := not_mem_places_of_zoneOf? there
    have absent : ∀ e ∈ d.members.lists.entries, observer ∉ e.2 := fun e entry mem => by
      obtain ⟨place, noted, -⟩ := h.placed (k := e.1) entry mem
      exact nowhere place noted
    have lists := inUse_takeOff_of_absent occupied absent
    have places : forget observer d.members.places = d.members.places :=
      List.filter_eq_self.2 fun e mem => by
        simpa using fun same : e.1 = observer => nowhere e.2 (same ▸ mem)
    rw [leave_of_nowhere there, without, lists, places]
  | some place =>
    have noted := mem_places_of_zoneOf? there
    obtain ⟨k, names, entry, mem⟩ := mem_listed.1 (h.listed noted)
    rw [leave_of_somewhere there, strike_eq h.once occupied (fun _ => h.isListOf_iff noted)
      ⟨_, entry, mem⟩]
    rfl

theorem mem_entries_without {d : Directory} {observer : ActorName} {k : Value}
    {names : List ActorName} :
    (k, names) ∈ (d.without observer).members.lists.entries ↔
      names ≠ [] ∧ ∃ before, (k, before) ∈ d.members.lists.entries ∧
        names = before.filter (· ≠ observer) := by
  simp only [without, inUse, takeOff, List.mem_filter, List.mem_map, Prod.mk.injEq]
  constructor
  · rintro ⟨⟨⟨k, before⟩, entry, rfl, rfl⟩, kept⟩
    exact ⟨by simpa using kept, before, entry, rfl⟩
  · rintro ⟨kept, before, entry, rfl⟩
    exact ⟨⟨(k, before), entry, rfl, rfl⟩, by simpa using kept⟩

/-- Nobody but the one who leaves is taken off a list. -/
theorem listed_without (d : Directory) (observer : ActorName) :
    (d.without observer).listed = d.listed.filter (· ≠ observer) := by
  simp only [listed, without]
  generalize d.members.lists.entries = entries
  induction entries with
  | nil => rfl
  | cons e rest ih =>
    rw [List.map_cons, inUse_cons, List.flatMap_cons, List.filter_append, ← ih]
    split
    next empty =>
      have nobody : e.2.filter (· ≠ observer) = [] := List.isEmpty_iff.1 empty
      rw [nobody, List.nil_append]
    next => rfl

/-- **A directory stays tidy when somebody leaves.** -/
theorem Tidy.without {d : Directory} (h : d.Tidy) (observer : ActorName) :
    (d.without observer).Tidy where
  distinct := by
    refine List.Pairwise.filter _ (List.pairwise_map.2 ?_)
    exact h.distinct
  once := by
    rw [listed_without]
    exact h.once.filter _
  single := h.single.sublist (List.filter_sublist.map _)
  occupied entry := (mem_entries_without.1 entry).1
  placed {k names other} entry mem := by
    obtain ⟨-, before, entered, rfl⟩ := mem_entries_without.1 entry
    obtain ⟨mem, stays⟩ := List.mem_filter.1 mem
    obtain ⟨place, there, named⟩ := h.placed entered mem
    exact ⟨place, List.mem_filter.2 ⟨there, stays⟩, named⟩
  listed {other place} there := by
    obtain ⟨there, stays⟩ := List.mem_filter.1 there
    rw [listed_without]
    exact List.mem_filter.2 ⟨h.listed there, stays⟩

/-- **Who is listed once somebody has left**: all others, in the order in which they were. -/
theorem Tidy.observers_without {d : Directory} (h : d.Tidy) (observer : ActorName) (z : Value) :
    (d.without observer).observers z = (d.observers z).filter (· ≠ observer) := by
  have distinct := (h.without observer).distinct
  rw [observers, observers]
  cases found : d.members.lists.find? z with
  | none =>
    cases after : (d.without observer).members.lists.find? z with
    | none => rfl
    | some names =>
      obtain ⟨k, entry, same⟩ := Table.mem_of_find? after
      obtain ⟨-, before, entered, rfl⟩ := mem_entries_without.1 entry
      rw [h.distinct.find?_of_mem entered same] at found
      cases found
  | some names =>
    obtain ⟨k, entry, same⟩ := Table.mem_of_find? found
    rw [Option.getD_some]
    by_cases kept : names.filter (· ≠ observer) = []
    · -- the list is gone, so nothing is found
      rw [kept]
      cases after : (d.without observer).members.lists.find? z with
      | none => rfl
      | some names' =>
        obtain ⟨k', entry', same'⟩ := Table.mem_of_find? after
        obtain ⟨nonempty, before, entered, rfl⟩ := mem_entries_without.1 entry'
        rw [h.distinct.find?_of_mem entered same'] at found
        rw [Option.some.inj found] at nonempty
        exact absurd kept nonempty
    · rw [distinct.find?_of_mem (mem_entries_without.2 ⟨kept, names, entry, rfl⟩) same]
      rfl

/-- Who is listed once somebody has left. -/
theorem Tidy.mem_observers_without {d : Directory} (h : d.Tidy) {observer other : ActorName}
    {z : Value} :
    other ∈ (d.without observer).observers z ↔ other ∈ d.observers z ∧ other ≠ observer := by
  rw [h.observers_without, List.mem_filter, decide_eq_true_eq]

/-- Whoever has left is nowhere. -/
theorem zoneOf?_without (d : Directory) (observer : ActorName) :
    (d.without observer).zoneOf? observer = none := by
  simp [zoneOf?, without, forget]

/-! ### Coming -/

/-- **Who is listed once somebody has come**: in the zone into which they came, they are the
last. -/
theorem observers_add (d : Directory) (observer : ActorName) (y z : Value) :
    (d.add observer z).observers y =
      if z.sameKey y then d.observers y ++ [observer] else d.observers y := by
  rw [observers, add, Table.find?_insert]
  split
  next same => rw [Option.getD_some, d.observers_congr same]
  next => rfl

/-- Who is listed once somebody has come. -/
theorem mem_observers_add {d : Directory} {observer other : ActorName} {y z : Value} :
    other ∈ (d.add observer z).observers y ↔
      other ∈ d.observers y ∨ z.sameKey y = true ∧ other = observer := by
  rw [observers_add]
  by_cases same : z.sameKey y = true <;> simp [same]

/-- Somebody who comes is added to the names of one entry, which is new if the zone was not
listed. -/
theorem exists_entries_add {d : Directory} (distinct : d.members.lists.Distinct)
    (observer : ActorName) (z : Value) :
    ∃ before k names after,
      (d.add observer z).members.lists.entries =
          before ++ (k, names ++ [observer]) :: after ∧
        (k = z ∨ k.sameKey z = true) ∧
        d.listed = before.flatMap (·.2) ++ (names ++ after.flatMap (·.2)) ∧
        (∀ e ∈ before ++ after, e ∈ d.members.lists.entries) ∧
        (names ≠ [] → (k, names) ∈ d.members.lists.entries) := by
  rcases Table.put_eq z (d.observers z ++ [observer]) d.members.lists.entries with
    ⟨apart, written⟩ | ⟨before, k, names, after, split, same, written⟩
  all_goals have added : (d.add observer z).members.lists.entries = _ := written
  -- the zone is not listed yet, or it is listed under some key
  · have nobody : d.observers z = [] := by
      rw [observers, Table.find?, List.find?_eq_none.2 fun e mem => by simp [apart e mem]]
      rfl
    rw [nobody] at added
    exact ⟨d.members.lists.entries, z, [], [], added, .inl rfl, by simp [listed], by simp,
      fun ne => absurd rfl ne⟩
  · have entry : (k, names) ∈ d.members.lists.entries := split ▸ by simp
    have there : d.observers z = names := by
      rw [observers, distinct.find?_of_mem entry same]
      rfl
    rw [there] at added
    refine ⟨before, k, names, after, added, .inr same, by simp [listed, split],
      fun e mem => ?_, fun _ => entry⟩
    rw [split]
    exact (List.mem_append.1 mem).elim (List.mem_append_left _) fun late =>
      List.mem_append_right _ (List.mem_cons_of_mem _ late)

/-- **A directory stays tidy when somebody comes** who is nowhere. -/
theorem Tidy.add {d : Directory} (h : d.Tidy) {observer : ActorName}
    (nowhere : d.zoneOf? observer = none) (z : Value) : (d.add observer z).Tidy := by
  have absent : ∀ place, (observer, place) ∉ d.members.places := not_mem_places_of_zoneOf? nowhere
  have places : (d.add observer z).members.places = (observer, z) :: d.members.places := by
    rw [Directory.add, forget, List.filter_eq_self.2 fun e mem => ?_]
    simpa using fun same : e.1 = observer => absent e.2 (same ▸ mem)
  obtain ⟨before, k, names, after, added, place, all, old, this⟩ :=
    exists_entries_add h.distinct observer z
  have everybody : (d.add observer z).listed.Perm (observer :: d.listed) := by
    rw [Directory.listed, added, all, List.flatMap_append, List.flatMap_cons]
    simp only [List.append_assoc, List.singleton_append]
    rw [← List.append_assoc, ← List.append_assoc]
    exact List.perm_middle
  -- an entry was there before, or it is the one in which somebody is new
  have entries {e : Value × List ActorName}
      (entry : e ∈ (d.add observer z).members.lists.entries) :
      e ∈ d.members.lists.entries ∨ e = (k, names ++ [observer]) := by
    rw [added] at entry
    rcases List.mem_append.1 entry with early | entry
    · exact .inl (old e (List.mem_append_left _ early))
    · exact (List.mem_cons.1 entry).symm.imp_left fun late => old e (List.mem_append_right _ late)
  constructor
  · exact h.distinct.insert z _
  · refine everybody.nodup_iff.2 (List.nodup_cons.2 ⟨fun mem => ?_, h.once⟩)
    obtain ⟨k', names', entry, mem⟩ := mem_listed.1 mem
    obtain ⟨place, there, -⟩ := h.placed entry mem
    exact absent place there
  · rw [places]
    refine List.nodup_cons.2 ⟨fun mem => ?_, h.single⟩
    obtain ⟨⟨other, place⟩, there, rfl⟩ := List.mem_map.1 mem
    exact not_mem_places_of_zoneOf? nowhere place there
  · intro k' names' entry
    rcases entries entry with entry | new
    · exact h.occupied entry
    · simp [(Prod.mk.inj new).2]
  · intro k' names' other entry mem
    rw [places]
    have placed {names : List ActorName} (entry : (k', names) ∈ d.members.lists.entries)
        (mem : other ∈ names) :
        ∃ place, (other, place) ∈ (observer, z) :: d.members.places ∧
          (k' = place ∨ k'.sameKey place = true) := by
      obtain ⟨place, there, named⟩ := h.placed entry mem
      exact ⟨place, List.mem_cons_of_mem _ there, named⟩
    rcases entries entry with entry | new
    · exact placed entry mem
    · obtain ⟨rfl, rfl⟩ := Prod.mk.inj new
      rcases List.mem_append.1 mem with member | new
      · exact placed (this (List.ne_nil_of_mem member)) member
      · obtain rfl := List.mem_singleton.1 new
        exact ⟨z, List.mem_cons_self, place⟩
  · intro other place' there
    rw [places] at there
    refine everybody.mem_iff.2 ?_
    rcases List.mem_cons.1 there with new | there
    · rw [(Prod.mk.inj new).1]
      exact List.mem_cons_self
    · exact List.mem_cons_of_mem _ (h.listed there)

end Directory

end Microclimate
