import Microclimate.World

/-!
# What is seen of a changed world

A world is changed by a few functions, each of which touches little. This file says what else is to
be seen after each of them: the scene, the cycles, and what has happened.

* `Microclimate.World.toScene_emit`, `Microclimate.World.toScene_setSource`, … – what leaves the
  scene alone;
* `Microclimate.World.cycle_editCycle`, `Microclimate.World.cycle_editCycle_of_ne` – the changed
  cycle and all others;
* `Microclimate.World.Adds` – a history goes on by some moments.
-/

namespace Microclimate

namespace World

variable {γ : Type} (w : World γ)

/-! ### Scenes -/

@[simp] theorem toScene_emit (e : Event) : (w.emit e).toScene = w.toScene := rfl

@[simp] theorem toScene_dispatch (id : CycleId) (receiver : Receiver) (packet : Packet) :
    (w.dispatch id receiver packet).toScene = w.toScene := rfl

@[simp] theorem toScene_countCall (name : ActorName) : (w.countCall name).toScene = w.toScene := rfl

@[simp] theorem toScene_setSource (owner : Owner) (g : γ) :
    (w.setSource owner g).toScene = w.toScene := by
  cases owner <;> rfl

@[simp] theorem toScene_editCycle (id : CycleId) (f : Cycle → Cycle) :
    (w.editCycle id f).toScene = { w.toScene with cycles := w.cycles.modify id.number f } := rfl

@[simp] theorem toScene_carryOut (d : Deed) :
    (w.carryOut d).toScene =
      { w.toScene with manager := { w.manager with live := d.apply w.manager.live } } := rfl

/-! ### What happened and what was done -/

@[simp] theorem history_emit (e : Event) :
    (w.emit e).history = w.history.push ⟨e, w.toScene⟩ := rfl

@[simp] theorem history_dispatch (id : CycleId) (receiver : Receiver) (packet : Packet) :
    (w.dispatch id receiver packet).history = w.history := rfl

@[simp] theorem history_countCall (name : ActorName) : (w.countCall name).history = w.history := rfl

@[simp] theorem history_setSource (owner : Owner) (g : γ) :
    (w.setSource owner g).history = w.history := by
  cases owner <;> rfl

@[simp] theorem history_editCycle (id : CycleId) (f : Cycle → Cycle) :
    (w.editCycle id f).history = w.history := rfl

@[simp] theorem history_carryOut (d : Deed) : (w.carryOut d).history = w.history := rfl

@[simp] theorem ledger_emit (e : Event) : (w.emit e).ledger = w.ledger := rfl

@[simp] theorem ledger_dispatch (id : CycleId) (receiver : Receiver) (packet : Packet) :
    (w.dispatch id receiver packet).ledger = w.ledger := rfl

@[simp] theorem ledger_countCall (name : ActorName) : (w.countCall name).ledger = w.ledger := rfl

@[simp] theorem ledger_setSource (owner : Owner) (g : γ) :
    (w.setSource owner g).ledger = w.ledger := by
  cases owner <;> rfl

@[simp] theorem ledger_editCycle (id : CycleId) (f : Cycle → Cycle) :
    (w.editCycle id f).ledger = w.ledger := rfl

@[simp] theorem ledger_carryOut (d : Deed) : (w.carryOut d).ledger = w.ledger.push d := rfl

/-! ### Random sources -/

@[simp] theorem weatherOwner_setSource (owner : Owner) (g : γ) :
    (w.setSource owner g).weatherOwner = w.weatherOwner := by
  cases owner <;> rfl

@[simp] theorem source_setSource (owner : Owner) (g : γ) :
    (w.setSource owner g).source owner = g := by
  cases owner <;> rfl

/-! ### Cycles -/

/-- **A changed cycle** is what the change makes of it. -/
theorem cycle_editCycle {id : CycleId} (known : id.number < w.cycles.size) (f : Cycle → Cycle) :
    (w.editCycle id f).cycle id = f (w.cycle id) := by
  simp [Scene.cycle, known, Array.getElem_modify]

/-- All other cycles stay as they are. -/
theorem cycle_editCycle_of_ne {id other : CycleId} (h : other ≠ id) (f : Cycle → Cycle) :
    (w.editCycle id f).cycle other = w.cycle other := by
  have apart : id.number ≠ other.number := fun same => h (by cases id; cases other; simp_all)
  simp only [Scene.cycle, toScene_editCycle, Array.getD_eq_getD_getElem?, Array.getElem?_modify,
    if_neg apart]

/-- Where no cycle has changed, each of them is what it was. -/
theorem cycle_congr {w w' : World γ} (same : w'.cycles = w.cycles) (id : CycleId) :
    w'.cycle id = w.cycle id := by
  rw [Scene.cycle, Scene.cycle, same]

/-- Two changes of a cycle are one. -/
theorem editCycle_editCycle (id : CycleId) (f g : Cycle → Cycle) :
    (w.editCycle id f).editCycle id g = w.editCycle id fun c => g (f c) := by
  have cycles : (w.cycles.modify id.number f).modify id.number g =
      w.cycles.modify id.number fun c => g (f c) := by
    apply Array.ext
    · simp
    · intro i _ _
      simp only [Array.getElem_modify]
      split <;> rfl
  simp only [editCycle, cycles]

/-! ### How the history goes on -/

/-- The world `w'` comes after the world `w`, and some moments came between. -/
def Adds (w : World γ) (ms : List Moment) (w' : World γ) : Prop :=
  w'.history.toList = w.history.toList ++ ms

theorem Adds.nothing {w w' : World γ} (h : w'.history = w.history) : w.Adds [] w' := by
  simp [Adds, h]

theorem Adds.emit (w : World γ) (e : Event) : w.Adds [⟨e, w.toScene⟩] (w.emit e) := by
  simp [Adds]

theorem Adds.trans {a b c : World γ} {ms ns : List Moment} (h : a.Adds ms b) (h' : b.Adds ns c) :
    a.Adds (ms ++ ns) c := by
  rw [Adds, h', h, List.append_assoc]

/-- What happened in a world goes on as its history does. -/
theorem Adds.events {w w' : World γ} {ms : List Moment} (h : w.Adds ms w') :
    w'.events.toList = w.events.toList ++ ms.map (·.event) := by
  rw [World.events, World.events, Array.toList_map, Array.toList_map, h, List.map_append]

theorem events_emit (w : World γ) (e : Event) :
    (w.emit e).events.toList = w.events.toList ++ [e] := (Adds.emit w e).events

end World

end Microclimate
