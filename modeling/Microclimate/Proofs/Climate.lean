import Microclimate.Proofs.Intensities
import Microclimate.Proofs.Registry
import Microclimate.Proofs.Rolling

/-!
# Climates

A climate is a condition on cycles that the weather never breaks: new cycles satisfy it, and so does
whatever the rolls make of a cycle that satisfies it. There is one catch. Weather that gets better,
or worse, or changes radically, is for a moment beyond all bounds, until it is brought back into the
range that is broadcast. So for those changes the condition is only asked for **after that**, and
what remains to be shown is that nothing happens in between.

A climate says which weather may be forced, and which rolls are made when a kind is selected. It
speaks of all cycles that were started since some world, for a cycle that is dropped or replaced may
still be at work. And it speaks of every moment: of the scene of everything that happens, and of the
scene of every packet that a cycle sends.

* `Microclimate.Climate` – such a condition;
* `Microclimate.Climate.Prevails` – **it has held at all moments since some world**;
* `Microclimate.CycleId.regenerate_prevails` – rolling the weather keeps it up, until the cycle is
  brought back into range.
-/

namespace Microclimate

variable {γ : Type}

/-- **A condition on cycles that the weather never breaks**. -/
structure Climate where
  /-- What is asked of a cycle. -/
  Admits : Cycle → Prop
  /-- The weather that may be forced. -/
  Forced : WeatherKind → Float → Prop
  /-- The rolls that may come up when a kind is selected. -/
  Rolled : Int → Prop
  /-- Time does not matter. -/
  timer : ∀ {c : Cycle} (t : Timer), Admits c → Admits { c with timer := t }
  /-- A new cycle. -/
  fresh : ∀ (zone : Value) (table : SeasonTable) (t : Timer),
    Admits { zone := zone, table := some table, timer := t }
  /-- The weather clears. -/
  clears : ∀ {c : Cycle}, Admits c → Admits (c.withWeather .fine 0.0)
  /-- The intensity is brought into the range that is broadcast. -/
  clamps : ∀ {c : Cycle}, Admits c → Admits c.clamp
  /-- Fine weather gives way to a kind that is selected. -/
  selects : ∀ {c : Cycle} {table : SeasonTable} {n : Int} (season : Season), Admits c →
    c.kind = .fine → c.table = some table → Rolled n →
      Admits { c with kind := (table.chances season).select n }
  /-- New weather gets an intensity. -/
  settles : ∀ {c : Cycle} {x : Float}, Admits c → c.kind ≠ .fine → InUnit x →
    Admits (c.withWeather c.kind x)
  /-- The weather changes without a selection, by as much as it can. -/
  changes : ∀ {c : Cycle} {x : Float}, Admits c → c.kind ≠ .fine →
    (x = c.intensity - third ∨ x = c.intensity + third ∨ x = Cycle.maxIntensity ∨
      x = c.intensity - twoThirds) → Admits (c.withWeather c.kind x).clamp
  /-- Weather is forced. -/
  forces : ∀ {c : Cycle} {kind : WeatherKind} {x : Float}, Admits c → Forced kind x →
    Admits (c.withWeather kind x).clamp

/-- What the source is supposed to do for a climate: the rolls that come up when a kind is selected
are among those that the climate reckons with. -/
def Climate.Fed (C : Climate) (γ : Type) [RandomSource γ] : Prop :=
  ∀ (g g' : γ) (n : Int), RandomSource.integer 1 100 g = .ok n g' → C.Rolled n

/-! ### What is looked at -/

/-- A scene is under a climate, as far as the cycles are concerned that are numbered from `first`
on. All that is running is among them. -/
structure Scene.Under (s : Scene) (C : Climate) (first : Nat) : Prop where
  weather : ∀ {id : CycleId}, first ≤ id.number → id.number < s.cycles.size → C.Admits (s.cycle id)
  live : ∀ {zone id}, (zone, id) ∈ s.manager.live.entries → first ≤ id.number ∧ s.MadeFor zone id

/-- An observer is among those to whom a packet is sent. -/
def Receiver.Includes (s : Scene) (observer : ActorName) : Receiver → Prop
  | .zone z => observer ∈ s.directory.observers z
  | .observer name => name = observer

/-- A packet that is received, or handed over, is one of those that some cycle sent, or tells of a
clear sky. -/
def Event.ComesFrom (ds : List Dispatch) : Event → Prop
  | packet observer p =>
    p = .fine ∨ ∃ d ∈ ds, d.packet = p ∧ d.receiver.Includes d.scene observer
  | handed zone p _ => ∃ d ∈ ds, d.packet = p ∧ d.receiver = .zone zone
  | _ => True

/-- **A cycle sends what it should**: its present weather, in a scene that is under the climate, and
brought into the range that is broadcast if it is for the whole zone. -/
structure Dispatch.Proper (d : Dispatch) (C : Climate) (first : Nat) : Prop where
  new : first ≤ d.sender.number
  known : d.sender.number < d.scene.cycles.size
  under : d.scene.Under C first
  packet : d.packet = (d.scene.cycle d.sender).packet
  clamped : ∀ {zone}, d.receiver = .zone zone →
    zone = (d.scene.cycle d.sender).zone ∧ ∃ c : Cycle, d.scene.cycle d.sender = c.clamp

/-- The world `w'` comes after the world `w`, and the cycles sent some packets in between. -/
def World.Sends (w : World γ) (ds : List Dispatch) (w' : World γ) : Prop :=
  w'.sent.toList = w.sent.toList ++ ds

/-- **A climate has prevailed since the world `start`**: it does now, it did whenever something
happened and whenever a cycle sent a packet, and all packets are accounted for. -/
structure Climate.Prevails (C : Climate) (start w : World γ) : Prop where
  size : start.cycles.size ≤ w.cycles.size
  under : w.Under C start.cycles.size
  record : ∃ ms ds, start.Adds ms w ∧ start.Sends ds w ∧
    (∀ m ∈ ms, m.scene.Under C start.cycles.size ∧ m.event.ComesFrom ds) ∧
      ∀ d ∈ ds, d.Proper C start.cycles.size

/-- A cycle was started since the world `start`. -/
def World.Since (start w : World γ) (id : CycleId) : Prop :=
  start.cycles.size ≤ id.number ∧ id.number < w.cycles.size

/-- A call that may be made: if it is about a packet, that was sent since the world `start`, or
tells of a clear sky. -/
def World.Accounts (start w : World γ) (call : Call) : Prop :=
  ∃ ds, start.Sends ds w ∧ (call.event w).ComesFrom ds

/-! ### What is added to the packets -/

/-- Where a packet comes from does not depend on the world in which it is received. -/
theorem Call.comesFrom_congr {ds : List Dispatch} {call : Call} (w w' : World γ)
    (h : (call.event w).ComesFrom ds) : (call.event w').ComesFrom ds := by
  cases call with
  | packet observer p => exact h
  | _ => trivial

theorem Event.ComesFrom.mono {ds es : List Dispatch} {e : Event} (h : e.ComesFrom ds)
    (sub : ∀ d ∈ ds, d ∈ es) : e.ComesFrom es := by
  cases e with
  | packet observer p =>
    rcases h with fine | ⟨d, mem, same⟩
    · exact .inl fine
    · exact .inr ⟨d, sub d mem, same⟩
  | handed zone p reached =>
    obtain ⟨d, mem, same⟩ := h
    exact ⟨d, sub d mem, same⟩
  | _ => trivial

namespace World.Sends

theorem nothing {w w' : World γ} (h : w'.sent = w.sent) : w.Sends [] w' := by
  simp [Sends, h]

theorem dispatch (w : World γ) (id : CycleId) (receiver : Receiver) (packet : Packet) :
    w.Sends [⟨id, receiver, packet, w.toScene⟩] (w.dispatch id receiver packet) := by
  simp [Sends, World.dispatch]

theorem trans {a b c : World γ} {ds es : List Dispatch} (h : a.Sends ds b) (h' : b.Sends es c) :
    a.Sends (ds ++ es) c := by
  rw [Sends, h', h, List.append_assoc]

end World.Sends

/-- Cycles are never forgotten, and neither are packets. -/
structure World.Grows (w w' : World γ) : Prop where
  size : w.cycles.size ≤ w'.cycles.size
  sends : ∃ ds, w.Sends ds w'

namespace World.Grows

theorem refl (w : World γ) : w.Grows w := ⟨le_rfl, [], .nothing rfl⟩

theorem trans {a b c : World γ} (h : a.Grows b) (h' : b.Grows c) : a.Grows c := by
  obtain ⟨ds, first⟩ := h.sends
  obtain ⟨es, second⟩ := h'.sends
  exact ⟨h.size.trans h'.size, ds ++ es, first.trans second⟩

theorem since {start w w' : World γ} (h : w.Grows w') {id : CycleId} (since : start.Since w id) :
    start.Since w' id :=
  ⟨since.1, since.2.trans_le h.size⟩

theorem accounts {start w w' : World γ} (h : w.Grows w') {call : Call}
    (accounts : start.Accounts w call) : start.Accounts w' call := by
  obtain ⟨ds, sends, comes⟩ := accounts
  obtain ⟨es, more⟩ := h.sends
  refine ⟨ds ++ es, sends.trans more, Call.comesFrom_congr w w' (comes.mono fun d mem => ?_)⟩
  exact List.mem_append_left es mem

theorem of_step {w w' : World γ} (h : w.Step w') : w.Grows w' := by
  cases h with
  | dispatched id receiver packet => exact ⟨le_rfl, _, .dispatch w id receiver packet⟩
  | edited id f make => exact ⟨by simp, [], .nothing rfl⟩
  | started zone table chances => exact ⟨by simp [start], [], .nothing rfl⟩
  | moved m allowed =>
    obtain ⟨d, attempts, left⟩ := m.carryOut_worldLeft w
    rw [left]
    exact ⟨le_rfl, [], .nothing rfl⟩
  | _ => exact ⟨le_rfl, [], .nothing rfl⟩

end World.Grows

namespace World.Since

variable {start w w' : World γ} {id : CycleId}

theorem of_scene (h : start.Since w id) (scene : w'.toScene = w.toScene) : start.Since w' id :=
  ⟨h.1, by rw [scene]; exact h.2⟩

theorem editCycle (h : start.Since w id) (other : CycleId) (f : Cycle → Cycle) :
    start.Since (w.editCycle other f) id :=
  ⟨h.1, by simpa using h.2⟩

end World.Since

/-! ### What a climate survives -/

namespace Scene.Under

variable {s s' : Scene} {C : Climate} {first : Nat}

/-- A scene stays under a climate if its cycles stay as they are, and nothing is started. -/
theorem congr (h : s.Under C first) (cycles : s'.cycles = s.cycles)
    (data : s'.manager.data = s.manager.data) (config : s'.manager.config = s.manager.config)
    (live : ∀ e ∈ s'.manager.live.entries, e ∈ s.manager.live.entries) : s'.Under C first where
  weather {id} new known := by
    have same : s'.cycle id = s.cycle id := by rw [Scene.cycle, cycles, Scene.cycle]
    rw [same]
    exact h.weather new (cycles ▸ known)
  live running := by
    obtain ⟨new, made⟩ := h.live (live _ running)
    exact ⟨new, made.grows (.of_cycles data config cycles)⟩

/-- It stays so if a cycle is changed that satisfies the climate afterwards. -/
theorem editCycle {w : World γ} (h : w.Under C first) (id : CycleId) {f : Cycle → Cycle}
    (make : ∀ c, Cycle.SameMake c (f c)) (admits : C.Admits (f (w.cycle id))) :
    (w.editCycle id f).Under C first where
  weather {other} new known := by
    have known' : other.number < w.cycles.size := by simpa using known
    by_cases same : other = id
    · rw [same, w.cycle_editCycle (same ▸ known')]
      exact admits
    · rw [w.cycle_editCycle_of_ne same]
      exact h.weather new known'
  live running := by
    obtain ⟨new, made⟩ := h.live running
    exact ⟨new, made.grows (w.grows_editCycle id make)⟩

/-- It stays so if there is one more cycle that satisfies the climate. -/
theorem addCycle {w : World γ} (h : w.Under C first) {c : Cycle} (admits : C.Admits c) :
    ({ w with cycles := w.cycles.push c } : World γ).Under C first where
  weather {id} young known := by
    have size : (w.cycles.push c).size = w.cycles.size + 1 := by simp
    by_cases old : id.number < w.cycles.size
    · have same : ({ w with cycles := w.cycles.push c } : World γ).cycle id = w.cycle id := by
        simp [Scene.cycle, Array.getElem?_push, Nat.ne_of_lt old]
      rw [same]
      exact h.weather young old
    · have last : id.number = w.cycles.size := by
        have : id.number < (w.cycles.push c).size := known
        omega
      have same : ({ w with cycles := w.cycles.push c } : World γ).cycle id = c := by
        simp [Scene.cycle, last]
      rw [same]
      exact admits
  live running := by
    obtain ⟨young, made⟩ := h.live running
    refine ⟨young, made.grows ⟨rfl, rfl, by simp, fun {id} known => ?_⟩⟩
    have same : ({ w with cycles := w.cycles.push c } : World γ).cycle id = w.cycle id := by
      simp [Scene.cycle, Array.getElem?_push, Nat.ne_of_lt known]
    rw [same]
    exact ⟨rfl, rfl, rfl⟩

/-- It stays so if the weather of a zone is started. -/
theorem start {w : World γ} (h : w.Under C first) (new : first ≤ w.cycles.size) {zone : Value}
    {table : SeasonTable} (chances : w.manager.chances? zone = some table) :
    (w.start zone table).Under C first where
  weather young known := (h.addCycle (C.fresh zone table _)).weather young known
  live running := by
    have made := World.madeFor_start chances
    rcases Table.mem_insert running with old | ⟨same, rfl⟩
    · obtain ⟨young, before⟩ := h.live old
      exact ⟨young, before.grows w.grows_start⟩
    · exact ⟨new, made.sameZone (Value.sameKey_symm (same made.self))⟩

end Scene.Under

namespace Climate.Prevails

variable {C : Climate} {start w w' : World γ}

/-- Where no weather is running, every climate prevails from then on. -/
theorem begin (idle : start.manager.live = .empty) : C.Prevails start start where
  size := le_rfl
  under := by
    refine ⟨fun new known => absurd known (not_lt.2 new), fun running => ?_⟩
    rw [idle] at running
    cases running
  record := ⟨[], [], .nothing rfl, .nothing rfl, by simp, by simp⟩

/-- What changes only the surroundings of the cycles does not matter to a climate. -/
theorem surroundings (h : C.Prevails start w) (cycles : w'.cycles = w.cycles)
    (manager : w'.manager = w.manager) (history : w'.history = w.history)
    (sent : w'.sent = w.sent) :
    C.Prevails start w' where
  size := cycles ▸ h.size
  under := h.under.congr cycles (by rw [manager]) (by rw [manager]) (by simp [manager])
  record := by
    obtain ⟨ms, ds, adds, sends, past⟩ := h.record
    exact ⟨ms, ds, by rwa [World.Adds, history], by rwa [World.Sends, sent], past⟩

/-- Something happens, and if a packet is received it was sent before. -/
theorem emit (h : C.Prevails start w) {e : Event}
    (comes : ∀ ds, start.Sends ds w → e.ComesFrom ds) :
    C.Prevails start (w.emit e) where
  size := h.size
  under := h.under
  record := by
    obtain ⟨ms, ds, adds, sends, moments, proper⟩ := h.record
    refine ⟨ms ++ [⟨e, w.toScene⟩], ds, adds.trans (.emit w e), sends, fun m mem => ?_, proper⟩
    rcases List.mem_append.1 mem with before | now
    · exact moments m before
    · obtain rfl := List.mem_singleton.1 now
      exact ⟨h.under, comes ds sends⟩

/-- A cycle sends its weather. -/
theorem dispatch (h : C.Prevails start w) {id : CycleId} (since : start.Since w id)
    (receiver : Receiver) (clamped : ∀ {zone}, receiver = .zone zone →
      zone = (w.cycle id).zone ∧ ∃ c : Cycle, w.cycle id = c.clamp) :
    C.Prevails start (w.dispatch id receiver (w.cycle id).packet) where
  size := h.size
  under := h.under
  record := by
    obtain ⟨ms, ds, adds, sends, moments, proper⟩ := h.record
    refine ⟨ms, _, adds, sends.trans (.dispatch w id receiver _), fun m mem => ?_, fun d mem => ?_⟩
    · obtain ⟨under, comes⟩ := moments m mem
      exact ⟨under, comes.mono fun d there => List.mem_append_left _ there⟩
    · rcases List.mem_append.1 mem with before | now
      · exact proper d before
      · obtain rfl := List.mem_singleton.1 now
        exact ⟨since.1, since.2, h.under, rfl, clamped⟩

/-- A cycle changes, and satisfies the climate afterwards. -/
theorem editCycle (h : C.Prevails start w) (id : CycleId) {f : Cycle → Cycle}
    (make : ∀ c, Cycle.SameMake c (f c)) (admits : C.Admits (f (w.cycle id))) :
    C.Prevails start (w.editCycle id f) where
  size := by simpa using h.size
  under := h.under.editCycle id make admits
  record := h.record

/-- The weather of a zone is started. -/
theorem started (h : C.Prevails start w) {zone : Value} {table : SeasonTable}
    (chances : w.manager.chances? zone = some table) : C.Prevails start (w.start zone table) where
  size := h.size.trans (by simp [World.start])
  under := h.under.start h.size chances
  record := by
    obtain ⟨ms, ds, adds, sends, moments, proper⟩ := h.record
    let new : Cycle :=
      { zone := zone, table := some table,
        timer := { interval := w.manager.config.changeInterval } }
    have kept : Scene.Under ({ w with cycles := w.cycles.push new } : World γ).toScene C _ :=
      h.under.addCycle (C.fresh zone table _)
    refine ⟨_, ds, adds.trans (.emit { w with cycles := w.cycles.push new } _), sends,
      fun m mem => ?_, proper⟩
    rcases List.mem_append.1 mem with before | now
    · exact moments m before
    · obtain rfl := List.mem_singleton.1 now
      exact ⟨kept, trivial⟩

/-- Weather is stopped or dropped. -/
theorem erased (h : C.Prevails start w) {d : Deed} {zone : Value}
    (erases : ∀ live : Table CycleId, d.apply live = live.erase zone) :
    C.Prevails start (w.carryOut d) where
  size := h.size
  under := by
    refine h.under.congr rfl rfl rfl fun e mem => ?_
    rw [World.toScene_carryOut, erases] at mem
    exact Table.mem_of_mem_erase mem
  record := h.record

/-- The weather that a cycle started since has. -/
theorem admits (h : C.Prevails start w) {id : CycleId} (since : start.Since w id) :
    C.Admits (w.cycle id) :=
  h.under.weather since.1 since.2

end Climate.Prevails

/-! ### Keeping a climate up -/

/-- **A change keeps a climate up** from a world on: it prevails afterwards, whether the change
returns or fails. -/
def Sim.KeepsUp {α : Type} (x : Sim γ α) (C : Climate) (start w : World γ) : Prop :=
  x.Ends w (fun _ w' => C.Prevails start w') fun _ w' => C.Prevails start w'

namespace Sim.KeepsUp

variable {α β : Type} {C : Climate} {start w : World γ}

theorem pure {a : α} (h : C.Prevails start w) : (pure a : Sim γ α).KeepsUp C start w := h

theorem throw {f : Fault} (h : C.Prevails start w) : (throw f : Sim γ α).KeepsUp C start w := h

theorem bind {x : Sim γ α} {f : α → Sim γ β} (hx : x.KeepsUp C start w)
    (hf : ∀ a w', C.Prevails start w' → (f a).KeepsUp C start w') :
    (x >>= f).KeepsUp C start w := by
  rw [KeepsUp, ends_bind]
  exact hx.mono hf fun _ _ failed => failed

theorem forM {f : α → Sim γ PUnit} (l : List α) (h : C.Prevails start w)
    (hf : ∀ a ∈ l, ∀ w', C.Prevails start w' → (f a).KeepsUp C start w') :
    (l.forM f).KeepsUp C start w := by
  induction l generalizing w with
  | nil => exact h
  | cons a rest ih =>
    exact bind (hf a (by simp) w h) fun _ _ after => ih after fun b mem => hf b (by simp [mem])

theorem map {x : Sim γ α} {f : α → β} (hx : x.KeepsUp C start w) : (f <$> x).KeepsUp C start w := by
  rw [KeepsUp, ends_map]
  exact hx

end Sim.KeepsUp

/-! ### Draws -/

/-- Nothing changes but what has happened, and a climate prevails as before. -/
structure Climate.Quiet (C : Climate) (start w w' : World γ) : Prop where
  scene : w'.toScene = w.toScene
  prevails : C.Prevails start w → C.Prevails start w'

/-- The contract of changing nothing. -/
def Contract.quiet (C : Climate) (start : World γ) : Contract γ :=
  .always (C.Quiet start) (fun _ => ⟨rfl, id⟩) fun h h' =>
    ⟨h'.scene.trans h.scene, h'.prevails ∘ h.prevails⟩

theorem Event.IsRoll.comesFrom {e : Event} (h : e.IsRoll) (ds : List Dispatch) :
    e.ComesFrom ds := by
  cases e with
  | packet observer p => exact h.elim
  | handed zone p reached => exact h.elim
  | _ => trivial

section Draws

variable (C : Climate) (start : World γ)

theorem Sim.draw_quiet {α : Type} (owner : Owner) (d : EStateM Fault γ α)
    (event : Option α → Event) (roll : ∀ a, (event a).IsRoll) :
    (Sim.draw owner d event).Keeps (.quiet C start) := by
  intro w
  have drawn (g : γ) (a : Option α) : C.Quiet start w ((w.setSource owner g).emit (event a)) := by
    refine ⟨by simp, fun h => Climate.Prevails.emit ?_ fun ds _ => (roll a).comesFrom ds⟩
    cases owner <;> exact h.surroundings rfl rfl rfl rfl
  rw [Sim.ends_draw]
  cases d (w.source owner) with
  | ok a g => exact drawn g (some a)
  | error f g => exact drawn g none

theorem Sim.dayOfYear_quiet : (Sim.dayOfYear : Sim γ Int).Keeps (.quiet C start) := by
  refine .bind .get fun w => ?_
  cases w.clock.dayOfYear with
  | ok day => exact .pure _
  | error f => exact .throw fun _ => ⟨rfl, id⟩

variable [RandomSource γ]

theorem Sim.integer_quiet (low high : Int) : (Sim.integer low high).Keeps (.quiet C start) :=
  .bind .get fun _ => draw_quiet C start _ _ _ fun _ => trivial

theorem HalfNormal.draw_quiet : HalfNormal.draw.Keeps (.quiet C start) :=
  draw_keeps (fun _ _ => .bind .get fun _ => Sim.draw_quiet C start _ _ _ fun _ => trivial)
    fun _ => ⟨rfl, id⟩

theorem CycleId.newIntensity_quiet (radical : Bool) :
    (newIntensity radical).Keeps (.quiet C start) := by
  have draw := HalfNormal.draw_quiet C start
  refine .ite (.bind draw fun _ => .pure _) (.bind (Sim.integer_quiet C start _ _) fun n => ?_)
  exact .ite (.bind draw fun _ => .pure _) (.bind draw fun _ => .pure _)

end Draws

section Answers

variable [RandomSource γ]

/-- An intensity that is drawn lies between 0 and 1. -/
theorem HalfNormal.draw_inUnit : (draw : Sim γ Float).Yields InUnit := by
  have within (tries : Nat) : (drawWithin tries : Sim γ Float).Yields InUnit := by
    induction tries with
    | zero => exact .throw _
    | succ tries ih =>
      refine .bind (.any _) fun x _ w => ?_
      rw [Sim.ends_ite]
      split
      next below => exact inUnit_abs below
      next => exact ih w
  exact .bind (.any _) fun _ _ => within _

/-- So does the intensity of new weather. -/
theorem CycleId.newIntensity_inUnit (radical : Bool) :
    (newIntensity radical : Sim γ Float).Yields InUnit := by
  refine .ite (.bind HalfNormal.draw_inUnit fun x h => .pure h.scaled) ?_
  refine .bind (.any _) fun n _ => .ite ?_ ?_
  · exact .bind HalfNormal.draw_inUnit fun x h => .pure h.scaled_add_third
  · exact .bind HalfNormal.draw_inUnit fun x h => .pure h.scaled_add_twoThirds

theorem Climate.Fed.rolled {C : Climate} (fed : C.Fed γ) :
    (Sim.integer 1 100 : Sim γ Int).Yields C.Rolled := by
  intro w
  rw [Sim.integer, Sim.ends_bind, Sim.ends_get, Sim.integerOf, Sim.ends_draw]
  split
  next n g' drawn => exact fed _ _ _ drawn
  next => trivial

end Answers

/-! ### Rolling the weather -/

namespace CycleId

variable [RandomSource γ] {C : Climate} {start w : World γ} {id : CycleId}

omit [RandomSource γ] in
/-- Giving a cycle some weather that satisfies the climate. -/
theorem become_prevails (h : C.Prevails start w) {kind : WeatherKind} {x : Float}
    (admits : C.Admits ((w.cycle id).withWeather kind x)) :
    (id.become kind x).KeepsUp C start w :=
  h.editCycle id (fun _ => ⟨rfl, rfl, rfl⟩) admits

/-- Selecting new weather where it was fine. -/
theorem selectWeather_prevails (fed : C.Fed γ) (h : C.Prevails start w) (since : start.Since w id)
    (fine : (w.cycle id).kind = .fine) {table : SeasonTable}
    (made : (w.cycle id).table = some table)
    (season : Season) (radical : Bool) :
    (id.selectWeather (table.chances season) radical).KeepsUp C start w := by
  rw [Sim.KeepsUp, selectWeather, Sim.ends_bind]
  refine ((Sim.integer_quiet C start 1 100 w).and (fed.rolled w)).mono
    (fun n w₁ ends => ?_) fun _ _ failed => failed.1.prevails h
  obtain ⟨drawn, rolled⟩ := ends
  have same : w₁.cycle id = w.cycle id := by rw [drawn.scene]
  have since₁ := since.of_scene drawn.scene
  generalize chosen : (table.chances season).select n = kind
  have selected := (drawn.prevails h).editCycle id (f := fun c => { c with kind := kind })
    (fun _ => ⟨rfl, rfl, rfl⟩) <| chosen ▸ C.selects season ((drawn.prevails h).admits since₁)
      (same ▸ fine) (same ▸ made) rolled
  have now := w₁.cycle_editCycle since₁.2 fun c => { c with kind := kind }
  have since₂ := since₁.editCycle id fun c => { c with kind := kind }
  rw [Sim.ends_bind, Sim.ends_editCycle, Sim.ends_ite]
  generalize w₁.editCycle id (fun c => { c with kind := kind }) = w₂ at selected now since₂
  split
  next clear =>
    subst clear
    exact become_prevails selected (C.clears (selected.admits since₂))
  next unclear =>
    rw [Sim.ends_bind]
    refine ((newIntensity_quiet C start radical w₂).and (newIntensity_inUnit radical w₂)).mono
      (fun x w₃ ends => ?_) fun _ _ failed => failed.1.prevails selected
    obtain ⟨drawn, unit⟩ := ends
    have kept : (w₃.cycle id).kind = kind := by rw [drawn.scene, now]
    have after := drawn.prevails selected
    refine become_prevails after (kept ▸ C.settles ?_ ?_ unit)
    · exact after.admits (since₂.of_scene drawn.scene)
    · rwa [kept]

/-- A cycle has changed without a selection: brought into the range that is broadcast, it satisfies
the climate. -/
def Changed (C : Climate) (start : World γ) (id : CycleId) (w : World γ) : Prop :=
  C.Prevails start (w.editCycle id Cycle.clamp)

omit [RandomSource γ] in
/-- Changing the weather without a selection. -/
theorem become_changed (h : C.Prevails start w) (since : start.Since w id)
    (unclear : (w.cycle id).kind ≠ .fine) {x : Float}
    (change : x = (w.cycle id).intensity - third ∨ x = (w.cycle id).intensity + third ∨
      x = Cycle.maxIntensity ∨ x = (w.cycle id).intensity - twoThirds) :
    (id.become (w.cycle id).kind x).Ends w (fun _ w' => Changed C start id w')
      fun _ _ => False := by
  have edited := h.editCycle id (f := fun c => (c.withWeather (w.cycle id).kind x).clamp)
    (fun _ => ⟨rfl, rfl, rfl⟩) (C.changes (h.admits since) unclear change)
  rw [become, Sim.ends_editCycle, Changed, World.editCycle_editCycle]
  exact edited

/-- A radical change either is made, or is left to a selection. -/
theorem changeRadically_prevails (h : C.Prevails start w) (since : start.Since w id)
    (unclear : (w.cycle id).kind ≠ .fine) :
    (id.changeRadically (w.cycle id)).Ends w
      (fun done w' => if done then Changed C start id w' else
        C.Prevails start w' ∧ start.Since w' id ∧ w'.cycle id = w.cycle id)
      fun _ w' => C.Prevails start w' := by
  rw [changeRadically, Sim.ends_ite]
  split
  · rw [Sim.ends_bind]
    refine (become_changed h since unclear (.inr (.inr (.inl rfl)))).mono (fun _ w' changed => ?_)
      fun _ _ => False.elim
    rw [Sim.ends_pure, if_pos rfl]
    exact changed
  · rw [Sim.ends_ite]
    split
    · rw [Sim.ends_bind]
      refine (Sim.integer_quiet C start 0 99 w).mono (fun n w₁ drawn => ?_)
        fun _ _ failed => failed.prevails h
      have same : w₁.cycle id = w.cycle id := by rw [drawn.scene]
      have since₁ := since.of_scene drawn.scene
      rw [Sim.ends_ite, ← same]
      split
      · rw [Sim.ends_bind]
        refine (become_changed (drawn.prevails h) since₁ (same ▸ unclear)
          (.inr (.inr (.inr rfl)))).mono (fun _ w' changed => ?_) fun _ _ => False.elim
        rw [Sim.ends_pure, if_pos rfl]
        exact changed
      · exact ⟨drawn.prevails h, since₁, rfl⟩
    · exact ⟨h, since, rfl⟩

/-- Changing the weather as far as the first roll allows: a change without a selection is made only
of weather that is not fine, and what is left to a selection is fine. -/
theorem changeWeather_prevails (h : C.Prevails start w) (since : start.Since w id) (roll : Int) :
    (id.changeWeather roll).Ends w
      (fun done w' => if done then (w.cycle id).kind ≠ .fine ∧ Changed C start id w' else
        C.Prevails start w' ∧ start.Since w' id ∧ (w'.cycle id).kind = .fine ∧
          (w'.cycle id).table = (w.cycle id).table)
      fun _ w' => C.Prevails start w' := by
  -- weather that is cleared is left to a selection
  have cleared {v : World γ} (h : C.Prevails start v) (since : start.Since v id)
      (same : v.cycle id = w.cycle id) :
      let v' := v.editCycle id (·.withWeather .fine 0.0)
      C.Prevails start v' ∧ start.Since v' id ∧ (v'.cycle id).kind = .fine ∧
        (v'.cycle id).table = (w.cycle id).table := by
    have now := v.cycle_editCycle since.2 (·.withWeather .fine 0.0)
    refine ⟨h.editCycle id (fun _ => ⟨rfl, rfl, rfl⟩) (C.clears (h.admits since)),
      since.editCycle id _, ?_, ?_⟩
    · rw [now]
      rfl
    · rw [now, ← same]
      rfl
  rw [changeWeather, Sim.ends_bind, Sim.ends_cycle, Sim.ends_ite]
  split
  · obtain ⟨prevails, since', fine, table⟩ := cleared h since rfl
    rw [Sim.ends_bind, become, Sim.ends_editCycle, Sim.ends_bind, Sim.ends_cycle, if_pos fine,
      Sim.ends_pure, if_neg Bool.false_ne_true]
    exact ⟨prevails, since', fine, table⟩
  · rw [Sim.ends_bind, Sim.ends_cycle]
    by_cases fine : (w.cycle id).kind = .fine
    · rw [if_pos fine, Sim.ends_pure, if_neg Bool.false_ne_true]
      exact ⟨h, since, fine, rfl⟩
    · -- every change without a selection is made in the same way
      have change {x : Float} (change : x = (w.cycle id).intensity - third ∨
          x = (w.cycle id).intensity + third ∨ x = Cycle.maxIntensity ∨
            x = (w.cycle id).intensity - twoThirds) :
          (do id.become (w.cycle id).kind x; return true : Sim γ Bool).Ends w
            (fun done w' => if done then (w.cycle id).kind ≠ .fine ∧ Changed C start id w' else
              C.Prevails start w' ∧ start.Since w' id ∧ (w'.cycle id).kind = .fine ∧
                (w'.cycle id).table = (w.cycle id).table)
            fun _ w' => C.Prevails start w' := by
        rw [Sim.ends_bind]
        refine (become_changed h since fine change).mono (fun _ w' changed => ?_)
          fun _ _ => False.elim
        rw [Sim.ends_pure, if_pos rfl]
        exact ⟨fine, changed⟩
      rw [if_neg fine, Sim.ends_ite, Sim.ends_ite]
      split
      · exact change (.inl rfl)
      split
      · exact change (.inr (.inl rfl))
      rw [Sim.ends_bind]
      refine (changeRadically_prevails h since fine).mono (fun done w' changed => ?_)
        fun _ _ failed => failed
      cases done with
      | true =>
        rw [if_pos rfl] at changed ⊢
        rw [Sim.ends_pure, if_pos rfl]
        exact ⟨fine, changed⟩
      | false =>
        rw [if_neg Bool.false_ne_true] at changed ⊢
        rw [Sim.ends_bind, become, Sim.ends_editCycle, Sim.ends_pure, if_neg Bool.false_ne_true]
        exact cleared changed.1 changed.2.1 changed.2.2

/-- **Rolling the next weather keeps a climate up**, but for a change without a selection. Once the
cycle is brought back into the range that is broadcast, the climate prevails in any case. -/
theorem regenerate_prevails (fed : C.Fed γ) (h : C.Prevails start w) (since : start.Since w id) :
    id.regenerate.Ends w
      (fun changed w' => Changed C start id w' ∧
        (changed = false ∨ (w.cycle id).kind = .fine → C.Prevails start w'))
      fun _ w' => C.Prevails start w' := by
  -- what satisfies the climate does so when it is brought into the range
  have unchanged {v : World γ} (h : C.Prevails start v) (since : start.Since v id) (p : Prop) :
      Changed C start id v ∧ (p → C.Prevails start v) :=
    ⟨h.editCycle id (fun _ => ⟨rfl, rfl, rfl⟩) (C.clamps (h.admits since)), fun _ => h⟩
  cases made : (w.cycle id).table with
  | none =>
    have cleared := h.editCycle id (f := (·.withWeather .fine 0.0)) (fun _ => ⟨rfl, rfl, rfl⟩)
      (C.clears (h.admits since))
    rw [ends_regenerate_of_none made]
    exact unchanged cleared (since.editCycle id _) _
  | some table =>
    rw [ends_regenerate made]
    refine (Sim.integer_quiet C start 0 99 w).mono (fun roll w₁ drawn => ?_)
      fun _ _ failed => failed.prevails h
    have since₁ := since.of_scene drawn.scene
    split
    · exact unchanged (drawn.prevails h) since₁ _
    refine (Sim.dayOfYear_quiet C start w₁).mono (fun day w₂ shown => ?_)
      fun _ _ failed => failed.prevails (drawn.prevails h)
    have since₂ := since₁.of_scene shown.scene
    have same : w₂.cycle id = w.cycle id := by rw [shown.scene, drawn.scene]
    have prevails := shown.prevails (drawn.prevails h)
    have logged := prevails.emit (e := .logged (.generating (.ofDay day) (w.cycle id).zone))
      fun _ _ => trivial
    refine (changeWeather_prevails logged (since₂.of_scene rfl) roll).mono
      (fun done w₃ changed => ?_) fun _ _ failed => failed
    cases done with
    | true =>
      rw [if_pos rfl] at changed ⊢
      have unclear : (w.cycle id).kind ≠ .fine := same ▸ changed.1
      exact ⟨changed.2, fun fine => absurd (fine.resolve_left Bool.false_ne_true.symm) unclear⟩
    | false =>
      rw [if_neg Bool.false_ne_true] at changed ⊢
      obtain ⟨left, since₃, fine, kept⟩ := changed
      have made₃ : (w₃.cycle id).table = some table := by
        rw [kept, ← made, ← same]
        rfl
      have selecting := selectWeather_prevails fed left since₃ fine made₃ (.ofDay day) (90 ≤ roll)
      refine (selecting.and (selectWeather_keeps (Contract.letsRoll_touching id) _ _ w₃)).mono
        (fun _ w₄ ends => ?_) fun _ _ failed => failed.1
      obtain ⟨selected, touched⟩ := ends
      exact unchanged selected ⟨since₃.1, touched.size.symm ▸ since₃.2⟩ _

end CycleId

end Microclimate
