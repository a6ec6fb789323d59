import Microclimate.Proofs.Steps
import Microclimate.Proofs.Tables
import Microclimate.Proofs.Views

/-!
# The register of running cycles

A manager keeps a register of running cycles by zone. Whatever is asked of the world, from outside
or by the actors whom it calls, the register stays in order: no zone and no cycle is entered twice,
and every cycle was made for the zone under which it runs. What becomes of the register meanwhile is
the story that the ledger tells, deed by deed.

The register alone does not say why a cycle is dropped. An update drops whatever runs under a zone
when the cycle that ran there **at its beginning** reports that nobody was reached, and by then the
actors may have started another one. So all that is true of a report is that it takes out the
reporter or a cycle that is younger than the update, and the story carries that along.

* `Microclimate.Scene.Registered` – the register is in order;
* `Microclimate.World.Story` – what a list of deeds tells about how one world came from another;
* `Microclimate.Contract.orderly` – **from an orderly register on, every operation leaves one, and
  has a story**;
* `Microclimate.Reachable` – the worlds that can be reached from one in which no weather is running,
  with `Microclimate.Reachable.registered`.
-/

namespace Microclimate

variable {γ : Type}

/-! ### An orderly register -/

/-- A cycle was made for a zone: by the chances of the zone and by the configuration. -/
structure Scene.MadeFor (s : Scene) (zone : Value) (id : CycleId) : Prop where
  known : id.number < s.cycles.size
  place : (s.cycle id).zone.sameKey zone = true
  table : (s.cycle id).table = s.manager.chances? zone
  chances : (s.manager.chances? zone).isSome
  interval : (s.cycle id).timer.interval = s.manager.config.changeInterval

/-- **The register is in order**: no zone has two entries and no cycle has two, and every cycle was
made for the zone under which it is entered. -/
structure Scene.Registered (s : Scene) : Prop where
  distinct : s.manager.live.Distinct
  ids : s.manager.live.values.Nodup
  made : ∀ {zone id}, (zone, id) ∈ s.manager.live.entries → s.MadeFor zone id

/-- A scene goes on to another one: what the manager was made with stays, and so does what the
cycles were made with, of which there can only be more. -/
structure Scene.Grows (s s' : Scene) : Prop where
  data : s'.manager.data = s.manager.data
  config : s'.manager.config = s.manager.config
  size : s.cycles.size ≤ s'.cycles.size
  make : ∀ {id : CycleId}, id.number < s.cycles.size → (s.cycle id).SameMake (s'.cycle id)

namespace Scene

/-- A scene goes on if its cycles stay as they are. -/
theorem Grows.of_cycles {s s' : Scene} (data : s'.manager.data = s.manager.data)
    (config : s'.manager.config = s.manager.config) (cycles : s'.cycles = s.cycles) :
    s.Grows s' where
  data := data
  config := config
  size := Nat.le_of_eq (congrArg Array.size cycles.symm)
  make _ := by
    simp only [cycle, cycles]
    exact ⟨rfl, rfl, rfl⟩

theorem Grows.refl (s : Scene) : s.Grows s := .of_cycles rfl rfl rfl

theorem Grows.trans {a b c : Scene} (h : a.Grows b) (h' : b.Grows c) : a.Grows c where
  data := h'.data.trans h.data
  config := h'.config.trans h.config
  size := Nat.le_trans h.size h'.size
  make known := by
    have first := h.make known
    have second := h'.make (Nat.lt_of_lt_of_le known h.size)
    exact ⟨second.zone.trans first.zone, second.table.trans first.table,
      second.interval.trans first.interval⟩

theorem Grows.chances? {s s' : Scene} (h : s.Grows s') (zone : Value) :
    s'.manager.chances? zone = s.manager.chances? zone := by
  rw [Manager.chances?, h.data, Manager.chances?]

theorem MadeFor.grows {s s' : Scene} {zone : Value} {id : CycleId} (h : s.MadeFor zone id)
    (g : s.Grows s') : s'.MadeFor zone id := by
  have make := g.make h.known
  constructor
  · exact Nat.lt_of_lt_of_le h.known g.size
  · rw [make.zone]
    exact h.place
  · rw [make.table, g.chances?]
    exact h.table
  · rw [g.chances?]
    exact h.chances
  · rw [make.interval, g.config]
    exact h.interval

theorem MadeFor.sameZone {s : Scene} {zone zone' : Value} {id : CycleId} (h : s.MadeFor zone id)
    (same : zone.sameKey zone' = true) : s.MadeFor zone' id := by
  have chances : s.manager.chances? zone' = s.manager.chances? zone :=
    (s.manager.data.find?_congr same).symm
  exact ⟨h.known, Value.sameKey_trans h.place same, by rw [chances]; exact h.table,
    by rw [chances]; exact h.chances, h.interval⟩

theorem MadeFor.self {s : Scene} {zone : Value} {id : CycleId} (h : s.MadeFor zone id) :
    zone.sameKey zone = true :=
  Table.sameKey_refl_of h.place

/-- A running cycle is found under the zone for which it was made. -/
theorem Registered.find?_of_mem {s : Scene} (h : s.Registered) {zone : Value} {id : CycleId}
    (mem : (zone, id) ∈ s.manager.live.entries) : s.manager.find? zone = some id :=
  h.distinct.find?_of_mem mem (h.made mem).self

/-- A cycle is entered once. -/
theorem Registered.once {s : Scene} (h : s.Registered) {before after : List (Value × CycleId)}
    {zone : Value} {id : CycleId} (live : s.manager.live.entries = before ++ (zone, id) :: after) :
    ∀ e ∈ before ++ after, e.2 ≠ id := by
  have ids := h.ids
  rw [Table.values, live, List.map_append, List.map_cons, List.perm_middle.nodup_iff,
    ← List.map_append, List.nodup_cons] at ids
  intro e mem same
  exact ids.1 (List.mem_map.2 ⟨e, mem, same⟩)

theorem Registered.madeFor {s : Scene} (h : s.Registered) {zone : Value} {id : CycleId}
    (found : s.manager.find? zone = some id) : s.MadeFor zone id := by
  obtain ⟨k, mem, same⟩ := Table.mem_of_find? found
  exact (h.made mem).sameZone same

/-- The register stays in order if nothing is done to it. -/
theorem Registered.grows {s s' : Scene} (h : s.Registered) (g : s.Grows s')
    (live : s'.manager.live = s.manager.live) : s'.Registered := by
  constructor
  · rw [live]
    exact h.distinct
  · rw [live]
    exact h.ids
  · intro zone id mem
    rw [live] at mem
    exact (h.made mem).grows g

/-- The register stays in order if a cycle is taken out. -/
theorem Registered.erase {s s' : Scene} (h : s.Registered) (g : s.Grows s') {zone : Value}
    (live : s'.manager.live = s.manager.live.erase zone) : s'.Registered := by
  constructor
  · rw [live]
    exact h.distinct.erase zone
  · rw [live]
    exact Table.nodup_values_erase h.ids zone
  · intro k id mem
    rw [live] at mem
    exact (h.made (Table.mem_of_mem_erase mem)).grows g

/-- The register stays in order if a new cycle is entered that was made for its zone. -/
theorem Registered.insert {s s' : Scene} (h : s.Registered) (g : s.Grows s') {zone : Value}
    {id : CycleId} (live : s'.manager.live = s.manager.live.insert zone id)
    (new : s.cycles.size ≤ id.number) (made : s'.MadeFor zone id) : s'.Registered := by
  -- a new cycle has a number that no cycle in the register has
  have absent : id ∉ s.manager.live.values := by
    intro mem
    obtain ⟨⟨k, _⟩, entry, rfl⟩ := List.mem_map.1 mem
    exact absurd (h.made entry).known (Nat.not_lt.2 new)
  constructor
  · rw [live]
    exact h.distinct.insert zone id
  · rw [live]
    exact Table.nodup_values_insert h.ids zone absent
  · intro k other mem
    rw [live] at mem
    rcases Table.mem_insert mem with old | ⟨same, rfl⟩
    · exact (h.made old).grows g
    · exact made.sameZone (Value.sameKey_symm (same made.self))

end Scene

/-! ### Deeds -/

namespace Deed

/-- The running cycles once some deeds were done, one after the other. -/
def replay (deeds : List Deed) (live : Table CycleId) : Table CycleId :=
  deeds.foldl (fun live d => d.apply live) live

/-- The cycle that is started. -/
def starts? : Deed → Option CycleId
  | start _ id => some id
  | _ => none

/-- The cycles that are started by some deeds. -/
def started (deeds : List Deed) : List CycleId := deeds.filterMap starts?

/-- A deed is fair to the cycles numbered below `old`: none of them is dropped on the report of
another cycle. -/
def Fair (old : Nat) (live : Table CycleId) : Deed → Prop
  | drop zone reporter => ∀ id, live.find? zone = some id → id = reporter ∨ old ≤ id.number
  | _ => True

/-- Some deeds, done one after the other, are all fair. -/
def AllFair (old : Nat) : Table CycleId → List Deed → Prop
  | _, [] => True
  | live, d :: rest => d.Fair old live ∧ AllFair old (d.apply live) rest

theorem replay_append (ds es : List Deed) (live : Table CycleId) :
    replay (ds ++ es) live = replay es (replay ds live) :=
  List.foldl_append

theorem AllFair.mono {old older : Nat} (le : older ≤ old) {live : Table CycleId} {ds : List Deed}
    (h : AllFair old live ds) : AllFair older live ds := by
  induction ds generalizing live with
  | nil => trivial
  | cons d rest ih =>
    refine ⟨?_, ih h.2⟩
    cases d with
    | drop zone reporter =>
      intro id found
      exact (h.1 id found).imp_right (Nat.le_trans le)
    | start zone id => trivial
    | stop zone => trivial

theorem AllFair.append {old : Nat} {live : Table CycleId} {ds es : List Deed}
    (h : AllFair old live ds) (h' : AllFair old (replay ds live) es) :
    AllFair old live (ds ++ es) := by
  induction ds generalizing live with
  | nil => exact h'
  | cons d rest ih => exact ⟨h.1, ih h.2 h'⟩

/-- Who is running after some deeds was running before, or was started by them. -/
theorem mem_replay {deeds : List Deed} {live : Table CycleId} {e : Value × CycleId}
    (h : e ∈ (replay deeds live).entries) : e ∈ live.entries ∨ e.2 ∈ started deeds := by
  induction deeds generalizing live with
  | nil => exact .inl h
  | cons d rest ih =>
    rcases ih h with before | later
    · cases d with
      | start zone id =>
        rcases Table.mem_insert before with old | ⟨-, rfl⟩
        · exact .inl old
        · exact .inr (by simp [started, starts?])
      | stop zone => exact .inl (Table.mem_of_mem_erase before)
      | drop zone reporter => exact .inl (Table.mem_of_mem_erase before)
    · obtain ⟨d', mem, starts⟩ := List.mem_filterMap.1 later
      exact .inr (List.mem_filterMap.2 ⟨d', List.mem_cons_of_mem _ mem, starts⟩)

end Deed

/-! ### Stories -/

/-- **What a list of deeds tells** about how the world `w'` came from the world `w`. The ledger grew
by these deeds, and the running cycles are what they make of those before; whatever they start is
new, and they are fair to the cycles that are not. -/
structure World.Story (w : World γ) (deeds : List Deed) (w' : World γ) : Prop
    extends Scene.Grows w.toScene w'.toScene where
  ledger : w'.ledger.toList = w.ledger.toList ++ deeds
  live : w'.manager.live = Deed.replay deeds w.manager.live
  fresh : ∀ {id}, id ∈ Deed.started deeds →
    w.cycles.size ≤ id.number ∧ id.number < w'.cycles.size
  once : (Deed.started deeds).Nodup
  fair : Deed.AllFair w.cycles.size w.manager.live deeds

namespace World.Story

/-- Nothing was done. -/
theorem nothing {w w' : World γ} (grows : Scene.Grows w.toScene w'.toScene)
    (ledger : w'.ledger = w.ledger) (live : w'.manager.live = w.manager.live) : w.Story [] w' where
  toGrows := grows
  ledger := by simp [ledger]
  live := live
  fresh mem := by simp [Deed.started] at mem
  once := .nil
  fair := trivial

theorem refl (w : World γ) : w.Story [] w := nothing (.refl _) rfl rfl

theorem trans {a b c : World γ} {ds es : List Deed} (h : a.Story ds b) (h' : b.Story es c) :
    a.Story (ds ++ es) c where
  toGrows := h.toGrows.trans h'.toGrows
  ledger := by rw [h'.ledger, h.ledger, List.append_assoc]
  live := by rw [h'.live, h.live, Deed.replay_append]
  fresh {id} mem := by
    have first := h.size
    have second := h'.size
    rw [Deed.started, List.filterMap_append, List.mem_append] at mem
    rcases mem with early | late
    · exact ⟨(h.fresh early).1, Nat.lt_of_lt_of_le (h.fresh early).2 second⟩
    · exact ⟨Nat.le_trans first (h'.fresh late).1, (h'.fresh late).2⟩
  once := by
    rw [Deed.started, List.filterMap_append, List.nodup_append]
    refine ⟨h.once, h'.once, ?_⟩
    rintro id early _ late rfl
    exact absurd (h.fresh early).2 (Nat.not_lt.2 (h'.fresh late).1)
  fair := h.fair.append (by
    rw [← h.live]
    exact h'.fair.mono h.size)

/-- A cycle that was known before and is running was running before, under the same entry. -/
theorem mem_of_known {w w' : World γ} {deeds : List Deed} (h : w.Story deeds w') {zone : Value}
    {id : CycleId} (mem : (zone, id) ∈ w'.manager.live.entries)
    (known : id.number < w.cycles.size) :
    (zone, id) ∈ w.manager.live.entries := by
  rw [h.live] at mem
  rcases Deed.mem_replay mem with before | started
  · exact before
  · exact absurd known (Nat.not_lt.2 (h.fresh started).1)

end World.Story

/-! ### The contract of the register -/

/-- A world goes on in an orderly way: from an orderly register to one, and there is a story. -/
def World.Proceeds (w w' : World γ) : Prop :=
  w.Registered → w'.Registered ∧ ∃ deeds, w.Story deeds w'

namespace World

theorem cycle_start_of_known {w : World γ} {zone : Value} {table : SeasonTable} {id : CycleId}
    (known : id.number < w.cycles.size) : (w.start zone table).cycle id = w.cycle id := by
  simp [Scene.cycle, start, Array.getElem?_push, Nat.ne_of_lt known]

theorem cycle_start_self (w : World γ) (zone : Value) (table : SeasonTable) :
    (w.start zone table).cycle ⟨w.cycles.size⟩ =
      { zone := zone, table := some table,
        timer := { interval := w.manager.config.changeInterval } } := by
  simp [Scene.cycle, start]

/-- What happens when the weather of a zone is started: it is logged, once there is the cycle. -/
theorem adds_start (w : World γ) (zone : Value) (table : SeasonTable) :
    let interval := w.manager.config.changeInterval
    let cycle : Cycle := { zone := zone, table := some table, timer := { interval := interval } }
    w.Adds [⟨.logged (.starting zone interval), { w.toScene with cycles := w.cycles.push cycle }⟩]
      (w.start zone table) := by
  simp [Adds, start]

theorem grows_start (w : World γ) {zone : Value} {table : SeasonTable} :
    Scene.Grows w.toScene (w.start zone table).toScene := by
  refine ⟨rfl, rfl, by simp [start], fun {id} known => ?_⟩
  rw [cycle_start_of_known known]
  exact ⟨rfl, rfl, rfl⟩

theorem grows_editCycle (w : World γ) (id : CycleId) {f : Cycle → Cycle}
    (make : ∀ c, Cycle.SameMake c (f c)) : Scene.Grows w.toScene (w.editCycle id f).toScene := by
  refine ⟨rfl, rfl, by simp, fun {other} known => ?_⟩
  by_cases same : other = id
  · rw [same, w.cycle_editCycle (same ▸ known)]
    exact make _
  · rw [w.cycle_editCycle_of_ne same]
    exact ⟨rfl, rfl, rfl⟩

/-- The cycle with which the weather of a zone is started was made for the zone. -/
theorem madeFor_start {w : World γ} {zone : Value} {table : SeasonTable}
    (chances : w.manager.chances? zone = some table) :
    (w.start zone table).MadeFor zone ⟨w.cycles.size⟩ := by
  constructor
  · simp [start]
  · rw [cycle_start_self]
    exact Table.sameKey_self_of_find? chances
  · rw [cycle_start_self, w.grows_start.chances?, chances]
  · rw [w.grows_start.chances?, chances]
    rfl
  · rw [cycle_start_self]
    rfl

end World

namespace World.Proceeds

theorem refl (w : World γ) : w.Proceeds w := fun h => ⟨h, [], .refl w⟩

theorem trans {a b c : World γ} (h : a.Proceeds b) (h' : b.Proceeds c) : a.Proceeds c := by
  intro registered
  obtain ⟨between, ds, first⟩ := h registered
  obtain ⟨after, es, second⟩ := h' between
  exact ⟨after, ds ++ es, first.trans second⟩

/-- A world goes on in an orderly way if nothing is done to the register and no cycle loses what it
was made with. -/
theorem of_grows {w w' : World γ} (grows : Scene.Grows w.toScene w'.toScene)
    (ledger : w'.ledger = w.ledger) (live : w'.manager.live = w.manager.live) : w.Proceeds w' :=
  fun h => ⟨h.grows grows live, [], .nothing grows ledger live⟩

/-- Taking out a cycle is orderly, if it is done on request, on its own report or late enough. -/
theorem of_erase {w : World γ} {d : Deed} {zone : Value}
    (erases : ∀ live : Table CycleId, d.apply live = live.erase zone) (starts : d.starts? = none)
    (fair : d.Fair w.cycles.size w.manager.live) : w.Proceeds (w.carryOut d) := by
  intro h
  have grows : Scene.Grows w.toScene (w.carryOut d).toScene := .of_cycles rfl rfl rfl
  refine ⟨h.erase grows (erases _), [d], grows, ?_, rfl, ?_, ?_, fair, trivial⟩
  · simp
  · simp [Deed.started, starts]
  · simp [Deed.started, starts]

/-- Starting the weather of a zone is orderly. -/
theorem of_start {w : World γ} {zone : Value} {table : SeasonTable}
    (chances : w.manager.chances? zone = some table) : w.Proceeds (w.start zone table) := by
  intro h
  have registered := h.insert w.grows_start rfl (Nat.le_refl _) (World.madeFor_start chances)
  refine ⟨registered, [.start zone ⟨w.cycles.size⟩], w.grows_start, ?_, rfl, ?_, ?_,
    trivial, trivial⟩
  · simp [World.start]
  · rintro id mem
    obtain rfl : id = ⟨w.cycles.size⟩ := by simpa [Deed.started, Deed.starts?] using mem
    exact ⟨Nat.le_refl _, by simp [World.start]⟩
  · simp [Deed.started, Deed.starts?]

/-- Every small step is orderly. -/
theorem of_step {w w' : World γ} (h : w.Step w') : w.Proceeds w' := by
  cases h with
  | happened e => exact of_grows (.refl _) rfl rfl
  | surroundings messenger hooks clock engine random calls goes =>
    exact of_grows (.of_cycles rfl rfl rfl) rfl rfl
  | edited id f make => exact of_grows (w.grows_editCycle id make) rfl rfl
  | dispatched id receiver packet => exact of_grows (.refl _) rfl rfl
  | started zone table chances => exact of_start chances
  | stopped zone => exact of_erase (fun _ => rfl) rfl trivial
  | moved m allowed =>
    obtain ⟨d, attempts, left⟩ := m.carryOut_worldLeft w
    rw [left]
    exact of_grows (.of_cycles rfl rfl rfl) rfl rfl

end World.Proceeds

/-- **The contract of the register**: the world goes on in an orderly way, whether an operation
returns or fails. -/
def Contract.orderly : Contract γ :=
  .always World.Proceeds World.Proceeds.refl World.Proceeds.trans

theorem Contract.permits_orderly : (orderly : Contract γ).Permits where
  step := World.Proceeds.of_step
  fail _ w := World.Proceeds.refl w

/-- Dropping the cycle that runs under a zone is orderly, if the cycle that reports ran there when
the update began: whatever runs there instead is younger. -/
theorem World.Proceeds.drop {start w : World γ} (before : start.Proceeds w) {zone : Value}
    {id : CycleId} (ran : (zone, id) ∈ start.manager.live.entries) :
    start.Proceeds (w.carryOut (.drop zone id)) := by
  intro registered
  obtain ⟨now, deeds, story⟩ := before registered
  have fair : (Deed.drop zone id).Fair start.cycles.size w.manager.live := by
    intro other found
    -- a cycle that is not young was running when the update began, under the same zone
    by_cases young : start.cycles.size ≤ other.number
    · exact .inr young
    · obtain ⟨k, mem, same⟩ := Table.mem_of_find? found
      have old := story.mem_of_known mem (Nat.lt_of_not_le young)
      have there := registered.find?_of_mem ran
      rw [Manager.find?, registered.distinct.find?_of_mem old same] at there
      exact .inl (Option.some.inj there)
  have grows : Scene.Grows w.toScene (w.carryOut (.drop zone id)).toScene := .of_cycles rfl rfl rfl
  refine ⟨now.erase grows rfl, deeds ++ [.drop zone id], ?_⟩
  have none : Deed.started (deeds ++ [.drop zone id]) = Deed.started deeds := by
    simp [Deed.started, Deed.starts?]
  constructor
  · exact story.toGrows.trans grows
  · simp [story.ledger]
  · rw [Deed.replay_append, ← story.live]
    rfl
  · rw [none]
    exact story.fresh
  · rw [none]
    exact story.once
  · refine story.fair.append ⟨?_, trivial⟩
    rw [← story.live]
    exact fair

variable [RandomSource γ]

/-- Updating the cycles that were running when an update began is orderly, however far it has got.
-/
theorem Manager.updateEach_orderly {react : Reaction γ} (h : react.Keeps .orderly) (diff : Int)
    {start : World γ} (cycles : List (Value × CycleId))
    (ran : ∀ e ∈ cycles, e ∈ start.manager.live.entries) {w : World γ} (before : start.Proceeds w) :
    (updateEach react diff cycles).Ends w (fun _ w' => start.Proceeds w')
      (fun _ w' => start.Proceeds w') := by
  induction cycles generalizing w with
  | nil => exact before
  | cons e rest ih =>
    obtain ⟨zone, id⟩ := e
    have later : ∀ e ∈ rest, e ∈ start.manager.live.entries := fun e he => ran e (by simp [he])
    rw [ends_updateEach_cons]
    have updated :=
      (CycleId.update_keeps h (Contract.permits_orderly.letsUpdate id) diff).ends_trans before
    refine updated.mono (fun kept w₁ first => ?_) fun _ _ failed => failed
    cases kept with
    | true => exact ih later first
    | false =>
      have logged := first.trans (.of_step (.happened w₁ (.logged (.removing zone))))
      rw [if_neg Bool.false_ne_true]
      split
      · exact ih later (logged.drop (ran _ (by simp)))
      · exact logged

/-- **Updates of the manager are orderly** if the actors are. -/
theorem Manager.update_orderly {react : Reaction γ} (h : react.Keeps .orderly) (diff : Int) :
    (update react diff).Keeps .orderly := by
  intro w
  rw [update, Sim.ends_bind, Sim.ends_get]
  exact updateEach_orderly h diff _ (fun _ he => he) (.refl w)

theorem Stage.react_orderly (stage : Stage) (behaviour : Behaviour γ) (depth : Nat) :
    (stage.react behaviour depth).Keeps .orderly :=
  stage.react_keeps Contract.permits_orderly.serves Manager.update_orderly behaviour depth

/-- **Every command is orderly**, whatever the actors do. -/
theorem Command.perform_orderly (stage : Stage) (behaviour : Behaviour γ) (depth : Nat)
    (inTick : Bool) (command : Command γ) :
    (command.perform stage (stage.react behaviour depth) inTick).Keeps .orderly := by
  have h := stage.react_orderly behaviour depth
  exact command.perform_keeps h Contract.permits_orderly.serves (Manager.update_orderly h) stage
    inTick

/-! ### Reachable worlds -/

/-- **The worlds that can be reached** from one in which no weather is running, by commands that
return or fail, whatever the actors do meanwhile. -/
inductive Reachable : World γ → Prop
  /-- No weather is running yet. -/
  | start {w : World γ} (idle : w.manager.live = .empty) : Reachable w
  /-- A command was given. -/
  | command {w : World γ} (stage : Stage) (behaviour : Behaviour γ) (depth : Nat) (inTick : Bool)
      (command : Command γ) (before : Reachable w) :
      Reachable ((command.perform stage (stage.react behaviour depth) inTick).worldLeft w)

/-- **In a reachable world the register is in order.** -/
theorem Reachable.registered {w : World γ} (h : Reachable w) : w.Registered := by
  induction h with
  | start idle =>
    constructor
    · rw [idle]
      exact Table.distinct_empty
    · rw [idle]
      exact .nil
    · intro zone id mem
      rw [idle] at mem
      cases mem
  | command stage behaviour depth inTick command before ih =>
    exact ((command.perform_orderly stage behaviour depth inTick).worldLeft _ ih).1

/-- The world that some commands leave, given one after the other. -/
def World.afterAll (stage : Stage) (behaviour : Behaviour γ) (depth : Nat) (w : World γ)
    (commands : List (Command γ)) : World γ :=
  commands.foldl (fun w c => (c.perform stage (stage.react behaviour depth) false).worldLeft w) w

theorem Reachable.afterAll {w : World γ} (h : Reachable w) (stage : Stage) (behaviour : Behaviour γ)
    (depth : Nat) (commands : List (Command γ)) :
    Reachable (w.afterAll stage behaviour depth commands) := by
  induction commands generalizing w with
  | nil => exact h
  | cons c rest ih => exact ih (.command stage behaviour depth false c h)

end Microclimate
