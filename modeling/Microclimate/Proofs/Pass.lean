import Microclimate.Proofs.Departures
import Microclimate.Proofs.Members
import Microclimate.Proofs.Recording

/-!
# The meaning of one pass

With actors who only take note, an update of the manager is a pass through the running cycles. Each
of them has its turn, in order, and a turn begins in the world that the turn before has left; that
is how the draws of all cycles come from one source. A cycle that is not kept is dropped at once,
before the next turn.

The turn of a cycle touches nothing but that cycle. So a cycle comes to its turn as it was when the
pass began, and leaves the pass as its turn has left it; the members of the zones are the same
throughout.

* `Microclimate.Turn`, `Microclimate.Pass` – turns, and passes made of them;
* `Microclimate.Cycle.isDue`, `Microclimate.World.ripe` – the interval has elapsed, and the weather
  is about to be rolled;
* `Microclimate.CycleId.update_recording` – what the turn of a cycle comes to;
* `Microclimate.Account` – what is to be said about the turns that were made;
* `Microclimate.Manager.update_pass` – **an update is a pass**, as far as it gets.
-/

namespace Microclimate

variable {γ : Type}

/-! ### The turn of a cycle -/

/-- A timer on which some time was let pass; one that stands below zero only starts afresh. -/
def Timer.pass (t : Timer) (diff : Int) : Timer := if 0 ≤ t.current then t.advance diff else t.reset

/-- Will the interval of a cycle have elapsed after some time? -/
def Cycle.isDue (c : Cycle) (diff : Int) : Bool := (c.timer.pass diff).passed

/-- The world in which some time has passed on the timer of a cycle. -/
def World.passTime (w : World γ) (id : CycleId) (diff : Int) : World γ :=
  w.editCycle id fun c => { c with timer := c.timer.pass diff }

/-- The world in which the interval of a cycle has elapsed, and its weather is about to be rolled.
-/
def World.ripe (w : World γ) (id : CycleId) (diff : Int) : World γ :=
  (w.passTime id diff).editCycle id fun c => { c with timer := c.timer.reset }

/-- A cycle on whose timer some time has passed is as it was, but for the timer. -/
theorem World.cycle_passTime {w : World γ} {id : CycleId} (known : id.number < w.cycles.size)
    (diff : Int) :
    (w.passTime id diff).cycle id = { w.cycle id with timer := (w.cycle id).timer.pass diff } :=
  w.cycle_editCycle known _

/-- The cycle whose weather is about to be rolled is as it was, but for the timer. -/
theorem World.cycle_ripe {w : World γ} {id : CycleId} (known : id.number < w.cycles.size)
    (diff : Int) :
    (w.ripe id diff).cycle id =
      { w.cycle id with timer := ((w.cycle id).timer.pass diff).reset } := by
  have there : id.number < (w.passTime id diff).cycles.size := by simpa [passTime] using known
  rw [ripe, cycle_editCycle _ there, cycle_passTime known]

theorem World.touches_passTime {kind : Event → Prop} (w : World γ) (id : CycleId) (diff : Int) :
    w.Touches kind id (w.passTime id diff) := by
  refine .editCycle w id fun c => ⟨rfl, rfl, ?_⟩
  simp only [Timer.pass]
  split <;> rfl

theorem World.touches_ripe {kind : Event → Prop} (w : World γ) (id : CycleId) (diff : Int) :
    w.Touches kind id (w.ripe id diff) :=
  (w.touches_passTime id diff).trans (.editCycle _ id fun _ => ⟨rfl, rfl, rfl⟩)

/-- The world in which all listeners have noted an update of a cycle. -/
def World.hearTicked (w : World γ) (id : CycleId) (diff : Int) : World γ :=
  w.hearAll (w.hooks.ticked.map (.ticked · (some id) diff))

variable [RandomSource γ]

/-- **The turn of a cycle, step by step**: once the interval has elapsed the weather is rolled, and
the zone is told if it changed. -/
theorem CycleId.ends_update {react : Reaction γ} {id : CycleId} {w : World γ}
    (known : id.number < w.cycles.size) (diff : Int) {good : Bool → World γ → Prop}
    {bad : Fault → World γ → Prop} :
    (id.update react diff).Ends w good bad ↔
      let ticked (w : World γ) : Prop :=
        (Hooks.notifyTicked react (some id) diff).Ends w (fun _ => good true) bad
      if (w.cycle id).isDue diff then
        id.regenerate.Ends (w.ripe id diff)
          (fun changed w₁ =>
            if changed then
              (id.broadcast react true).Ends w₁
                (fun told w₂ => if told then ticked w₂ else good false w₂) bad
            else ticked w₁)
          bad
      else ticked (w.passTime id diff) := by
  have timer : ((w.passTime id diff).cycle id).timer = (w.cycle id).timer.pass diff := by
    rw [World.passTime, w.cycle_editCycle known]
  simp only [update, CycleId.passTime, changeWhenDue, Sim.ends_bind, Sim.ends_editCycle]
  change (Sim.cycle id).Ends (w.passTime id diff) _ _ ↔ _
  rw [Sim.ends_cycle, timer, Cycle.isDue]
  split
  · simp only [Sim.ends_bind, Sim.ends_editCycle, Sim.ends_ite, Sim.ends_pure]
    rfl
  · simp only [Sim.ends_bind, Sim.ends_pure, if_true]

/-- The turn of a cycle, step by step, with actors who only take note. -/
theorem CycleId.ends_update_note {id : CycleId} {w : World γ} (known : id.number < w.cycles.size)
    (diff : Int) {good : Bool → World γ → Prop} {bad : Fault → World γ → Prop} :
    (id.update Call.note diff).Ends w good bad ↔
      if (w.cycle id).isDue diff then
        id.regenerate.Ends (w.ripe id diff)
          (fun changed w₁ =>
            if changed then
              (id.broadcast Call.note true).Ends w₁
                (fun told w₂ =>
                  if told then good true (w₂.hearTicked id diff) else good false w₂) bad
            else good true (w₁.hearTicked id diff))
          bad
      else good true ((w.passTime id diff).hearTicked id diff) := by
  rw [ends_update known]
  simp only [Hooks.ends_notifyTicked_note]
  rfl

/-- **What the turn of a cycle comes to**, with actors who only take note. It touches only that
cycle. The cycle is dropped if and only if its interval has elapsed, its weather changed, and nobody
is in its zone; and the turn can fail only in rolling the weather. -/
theorem CycleId.update_recording {id : CycleId} {w : World γ} (directory : w.messenger = .directory)
    {zone : Value} (made : w.MadeFor zone id) (diff : Int) :
    (id.update Call.note diff).Ends w
      (fun kept w' => w.Touches Event.NoReport id w' ∧
        (kept = false ↔ (w.cycle id).isDue diff ∧
          (∃ w₁, id.regenerate (w.ripe id diff) = .ok true w₁) ∧ w.directory.observers zone = []))
      fun f w' => w.Touches Event.NoReport id w' ∧ (w.cycle id).isDue diff ∧
        id.regenerate (w.ripe id diff) = .error f w' := by
  have ticked (w : World γ) : w.Touches Event.NoReport id (w.hearTicked id diff) :=
    (World.Touches.hearTicked w _ _ _).mono fun _ h => h.1
  rw [ends_update_note made.known]
  by_cases due : (w.cycle id).isDue diff
  · rw [if_pos due]
    have ripe : w.Touches Event.NoReport id (w.ripe id diff) := w.touches_ripe id diff
    have rolled := (Sim.ends_self _ (w.ripe id diff)).and (id.regenerate_touches (w.ripe id diff))
    refine rolled.mono (fun changed w₁ ⟨run, rolled⟩ => ?_) fun f w' ⟨run, rolled⟩ => ?_
    -- rolling leaves the directory alone, so the members are those of the world before
    · have first := ripe.trans (rolled.mono fun _ h => h.silent.1)
      cases changed with
      | false =>
        refine ⟨first.trans (ticked w₁), by simp, ?_⟩
        rintro ⟨-, ⟨w₂, run'⟩, -⟩
        rw [run] at run'
        cases run'
      | true =>
        have place : (w₁.cycle id).zone.sameKey zone = true := by
          rw [first.make.zone]
          exact made.place
        have members : w₁.directory.observers (w₁.cycle id).zone = w.directory.observers zone := by
          rw [first.directory, Directory.observers_congr _ place]
        have told := broadcast_recording (first.messenger.trans directory)
          (first.size.symm ▸ made.known) (Value.sameKey_iff.1 place).1 true
        rw [members] at told
        refine told.mono (fun told w₂ ⟨reached, touched, _⟩ => ?_) fun _ _ h => h.elim
        cases told with
        | true =>
          refine ⟨(first.trans touched).trans (ticked w₂), by simp, ?_⟩
          rintro ⟨-, -, nobody⟩
          simp [nobody] at reached
        | false =>
          exact ⟨first.trans touched, fun _ => ⟨due, ⟨w₁, run⟩, by simpa using reached⟩,
            fun _ => rfl⟩
    · exact ⟨ripe.trans (rolled.mono fun _ h => h.silent.1), due, run⟩
  · rw [if_neg due]
    exact ⟨(w.touches_passTime id diff).trans (ticked _), by simp, fun h => absurd h.1 due⟩

/-! ### Records -/

/-- What an event writes to the log at the least level. -/
def Event.debugRecord? : Event → Option Record
  | logged r => if r.level = .debug then some r else none
  | _ => none

/-- What was written to the log at the least level, oldest first. -/
def World.debugRecords (w : World γ) : List Record :=
  w.history.toList.filterMap (·.event.debugRecord?)

omit [RandomSource γ] in
theorem World.Adds.debugRecords {w w' : World γ} {ms : List Moment} (h : w.Adds ms w') :
    w'.debugRecords = w.debugRecords ++ ms.filterMap (·.event.debugRecord?) := by
  rw [World.debugRecords, h, List.filterMap_append]
  rfl

/-- Only reports are written at the least level. -/
theorem Event.NoReport.debugRecord? {e : Event} (h : e.NoReport) : e.debugRecord? = none := by
  cases e with
  | logged r =>
    cases r with
    | removing zone => exact absurd rfl (h zone)
    | _ => rfl
  | _ => rfl

namespace World.Touches

omit [RandomSource γ]

variable {id : CycleId} {w w' : World γ}

theorem debugRecords (h : w.Touches Event.NoReport id w') : w'.debugRecords = w.debugRecords := by
  obtain ⟨ms, adds, all⟩ := h.moments
  have none : ms.filterMap (·.event.debugRecord?) = [] :=
    List.filterMap_eq_nil_iff.2 fun m mem => (all m mem).debugRecord?
  rw [adds.debugRecords, none, List.append_nil]

theorem grows {kind : Event → Prop} (h : w.Touches kind id w') :
    Scene.Grows w.toScene w'.toScene where
  data := by rw [h.manager]
  config := by rw [h.manager]
  size := Nat.le_of_eq h.size.symm
  make {other} _ := by
    by_cases same : other = id
    · rw [same]
      exact h.make
    · rw [h.others same]
      exact ⟨rfl, rfl, rfl⟩

theorem registered {kind : Event → Prop} (h : w.Touches kind id w') (r : w.Registered) :
    w'.Registered :=
  r.grows h.grows (by rw [h.manager])

end World.Touches

/-! ### Passes -/

/-- The turn of a cycle in a pass. -/
structure Turn (γ : Type) where
  /-- The zone under which the cycle was running when the pass began. -/
  zone : Value
  /-- The cycle. -/
  id : CycleId
  /-- The world in which the turn begins. -/
  before : World γ
  /-- The world in which the update of the cycle returns. -/
  after : World γ
  /-- Is the cycle kept? -/
  kept : Bool

namespace Turn

omit [RandomSource γ]

/-- The entry of the cycle in the register. -/
def entry (t : Turn γ) : Value × CycleId := (t.zone, t.id)

/-- The world that a turn leaves: a cycle that is not kept is dropped, and there is a record of it.
-/
def left (t : Turn γ) : World γ :=
  if t.kept then t.after else t.after.discard t.zone t.id

variable (t : Turn γ)

theorem cycle_left (id : CycleId) : t.left.cycle id = t.after.cycle id := by
  simp only [left]
  split <;> rfl

theorem directory_left : t.left.directory = t.after.directory := by
  simp only [left]
  split <;> rfl

theorem messenger_left : t.left.messenger = t.after.messenger := by
  simp only [left]
  split <;> rfl

theorem debugRecords_left :
    t.left.debugRecords = t.after.debugRecords ++ if t.kept then [] else [.removing t.zone] := by
  simp only [left]
  split
  · simp
  · exact World.Adds.debugRecords (.emit t.after (.logged (.removing t.zone)))

/-- A turn leaves the register in order. -/
theorem registered_left (h : t.after.Registered) : t.left.Registered := by
  simp only [left]
  split
  · exact h
  · exact h.erase (.of_cycles rfl rfl rfl) rfl

/-- What a turn leaves of the register: the entry of the cycle is gone if the cycle was dropped. -/
theorem entries_left (h : t.after.Registered) {before rest : List (Value × CycleId)}
    (live : t.after.manager.live.entries = before ++ t.entry :: rest) :
    t.left.manager.live.entries = before ++ (if t.kept then [t.entry] else []) ++ rest := by
  obtain ⟨zone, id, w, after, kept⟩ := t
  cases kept with
  | true => simpa [left] using live
  | false =>
    have self : zone.sameKey zone = true := (h.made (live ▸ by simp [entry] : (zone, id) ∈ _)).self
    have now : after.manager.live = ⟨before ++ (zone, id) :: rest⟩ := congrArg Table.mk live
    have distinct := h.distinct
    rw [now] at distinct
    have erased := distinct.erase_entry self
    change (after.manager.live.erase zone).entries = before ++ [] ++ rest
    rw [now, erased, List.append_nil]

end Turn

/-- A turn was made as it is with actors who only take note: it touched only its own cycle, and
dropped the cycle if and only if its interval had elapsed, its weather changed, and nobody was in
its zone. -/
structure Turn.Made (diff : Int) (t : Turn γ) : Prop where
  run : t.id.update Call.note diff t.before = .ok t.kept t.after
  touched : t.before.Touches Event.NoReport t.id t.after
  dropped : t.kept = false ↔ (t.before.cycle t.id).isDue diff ∧
    (∃ w₁, t.id.regenerate (t.before.ripe t.id diff) = .ok true w₁) ∧
      t.before.directory.observers t.zone = []

/-- **A pass**: turns, one after the other, each of which is an update of a cycle by the same time
and begins in the world that the one before has left. -/
inductive Pass (react : Reaction γ) (diff : Int) : World γ → List (Turn γ) → World γ → Prop
  /-- The pass is over. -/
  | ended (w : World γ) : Pass react diff w [] w
  /-- A turn is made. -/
  | turn {t : Turn γ} {turns : List (Turn γ)} {w : World γ}
      (run : t.id.update react diff t.before = .ok t.kept t.after)
      (rest : Pass react diff t.left turns w) : Pass react diff t.before (t :: turns) w

/-- **What is to be said about the turns that were made** in a pass that begins in the world `w` and
has come to the world `w'`. -/
structure Account (react : Reaction γ) (diff : Int) (w : World γ) (turns : List (Turn γ))
    (w' : World γ) : Prop where
  /-- The turns are a pass. -/
  pass : Pass react diff w turns w'
  /-- Every cycle has one turn. -/
  once : (turns.map (·.id)).Nodup
  /-- It comes to it as it was when the pass began. -/
  comes : ∀ t ∈ turns, t.before.cycle t.id = w.cycle t.id
  /-- It stays as its turn has left it. -/
  stays : ∀ t ∈ turns, w'.cycle t.id = t.after.cycle t.id
  /-- All other cycles are as they were when the pass began. -/
  others : ∀ id, (∀ t ∈ turns, t.id ≠ id) → w'.cycle id = w.cycle id
  /-- A cycle is dropped if and only if its interval had elapsed, its weather changed, and nobody is
  in its zone. -/
  dropped : ∀ t ∈ turns, t.kept = false ↔ (w.cycle t.id).isDue diff ∧
    (∃ w₁, t.id.regenerate (t.before.ripe t.id diff) = .ok true w₁) ∧
      w.directory.observers t.zone = []
  /-- There is one record for each cycle that was dropped, in order. -/
  records : w'.debugRecords = w.debugRecords ++ (turns.filter (!·.kept)).map (.removing ·.zone)
  /-- Everybody is where they were. -/
  directory : w'.directory = w.directory

namespace Account

variable {react : Reaction γ} {diff : Int}

theorem nothing (w : World γ) : Account react diff w [] w where
  pass := .ended w
  once := .nil
  comes _ mem := absurd mem List.not_mem_nil
  stays _ mem := absurd mem List.not_mem_nil
  others _ _ := rfl
  dropped _ mem := absurd mem List.not_mem_nil
  records := by simp
  directory := rfl

/-- What is to be said about one more turn at the beginning. -/
theorem cons {t : Turn γ} (made : t.Made diff) {turns : List (Turn γ)} {w : World γ}
    (new : ∀ u ∈ turns, u.id ≠ t.id) (rest : Account Call.note diff t.left turns w) :
    Account Call.note diff t.before (t :: turns) w where
  pass := .turn made.run rest.pass
  once := by
    refine List.nodup_cons.2 ⟨fun mem => ?_, rest.once⟩
    obtain ⟨u, later, same⟩ := List.mem_map.1 mem
    exact new u later same
  comes u mem := by
    rcases List.mem_cons.1 mem with rfl | later
    · rfl
    · rw [rest.comes u later, t.cycle_left, made.touched.others (new u later)]
  stays u mem := by
    rcases List.mem_cons.1 mem with rfl | later
    · rw [rest.others _ new, Turn.cycle_left]
    · exact rest.stays u later
  others id apart := by
    have ne : id ≠ t.id := fun same => apart t (by simp) same.symm
    rw [rest.others id fun u later => apart u (by simp [later]), t.cycle_left,
      made.touched.others ne]
  dropped u mem := by
    rcases List.mem_cons.1 mem with rfl | later
    · exact made.dropped
    · rw [rest.dropped u later, t.cycle_left, made.touched.others (new u later), t.directory_left,
        made.touched.directory]
  records := by
    rw [rest.records, t.debugRecords_left, made.touched.debugRecords, List.append_assoc]
    cases kept : t.kept <;> simp [kept]
  directory := by rw [rest.directory, t.directory_left, made.touched.directory]

end Account

/-! ### An update is a pass -/

/-- The entries of the cycles that are kept. -/
def Turn.keptEntries (turns : List (Turn γ)) : List (Value × CycleId) :=
  (turns.filter (·.kept)).map Turn.entry

omit [RandomSource γ] in
theorem Turn.keptEntries_cons (t : Turn γ) (turns : List (Turn γ)) :
    keptEntries (t :: turns) = (if t.kept then [t.entry] else []) ++ keptEntries turns := by
  cases kept : t.kept <;> simp [keptEntries, kept]

namespace Turn.Made

variable {diff : Int} {t : Turn γ}

/-- A turn leaves a world in which the next one can be made: the register is in order, and what is
entered there are the cycles that were kept and those that are waiting. -/
theorem next (made : t.Made diff) (registered : t.before.Registered)
    {kept waiting : List (Value × CycleId)}
    (live : t.before.manager.live.entries = kept ++ t.entry :: waiting) :
    t.left.Registered ∧
      t.left.manager.live.entries = (kept ++ if t.kept then [t.entry] else []) ++ waiting := by
  have after := made.touched.registered registered
  have live' : t.after.manager.live.entries = kept ++ t.entry :: waiting := by
    rw [made.touched.manager, live]
  exact ⟨t.registered_left after, t.entries_left after live'⟩

/-- After a turn it is the turn of those that are waiting. -/
theorem ends_updateEach (made : t.Made diff) (registered : t.before.Registered)
    {waiting : List (Value × CycleId)} (entered : t.entry ∈ t.before.manager.live.entries)
    {good : Unit → World γ → Prop} {bad : Fault → World γ → Prop}
    (rest : (Manager.updateEach Call.note diff waiting).Ends t.left good bad) :
    if t.kept then (Manager.updateEach Call.note diff waiting).Ends t.after good bad
    else if (t.after.manager.find? t.zone).isSome then
      (Manager.updateEach Call.note diff waiting).Ends (t.after.discard t.zone t.id) good bad
    else bad (.notRegistered t.zone) (t.after.emit (.logged (.removing t.zone))) := by
  have found : (t.after.manager.find? t.zone).isSome := by
    rw [made.touched.manager, registered.find?_of_mem entered]
    rfl
  rw [Turn.left] at rest
  rw [if_pos found]
  split at rest
  next kept => rwa [if_pos kept]
  next dropped => rwa [if_neg dropped]

end Turn.Made

/-- Going through the cycles that are `waiting`, while others have had their turn and were kept. -/
theorem Manager.updateEach_pass (diff : Int) (waiting : List (Value × CycleId)) :
    ∀ {w : World γ} (kept : List (Value × CycleId)), w.messenger = .directory → w.Registered →
      w.manager.live.entries = kept ++ waiting →
      (updateEach Call.note diff waiting).Ends w
        (fun _ w' => ∃ turns, waiting = turns.map Turn.entry ∧ Account Call.note diff w turns w' ∧
          w'.manager.live.entries = kept ++ Turn.keptEntries turns)
        fun f w' => ∃ turns zone id rest v, waiting = turns.map Turn.entry ++ (zone, id) :: rest ∧
          Account Call.note diff w turns v ∧
          v.manager.live.entries = kept ++ Turn.keptEntries turns ++ (zone, id) :: rest ∧
          v.Touches Event.NoReport id w' ∧ (v.cycle id).isDue diff ∧
            id.regenerate (v.ripe id diff) = .error f w' := by
  induction waiting with
  | nil =>
    intro w kept directory registered live
    exact ⟨[], rfl, .nothing w, live⟩
  | cons e rest ih =>
    obtain ⟨zone, id⟩ := e
    intro w kept directory registered live
    have entered : (zone, id) ∈ w.manager.live.entries := by simp [live]
    have apart : ∀ e ∈ rest, e.2 ≠ id := fun e mem =>
      registered.once live e (List.mem_append_right _ mem)
    rw [ends_updateEach_cons]
    have updated := (Sim.ends_self _ w).and
      (id.update_recording directory (registered.made entered) diff)
    refine updated.mono ?_ ?_
    · rintro keeps w₁ ⟨run, touched, dropped⟩
      -- the rest of the pass goes on from the world that this turn has left
      obtain ⟨t, rfl, rfl, rfl, rfl, rfl⟩ : ∃ t : Turn γ,
          t.zone = zone ∧ t.id = id ∧ t.before = w ∧ t.after = w₁ ∧ t.kept = keeps :=
        ⟨⟨zone, id, w, w₁, keeps⟩, rfl, rfl, rfl, rfl, rfl⟩
      have made : t.Made diff := ⟨run, touched, dropped⟩
      have more {turns : List (Turn γ)} {v : World γ} (later : ∀ u ∈ turns, u.entry ∈ rest)
          (account : Account Call.note diff t.left turns v) :
          Account Call.note diff t.before (t :: turns) v :=
        .cons made (fun u mem => apart _ (later u mem)) account
      obtain ⟨registered', live'⟩ := made.next registered live
      have passed := ih _ (t.messenger_left.trans (touched.messenger.trans directory)) registered'
        live'
      refine made.ends_updateEach registered entered (passed.mono ?_ ?_)
      · rintro _ w' ⟨turns, rfl, account, left⟩
        refine ⟨t :: turns, rfl, more (fun u mem => List.mem_map_of_mem mem) account, ?_⟩
        rw [left, Turn.keptEntries_cons, List.append_assoc]
      · rintro f w' ⟨turns, zone', id', tail, v, rfl, account, left, failure⟩
        refine ⟨t :: turns, zone', id', tail, v, rfl, more (fun u mem => ?_) account, ?_, failure⟩
        · exact List.mem_append_left _ (List.mem_map_of_mem mem)
        · rw [left, Turn.keptEntries_cons]
          simp only [List.append_assoc]
    · rintro f w' ⟨-, touched, due, failed⟩
      refine ⟨[], zone, id, rest, w, rfl, .nothing w, ?_, touched, due, failed⟩
      rw [live]
      simp [Turn.keptEntries]

/-- **An update of the manager is a pass**, as far as it gets. If it returns, every running cycle
had its turn, in order, and those that were kept are running afterwards, in the same order. If it
fails, then in rolling the weather of a cycle: what is to be said about the turns before holds all
the same, and the cycles after it are as they were. -/
theorem Manager.update_pass (stage : Stage) (depth : Nat) (diff : Int) {w : World γ}
    (h : Reachable w) (directory : w.messenger = .directory) :
    (update (stage.react .recording (depth + 1)) diff).Ends w
      (fun _ w' => ∃ turns, w.manager.live.entries = turns.map Turn.entry ∧
        Account (stage.react .recording (depth + 1)) diff w turns w' ∧
          w'.manager.live.entries = Turn.keptEntries turns)
      fun f w' => ∃ turns zone id rest v,
        w.manager.live.entries = turns.map Turn.entry ++ (zone, id) :: rest ∧
        Account (stage.react .recording (depth + 1)) diff w turns v ∧
        v.cycle id = w.cycle id ∧ (w.cycle id).isDue diff ∧
        id.regenerate (v.ripe id diff) = .error f w' ∧
        w'.manager.live.entries = Turn.keptEntries turns ++ (zone, id) :: rest ∧
        (∀ t ∈ turns, w'.cycle t.id = t.after.cycle t.id) ∧
        (∀ e ∈ rest, w'.cycle e.2 = w.cycle e.2) ∧
        w'.debugRecords = w.debugRecords ++ (turns.filter (!·.kept)).map (.removing ·.zone) ∧
        w'.directory = w.directory := by
  rw [Stage.react_recording]
  have ids := h.registered.ids
  have passed := updateEach_pass diff w.manager.live.entries [] directory h.registered rfl
  rw [update, Sim.ends_bind, Sim.ends_get]
  refine passed.mono (fun _ w' h => h) ?_
  rintro f w' ⟨turns, zone, id, rest, v, entries, account, left, touched, due, failed⟩
  rw [Table.values, entries, List.map_append, List.map_cons, List.nodup_append,
    List.nodup_cons] at ids
  obtain ⟨-, ⟨once, -⟩, apart⟩ := ids
  -- no two of the cycles that had their turn, the one that fails and those that wait are the same
  have done : ∀ t ∈ turns, ∀ i ∈ id :: rest.map (·.2), t.id ≠ i := fun t mem =>
    apart t.id (List.mem_map.2 ⟨t.entry, List.mem_map_of_mem mem, rfl⟩)
  have comes : v.cycle id = w.cycle id := account.others id fun t mem => done t mem id (by simp)
  refine ⟨turns, zone, id, rest, v, entries, account, comes, comes ▸ due, failed,
    ?_, ?_, ?_, ?_, ?_⟩
  · rw [touched.manager, left, List.nil_append]
  · intro t mem
    rw [touched.others (done t mem id (by simp)), account.stays t mem]
  · intro e mem
    have waiting : e.2 ∈ rest.map (·.2) := List.mem_map_of_mem mem
    rw [touched.others fun same => once (same ▸ waiting)]
    exact account.others e.2 fun t mem => done t mem e.2 (List.mem_cons_of_mem _ waiting)
  · rw [touched.debugRecords, account.records]
  · rw [touched.directory, account.directory]

namespace TwoZones

/-- The weather of the first zone stays as it is, that of the second one changes radically. -/
def changing : World Script := running { integers := [0, 0, 0, 95, 1, 0], normals := [0.5] }

/-- The cycles that are running after an update, if it returns. -/
def kept? : Option (List CycleId) :=
  match Manager.update (Stage.react {} .recording 1) 600000 changing with
  | .ok _ w' => some w'.manager.live.values
  | .error _ _ => none

theorem kept?_eq : kept? = some [⟨0⟩] := by decide +kernel

end TwoZones

/-- Of two cycles the second one, in whose zone nobody is, is dropped in its turn. -/
theorem Manager.update_pass_changing :
    Reachable TwoZones.changing ∧ TwoZones.changing.messenger = .directory ∧ ∃ turns w',
      TwoZones.changing.manager.live.entries = turns.map Turn.entry ∧
        Account (Stage.react {} .recording 1) 600000 TwoZones.changing turns w' ∧
          (Turn.keptEntries turns).map (·.2) = [⟨0⟩] := by
  have reachable : Reachable TwoZones.changing := TwoZones.reachable_running _
  have directory : TwoZones.changing.messenger = .directory := rfl
  have pass := update_pass {} 0 600000 reachable directory
  have kept := TwoZones.kept?_eq
  rw [TwoZones.kept?] at kept
  rw [Sim.Ends] at pass
  cases run : update (Stage.react {} .recording 1) 600000 TwoZones.changing with
  | error f w' =>
    rw [run] at kept
    cases kept
  | ok a w' =>
    rw [run] at kept pass
    obtain ⟨turns, entries, account, left⟩ := pass
    refine ⟨reachable, directory, turns, w', entries, account, ?_⟩
    rw [← left]
    exact Option.some.inj kept

end Microclimate
