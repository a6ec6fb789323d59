import Microclimate.Proofs.Departures

/-!
# Stray reports

When a cycle reports that nobody was reached, an update of the manager drops what runs under its
zone. The actors who are called on the way may have taken out the cycle themselves, and then nothing
runs there: the report is stray, and **the update fails**, although nobody refused to go on.

That is the only way in which it can fail by itself. Suppose that the random source and the clock
serve whoever asks, and that the actors only call the manager back, naming zones that can be keys.
Then an update returns if and only if no report is stray. A report is stray only if the zone was
cleared before, in the course of the same update: by an actor who stopped its weather, or by an
update within the update.

* `Microclimate.Moment.IsStray` – a moment at which a stray report is made;
* `Microclimate.Dependable`, `Microclimate.Clock.Reads`, `Microclimate.Behaviour.CallsManager` –
  what is supposed of the source, the clock and the actors;
* `Microclimate.Contract.steady` – what all operations of the manager keep to under these
  suppositions;
* `Microclimate.Manager.update_returns_iff` – **an update returns if and only if no report is
  stray**.
-/

namespace Microclimate

variable {γ : Type}

/-- A cycle reports that nobody was reached, and nothing runs under its zone. -/
def Moment.IsStray (m : Moment) : Prop :=
  ∃ zone, m.event = .logged (.removing zone) ∧ m.scene.manager.find? zone = none

/-- A deed clears a zone. -/
def Deed.Clears (zone : Value) : Deed → Prop
  | start .. => False
  | stop z | drop z _ => z.sameKey zone = true

/-- The random source serves whoever asks: integers can be drawn from every range that has some, and
every drawing of an intensity comes to an end. -/
structure Dependable (γ : Type) [RandomSource γ] : Prop where
  integer : ∀ low high, low ≤ high → ∀ g : γ, ∃ n g', RandomSource.integer low high g = .ok n g'
  intensity : ∀ w : World γ, ∃ x w', HalfNormal.draw w = .ok x w'

/-- The clock shows a day of the year. -/
def Clock.Reads (c : Clock) : Prop := ∃ day, c.dayOfYear = .ok day

/-- A command to the manager names only zones that can be keys. -/
def ManagerCommand.OnKeys : ManagerCommand → Prop
  | chances zone | find zone | add zone | getOrCreate zone | remove zone | observerEntered _ zone
  | setWeather zone .. => zone.isKey
  | update _ | config => True

/-- Actors only call the manager back, at any time, and name only zones that can be keys. -/
def Behaviour.CallsManager (behaviour : Behaviour γ) : Prop :=
  ∀ call w, ∀ action ∈ behaviour call w,
    action.tick = none ∧ ∃ command, action.command = .manager command ∧ command.OnKeys

/-! ### What the operations keep to -/

/-- A world goes on in an orderly way, the clock stays, and no report is stray. -/
structure World.Steady (w w' : World γ) : Prop where
  proceeds : w.Proceeds w'
  clock : w'.clock = w.clock
  moments : ∃ ms, w.Adds ms w' ∧ ∀ m ∈ ms, ¬m.IsStray

/-- A failure with an excuse: calls went on without an end in sight, or a report was stray, and then
the zone had been cleared. -/
def World.Stuck (f : Fault) (w w' : World γ) : Prop :=
  f = .unending ∨ ∃ zone ms deeds, f = .notRegistered zone ∧ w.Adds ms w' ∧ (∃ m ∈ ms, m.IsStray) ∧
    w'.ledger.toList = w.ledger.toList ++ deeds ∧ ∃ d ∈ deeds, d.Clears zone

/-- A cycle was made, and its zone can be a key. -/
def World.Knows (w : World γ) (id : CycleId) : Prop :=
  id.number < w.cycles.size ∧ (w.cycle id).zone.isKey

/-- A zone under which nothing runs any more after some deeds was cleared by one of them. -/
theorem Deed.exists_clears {deeds : List Deed} {live : Table CycleId} {zone : Value}
    (there : (live.find? zone).isSome) (lost : (replay deeds live).find? zone = none) :
    ∃ d ∈ deeds, d.Clears zone := by
  induction deeds generalizing live with
  | nil =>
    rw [show replay [] live = live from rfl] at lost
    simp [lost] at there
  | cons d rest ih =>
    by_cases clears : d.Clears zone
    · exact ⟨d, by simp, clears⟩
    · -- a deed that does not clear the zone leaves something running there
      have still : ((d.apply live).find? zone).isSome := by
        cases d with
        | start z id =>
          rw [apply, Table.find?_insert]
          split
          · rfl
          · exact there
        | stop z =>
          rw [apply, Table.find?_erase_of_ne _ (by simpa [Clears] using clears)]
          exact there
        | drop z reporter =>
          rw [apply, Table.find?_erase_of_ne _ (by simpa [Clears] using clears)]
          exact there
      obtain ⟨d', mem, clears'⟩ := ih still lost
      exact ⟨d', List.mem_cons_of_mem _ mem, clears'⟩

namespace World

theorem Steady.refl (w : World γ) : w.Steady w :=
  ⟨.refl w, rfl, [], .nothing rfl, by simp⟩

theorem Steady.trans {a b c : World γ} (h : a.Steady b) (h' : b.Steady c) : a.Steady c := by
  obtain ⟨ms, first, calm⟩ := h.moments
  obtain ⟨ns, second, calm'⟩ := h'.moments
  refine ⟨h.proceeds.trans h'.proceeds, h'.clock.trans h.clock, ms ++ ns, first.trans second, ?_⟩
  intro m mem
  rcases List.mem_append.1 mem with early | late
  · exact calm m early
  · exact calm' m late

theorem Steady.knows {w w' : World γ} (h : w.Steady w') (registered : w.Registered) {id : CycleId}
    (known : w.Knows id) : w'.Knows id := by
  obtain ⟨-, deeds, story⟩ := h.proceeds registered
  refine ⟨Nat.lt_of_lt_of_le known.1 story.size, ?_⟩
  rw [(story.make known.1).zone]
  exact known.2

/-- What gets stuck after some steady going was stuck from the beginning. -/
theorem Steady.stuck {a b c : World γ} (h : a.Steady b) (registered : a.Registered) {f : Fault}
    (stuck : b.Stuck f c) : a.Stuck f c := by
  rcases stuck with rfl | ⟨zone, ns, es, rfl, adds, ⟨m, mem, stray⟩, ledger, d, hd, clears⟩
  · exact .inl rfl
  · obtain ⟨ms, before, -⟩ := h.moments
    obtain ⟨-, ds, story⟩ := h.proceeds registered
    refine .inr ⟨zone, ms ++ ns, ds ++ es, rfl, before.trans adds, ⟨m, by simp [mem], stray⟩, ?_, d,
      by simp [hd], clears⟩
    rw [ledger, story.ledger, List.append_assoc]

/-- A small step is steady if the clock stays and nothing happens. -/
theorem Steady.of_step {w w' : World γ} (step : w.Step w') (clock : w'.clock = w.clock)
    (history : w'.history = w.history) : w.Steady w' :=
  ⟨.of_step step, clock, [], .nothing history, by simp⟩

/-- Anything may happen but a report. -/
theorem Steady.emit (w : World γ) {e : Event} (h : ∀ zone, e ≠ .logged (.removing zone)) :
    w.Steady (w.emit e) := by
  refine ⟨.of_step (.happened w e), rfl, [⟨e, w.toScene⟩], .emit w e, ?_⟩
  rintro m mem ⟨zone, removing, -⟩
  obtain rfl := List.mem_singleton.1 mem
  exact h zone removing

theorem Steady.setSource (w : World γ) (owner : Owner) (g : γ) :
    w.Steady (w.setSource owner g) := by
  have step (engine : Engine γ) (random : γ) (goes : w.engine.GoesOn engine) :=
    World.Step.surroundings w w.messenger w.hooks w.clock engine random w.calls goes
  cases owner with
  | weather => exact .of_step (step w.engine g (.refl _)) rfl rfl
  | engine => exact .of_step (step _ w.random (.of_eq rfl rfl)) rfl rfl

theorem Steady.dispatch (w : World γ) (id : CycleId) (receiver : Receiver) (packet : Packet) :
    w.Steady (w.dispatch id receiver packet) :=
  .of_step (.dispatched w id receiver packet) rfl rfl

theorem Steady.start {w : World γ} {zone : Value} {table : SeasonTable}
    (chances : w.manager.chances? zone = some table) : w.Steady (w.start zone table) := by
  refine ⟨.of_step (.started w zone table chances), rfl, _, w.adds_start zone table, ?_⟩
  rintro m mem ⟨z, removing, -⟩
  obtain rfl := List.mem_singleton.1 mem
  cases removing

/-- Dropping what runs under a zone is steady, if something does. -/
theorem Steady.drop {start w : World γ} (before : start.Steady w) {zone : Value} {id : CycleId}
    (ran : (zone, id) ∈ start.manager.live.entries) (found : (w.manager.find? zone).isSome) :
    start.Steady (w.discard zone id) := by
  obtain ⟨ms, adds, calm⟩ := before.moments
  have logged := before.proceeds.trans (.of_step (.happened w (.logged (.removing zone))))
  refine ⟨logged.drop ran, before.clock, ms ++ [⟨_, w.toScene⟩], adds.trans (.emit w _), ?_⟩
  intro m mem
  rcases List.mem_append.1 mem with early | late
  · exact calm m early
  · -- the report is not stray, for something was found under the zone
    rintro ⟨z, removing, none⟩
    obtain rfl := List.mem_singleton.1 late
    obtain rfl : zone = z := by simpa using removing
    rw [none] at found
    cases found

/-- Where nothing runs any more, a report is stray. -/
theorem Steady.stray {start w : World γ} (before : start.Steady w) (registered : start.Registered)
    {zone : Value} {id : CycleId} (there : start.manager.find? zone = some id)
    (lost : w.manager.find? zone = none) :
    start.Stuck (.notRegistered zone) (w.emit (.logged (.removing zone))) := by
  obtain ⟨ms, adds, -⟩ := before.moments
  obtain ⟨-, deeds, story⟩ := before.proceeds registered
  refine .inr ⟨zone, ms ++ [⟨_, w.toScene⟩], deeds, rfl, adds.trans (.emit w _), ?_,
    story.ledger, ?_⟩
  · exact ⟨⟨_, w.toScene⟩, by simp, zone, rfl, lost⟩
  · refine @Deed.exists_clears _ start.manager.live _ ?_ ?_
    · rw [show start.manager.live.find? zone = some id from there]
      rfl
    · rw [← story.live]
      exact lost

end World

/-- The contract of steady going, in the presence of some cycles: whatever fails has an excuse, if
the register is in order, the clock shows a day and these cycles have keys as zones. -/
def Contract.steady (ids : List CycleId) : Contract γ where
  good := World.Steady
  bad f w w' := w.Registered → w.clock.Reads → (∀ id ∈ ids, w.Knows id) → w.Stuck f w'
  refl := .refl
  trans := .trans
  bad_trans := by
    -- what is supposed of the first world holds of the second one, since it was reached steadily
    intro f a b c steady bad registered reads known
    refine steady.stuck registered (bad (steady.proceeds registered).1 ?_ fun id mem => ?_)
    · rw [steady.clock]
      exact reads
    · exact steady.knows registered (known id mem)

/-- What is kept in the presence of no cycles in particular is kept in the presence of any. -/
theorem Sim.Keeps.weaken {α : Type} {x : Sim γ α} (h : x.Keeps (.steady [])) (ids : List CycleId) :
    x.Keeps (.steady ids) :=
  fun w => (h w).mono (fun _ _ good => good) fun _ _ bad registered reads _ =>
    bad registered reads (by simp)

/-- What keeps to steady going in the presence of some cycles goes on steadily in a world that knows
them. -/
theorem Sim.Keeps.ends_steady {α : Type} {x : Sim γ α} {ids : List CycleId}
    (h : x.Keeps (.steady ids)) {w w' : World γ} (before : w.Steady w')
    (known : w.Registered → ∀ id ∈ ids, w'.Knows id) :
    x.Ends w' (fun _ w'' => w.Steady w'') fun f w'' =>
      w.Registered → w.clock.Reads → w.Stuck f w'' := by
  refine (h w').mono (fun _ _ steady => before.trans steady) fun f w'' bad registered reads => ?_
  refine before.stuck registered (bad (before.proceeds registered).1 ?_ (known registered))
  rw [before.clock]
  exact reads

theorem Scene.MadeFor.knows {w : World γ} {zone : Value} {id : CycleId} (h : w.MadeFor zone id) :
    w.Knows id :=
  ⟨h.known, (Value.sameKey_iff.1 h.place).1⟩

/-! ### The operations of a cycle -/

section Cycles

variable {ids : List CycleId}

theorem Sim.log_steady {r : Record} (h : ∀ zone, r ≠ .removing zone) :
    (Sim.log r : Sim γ Unit).Keeps (.steady ids) :=
  fun w => .emit w fun zone same => h zone (Event.logged.inj same)

theorem Sim.editCycle_steady (id : CycleId) {f : Cycle → Cycle}
    (make : ∀ c, Cycle.SameMake c (f c)) :
    (Sim.editCycle id f : Sim γ Unit).Keeps (.steady ids) :=
  fun w => .of_step (.edited w id f make) rfl rfl

theorem Sim.draw_steady {α : Type} (owner : Owner) (d : EStateM Fault γ α)
    (event : Option α → Event) (quiet : ∀ a zone, event a ≠ .logged (.removing zone))
    (w : World γ) :
    (Sim.draw owner d event).Ends w (fun _ w' => w.Steady w') fun _ w' => w.Steady w' := by
  rw [Sim.ends_draw]
  cases d (w.source owner) with
  | ok a g => exact (World.Steady.setSource w owner g).trans (.emit _ (quiet _))
  | error f g => exact (World.Steady.setSource w owner g).trans (.emit _ (quiet _))

/-- A packet is delivered, if its zone can be a key. -/
theorem Messenger.send_steady {react : Reaction γ} (h : react.Keeps (.steady [])) (zone : Value)
    (packet : Packet) (w : World γ) :
    (Messenger.send react zone packet).Ends w (fun _ w' => w.Steady w') fun f w' =>
      w.Registered → w.clock.Reads → zone.isKey → w.Stuck f w' := by
  rw [Messenger.send, Sim.ends_bind, Sim.ends_get]
  cases w.messenger with
  | recorder reaches => exact .emit w fun _ => nofun
  | directory =>
    rw [Directory.send, Sim.ends_bind, Sim.ends_requireKey]
    split
    · have told : Sim.Keeps (do
          (w.directory.observers zone).forM fun observer => react (.packet observer packet)
          return !(w.directory.observers zone).isEmpty) (.steady []) :=
        .bind (.forM _ fun observer _ => h _) fun _ => .pure _
      exact (told w).mono (fun _ _ good => good) fun _ _ bad registered reads _ =>
        bad registered reads (by simp)
    next noKey => exact fun _ _ key => absurd key noKey

variable [RandomSource γ]

/-- Drawing an intensity is steady even if it fails. -/
theorem HalfNormal.draw_steady (w : World γ) :
    HalfNormal.draw.Ends w (fun _ w' => w.Steady w') fun _ w' => w.Steady w' := by
  have keeps : HalfNormal.draw.Keeps (.always World.Steady (γ := γ) .refl .trans) := by
    refine HalfNormal.draw_keeps (fun mean spread => .bind .get fun w => ?_) fun w => .refl w
    exact Sim.draw_steady _ _ _ fun _ _ => nofun
  exact keeps w

variable (dependable : Dependable γ)
include dependable

theorem Contract.steady_letsRoll (id : CycleId) :
    (Contract.steady ids : Contract γ).LetsRoll id where
  weather w f h := .of_step (.edited w id f fun c => by
    obtain ⟨kind, intensity, hf⟩ := h c
    rw [hf]
    exact ⟨rfl, rfl, rfl⟩) rfl rfl
  integer low high le := by
    refine .bind .get fun w => fun w' => ?_
    obtain ⟨n, g, drawn⟩ := dependable.integer low high le (w'.source w.weatherOwner)
    rw [Sim.integerOf, Sim.ends_draw, drawn]
    exact (World.Steady.setSource w' _ g).trans (.emit _ fun _ told => by cases told)
  intensity w := by
    obtain ⟨x, w', drawn⟩ := dependable.intensity w
    have steady := (HalfNormal.draw_steady w).of_ok drawn
    rw [Sim.Ends, drawn]
    exact steady
  season w zone := by
    rw [Sim.ends_dayOfYear]
    cases shown : w.clock.dayOfYear with
    | ok day => exact .emit w fun _ told => by cases told
    | error f =>
      rintro - ⟨day, reads⟩ -
      rw [shown] at reads
      cases reads

variable {react : Reaction γ} (h : react.Keeps (.steady []))
include h

namespace CycleId

omit [RandomSource γ] dependable in
theorem broadcast_steady (id : CycleId) (trigger : Bool) :
    (id.broadcast react trigger).Keeps (.steady [id]) := by
  refine .bind (Sim.editCycle_steady id fun c => ⟨rfl, rfl, rfl⟩) fun _ => fun w => ?_
  rw [Sim.ends_bind, Sim.ends_cycle, Sim.ends_bind, Sim.ends_dispatch, Sim.ends_bind]
  have noted := World.Steady.dispatch w id (.zone (w.cycle id).zone) (w.cycle id).packet
  refine (Messenger.send_steady h _ _ _).mono (fun reached w' sent => ?_) ?_
  · refine Sim.Keeps.ends_trans ?_ (noted.trans sent)
    refine .ite (.bind (Sim.log_steady fun _ => nofun) fun _ => .ite ?_ (.pure _)) (.pure _)
    refine .bind (.cycle id) fun now => .bind ?_ fun _ => .pure _
    exact (Hooks.notifyChanged_keeps h _ _ _).weaken _
  · intro f w' bad registered reads known
    exact bad registered reads (known id (by simp)).2

omit [RandomSource γ] dependable in
theorem setWeather_steady (id : CycleId) (kind : WeatherKind) (intensity : Float) (trigger : Bool) :
    (id.setWeather react kind intensity trigger).Keeps (.steady [id]) := by
  refine .bind (.cycle id) fun now => .ite (.pure _) ?_
  refine .bind (Sim.editCycle_steady id fun c => ⟨rfl, rfl, rfl⟩) fun _ => ?_
  exact .discard (broadcast_steady h id trigger)

theorem changeWhenDue_steady (id : CycleId) : (id.changeWhenDue react).Keeps (.steady [id]) := by
  refine .bind (.cycle id) fun now => .ite ?_ (.pure _)
  refine .bind (Sim.editCycle_steady id fun c => ⟨rfl, rfl, rfl⟩) fun _ => ?_
  refine .bind (regenerate_keeps (Contract.steady_letsRoll dependable id)) fun _ => ?_
  exact .ite (broadcast_steady h id true) (.pure _)

theorem update_steady (id : CycleId) (diff : Int) :
    (id.update react diff).Keeps (.steady [id]) := by
  refine .bind (Sim.editCycle_steady id fun c => ⟨rfl, rfl, ?_⟩) fun _ => ?_
  · dsimp only
    split <;> rfl
  · refine .bind (changeWhenDue_steady dependable h id) fun _ => ?_
    refine .ite (.bind ?_ fun _ => .pure _) (.pure _)
    exact (Hooks.notifyTicked_keeps h _ _).weaken _

end CycleId

end Cycles

/-! ### The operations of the manager -/

section Managers

variable [RandomSource γ] (dependable : Dependable γ)
include dependable

namespace Manager

omit [RandomSource γ] dependable in
theorem find_steady {zone : Value} (key : zone.isKey) :
    (find zone : Sim γ (Option CycleId)).Keeps (.steady []) := by
  refine .bind ?_ fun _ => .bind .get fun _ => .pure _
  rw [Sim.requireKey, if_pos key]
  exact .pure _

omit [RandomSource γ] dependable in
theorem remove_steady {zone : Value} (key : zone.isKey) :
    (remove zone : Sim γ Unit).Keeps (.steady []) := by
  refine .bind .get fun w => .ite (.pure _) (.bind ?_ fun _ => ?_)
  · rw [Sim.requireKey, if_pos key]
    exact .pure _
  · exact fun w => .of_step (.stopped w zone) rfl rfl

/-- Starting the weather of a zone is steady, and the new cycle was made for the zone. -/
theorem add_steady {zone : Value} (key : zone.isKey) (w : World γ) :
    (add zone).Ends w
      (fun id w' => w.Steady w' ∧ ∀ id' ∈ id, w.Registered → w'.MadeFor zone id')
      fun f w' => w.Registered → w.clock.Reads → w.Stuck f w' := by
  rw [ends_add, if_pos key]
  cases found : w.manager.chances? zone with
  | none => exact ⟨.refl w, nofun⟩
  | some table =>
    have started := World.Steady.start found
    have rolls : (Contract.steady [] : Contract γ).LetsRoll ⟨w.cycles.size⟩ :=
      Contract.steady_letsRoll dependable _
    refine (CycleId.regenerate_keeps rolls (w.start zone table)).mono (fun _ w' steady => ?_) ?_
    · refine ⟨started.trans steady, fun id' mem registered => ?_⟩
      obtain rfl : _ = id' := by simpa using mem
      obtain ⟨-, deeds, story⟩ := steady.proceeds (started.proceeds registered).1
      exact (World.madeFor_start found).grows story.toGrows
    · intro f w' bad registered reads
      exact started.stuck registered (bad (started.proceeds registered).1 reads (by simp))

/-- A zone has the cycle that is found or started there. -/
theorem getOrCreate_steady {zone : Value} (key : zone.isKey) (w : World γ) :
    (getOrCreate zone).Ends w
      (fun id w' => w.Steady w' ∧ ∀ id' ∈ id, w.Registered → w'.MadeFor zone id')
      fun f w' => w.Registered → w.clock.Reads → w.Stuck f w' := by
  rw [ends_getOrCreate, if_pos key]
  cases found : w.manager.find? zone with
  | some id =>
    refine ⟨.refl w, fun id' mem registered => ?_⟩
    obtain rfl : id = id' := by simpa using mem
    exact registered.madeFor found
  | none => exact add_steady dependable key w

variable {react : Reaction γ} (h : react.Keeps (.steady []))
include h

theorem observerEntered_steady (observer : ActorName) {zone : Value} (key : zone.isKey) :
    (observerEntered react observer zone).Keeps (.steady []) := by
  intro w
  rw [observerEntered, Sim.ends_bind]
  refine (getOrCreate_steady dependable key w).mono (fun found w' got => ?_) ?_
  · cases found with
    | none => exact (CycleId.sendFineTo_keeps h observer).ends_trans got.1
    | some id =>
      have told : (id.sendTo react observer).Keeps (.steady []) :=
        .bind (.cycle id) fun _ => .bind (fun w => .dispatch w id _ _) fun _ => h _
      exact told.ends_trans got.1
  · exact fun _ _ bad registered reads _ => bad registered reads

theorem setZoneWeather_steady {zone : Value} (key : zone.isKey) (kind : WeatherKind)
    (intensity : Float) (trigger : Bool) :
    (setZoneWeather react zone kind intensity trigger).Keeps (.steady []) := by
  intro w
  rw [setZoneWeather, Sim.ends_bind]
  refine (getOrCreate_steady dependable key w).mono (fun found w' ⟨got, made⟩ => ?_) ?_
  · cases found with
    | none => exact got
    | some id =>
      have forced := CycleId.setWeather_steady h id kind intensity trigger
      rw [Sim.ends_bind]
      refine (forced.ends_steady got fun registered id' mem => ?_).mono
        (fun _ _ steady => steady) ?_
      · obtain rfl := List.mem_singleton.1 mem
        exact (made id' rfl registered).knows
      · exact fun _ _ bad registered reads _ => bad registered reads
  · exact fun _ _ bad registered reads _ => bad registered reads

/-- Updating the cycles that were running when an update began is steady, unless a report is stray.
-/
theorem updateEach_steady (diff : Int) {start : World γ} (cycles : List (Value × CycleId))
    (ran : ∀ e ∈ cycles, e ∈ start.manager.live.entries) {w : World γ} (before : start.Steady w) :
    (updateEach react diff cycles).Ends w (fun _ w' => start.Steady w') fun f w' =>
      start.Registered → start.clock.Reads → start.Stuck f w' := by
  induction cycles generalizing w with
  | nil => exact before
  | cons e rest ih =>
    obtain ⟨zone, id⟩ := e
    have later : ∀ e ∈ rest, e ∈ start.manager.live.entries := fun e he => ran e (by simp [he])
    have known : start.Registered → ∀ id' ∈ [id], w.Knows id' := by
      rintro registered id' mem
      obtain rfl := List.mem_singleton.1 mem
      exact before.knows registered (registered.made (ran (zone, id') (by simp))).knows
    rw [ends_updateEach_cons]
    have updated := (CycleId.update_steady dependable h id diff).ends_steady before known
    refine updated.mono (fun kept w₁ first => ?_) fun _ _ bad => bad
    cases kept with
    | true => exact ih later first
    | false =>
      rw [if_neg Bool.false_ne_true]
      split
      next found => exact ih later (first.drop (ran _ (by simp)) found)
      next lost =>
        intro registered _
        have there := registered.find?_of_mem (ran (zone, id) (by simp))
        exact first.stray registered there (by simpa using lost)

/-- **Updates of the manager are steady**, unless a report is stray. -/
theorem update_steady (diff : Int) : (update react diff).Keeps (.steady []) := by
  intro w
  rw [update, Sim.ends_bind, Sim.ends_get]
  refine (updateEach_steady dependable h diff _ (fun _ he => he) (.refl w)).mono ?_ ?_
  · exact fun _ _ steady => steady
  · exact fun _ _ bad registered reads _ => bad registered reads

end Manager

/-- A command to the manager is steady, if it names zones that can be keys. -/
theorem ManagerCommand.perform_steady {react : Reaction γ} (h : react.Keeps (.steady []))
    {command : ManagerCommand} (keys : command.OnKeys) :
    (command.perform react).Keeps (.steady []) := by
  have required {zone : Value} (key : zone.isKey) :
      (Sim.requireKey zone : Sim γ Unit).Keeps (.steady []) := by
    rw [Sim.requireKey, if_pos key]
    exact .pure _
  cases command with
  | chances zone =>
    exact .bind (.bind (required keys) fun _ => .bind .get fun _ => .pure _) fun _ => .pure _
  | find zone => exact .bind (Manager.find_steady keys) CycleId.show_keeps
  | add zone =>
    refine .bind (fun w => ?_) CycleId.show_keeps
    exact (Manager.add_steady dependable keys w).mono (fun _ _ good => good.1)
      fun _ _ bad registered reads _ => bad registered reads
  | getOrCreate zone =>
    refine .bind (fun w => ?_) CycleId.show_keeps
    exact (Manager.getOrCreate_steady dependable keys w).mono (fun _ _ good => good.1)
      fun _ _ bad registered reads _ => bad registered reads
  | remove zone => exact .bind (Manager.remove_steady keys) fun _ => .pure _
  | update diff => exact .bind (Manager.update_steady dependable h diff) fun _ => .pure _
  | observerEntered observer zone =>
    exact .bind (Manager.observerEntered_steady dependable h observer keys) fun _ => .pure _
  | setWeather zone kind intensity trigger =>
    refine .bind ?_ fun _ => .pure _
    exact Manager.setZoneWeather_steady dependable h keys kind intensity trigger
  | config => exact .bind .get fun _ => .pure _

/-- Actors who only call the manager back are steady, to whatever depth they call each other. -/
theorem Stage.react_steady {stage : Stage} (manager : Part.manager ∉ stage.lacking)
    {behaviour : Behaviour γ} (calls : behaviour.CallsManager) (depth : Nat) :
    (stage.react behaviour depth).Keeps (.steady []) := by
  induction depth with
  -- calls that go too deep are cut off, which is an excuse
  | zero => exact fun _ w _ _ _ => .inl rfl
  | succ depth ih =>
    intro call
    refine .bind (fun w => ?_) fun _ => .bind .get fun w => .forM _ fun action mem => ?_
    · have noted : w.Steady (w.emit (call.event w)) := .emit w fun _ => by cases call <;> nofun
      refine noted.trans (.of_step ?_ rfl rfl)
      exact .surroundings _ w.messenger w.hooks w.clock w.engine w.random _ (.refl _)
    · obtain ⟨always, command, given, keys⟩ := calls call w action mem
      have present : (stage.require .manager : Sim γ Unit).Keeps (.steady []) := by
        rw [Stage.require, if_neg manager]
        exact .pure _
      have due : (action.isDue stage).Keeps (.steady []) := by
        rw [Action.isDue, always]
        exact .pure _
      refine .bind due fun _ => .ite (.discard ?_) (.pure _)
      rw [given]
      exact .bind present fun _ => ManagerCommand.perform_steady dependable ih keys

/-- **An update returns if and only if no report is stray**, when the random source and the clock
serve whoever asks and the actors only call the manager back, a finite number of times. It fails at
the first stray report, whose zone was cleared in the course of the update. -/
theorem Manager.update_returns_iff {stage : Stage} (manager : Part.manager ∉ stage.lacking)
    {behaviour : Behaviour γ} (calls : behaviour.CallsManager) (depth : Nat) (diff : Int)
    {w : World γ} (h : Reachable w) (reads : w.clock.Reads)
    (finite : ∀ w', update (stage.react behaviour depth) diff w ≠ .error .unending w') :
    (∃ ms, w.Adds ms ((update (stage.react behaviour depth) diff).worldLeft w) ∧
      ((∃ w', update (stage.react behaviour depth) diff w = .ok () w') ↔ ∀ m ∈ ms, ¬m.IsStray)) ∧
    ∀ f w', update (stage.react behaviour depth) diff w = .error f w' →
      ∃ zone deeds, f = .notRegistered zone ∧ w'.ledger.toList = w.ledger.toList ++ deeds ∧
        ∃ d ∈ deeds, d.Clears zone := by
  have steady := update_steady dependable (stage.react_steady dependable manager calls depth) diff w
  generalize update (stage.react behaviour depth) diff = x at steady finite ⊢
  simp only [Sim.Ends, Contract.steady, Sim.worldLeft] at steady ⊢
  -- an update that returns was steady all the way, and one that fails has an excuse
  cases run : x w with
  | ok a w' =>
    rw [run] at steady
    obtain ⟨ms, adds, calm⟩ := steady.moments
    refine ⟨⟨ms, adds, fun _ => calm, fun _ => ⟨w', rfl⟩⟩, fun f w'' failed => ?_⟩
    simp at failed
  | error f w' =>
    rw [run] at steady
    rcases steady h.registered reads (by simp) with rfl | ⟨zone, ms, deeds, rfl, adds, stray, done⟩
    · exact absurd run (finite w')
    · refine ⟨⟨ms, adds, by simp, fun calm => ?_⟩, fun f w'' failed => ?_⟩
      · obtain ⟨m, mem, bad⟩ := stray
        exact absurd bad (calm m mem)
      · obtain ⟨rfl, rfl⟩ : .notRegistered zone = f ∧ w' = w'' := by simpa using failed
        exact ⟨zone, deeds, rfl, done⟩

end Managers

/-! ### An update that fails -/

/-- A source that gives the integers that it was told to give and then always the least one that it
may, and one half whenever a double is drawn. -/
structure Loaded where
  /-- The integers that are left. -/
  integers : List Int

instance : RandomSource Loaded where
  integer low _ := modifyGet fun s =>
    match s.integers with
    | [] => (low, s)
    | n :: rest => (n, ⟨rest⟩)
  normal _ _ := pure 0.5
  patience _ := 1

theorem dependable_loaded : Dependable Loaded where
  integer low high _ g := ⟨_, _, rfl⟩
  intensity w := by
    have half : (0.5 : Float).abs < 1.0 := by decide
    have ends : (HalfNormal.draw : Sim Loaded Float).Ends w (fun _ _ => True) fun _ _ => False := by
      simp only [HalfNormal.draw, Sim.patience, RandomSource.patience, HalfNormal.drawWithin,
        Sim.normal, Sim.normalOf, RandomSource.normal, Sim.ends_bind, Sim.ends_get, Sim.ends_pure,
        Sim.ends_draw, Sim.ends_ite]
      change if (0.5 : Float).abs < 1.0 then True else _
      rw [if_pos half]
      trivial
    simp only [Sim.Ends] at ends
    cases drawn : HalfNormal.draw w with
    | ok x w' => exact ⟨x, w', rfl⟩
    | error f w' =>
      rw [drawn] at ends
      exact ends.elim

namespace TwoZones

/-- Whoever hears of an update stops the weather of the second zone. -/
def stopping {γ : Type} : Behaviour γ := fun call _ =>
  match call with
  | .ticked .. => [{ command := .manager (.remove (.text "b")) }]
  | _ => []

theorem stopping_callsManager {γ : Type} : (stopping : Behaviour γ).CallsManager := by
  intro call w action mem
  cases call with
  | ticked listener cycle diff =>
    obtain rfl := List.mem_singleton.1 mem
    exact ⟨rfl, _, rfl, rfl⟩
  | _ => cases mem

/-- The weather of the first zone stays as it is, that of the second one changes radically. -/
def stopped : World Loaded := running ⟨[0, 0, 0, 95, 1, 0]⟩

/-- Does the update fail because nothing runs under a zone? -/
def failsToDrop : Bool :=
  match Manager.update (Stage.react {} stopping 2) 600000 stopped with
  | .error (.notRegistered _) _ => true
  | _ => false

theorem failsToDrop_eq : failsToDrop = true := by decide +kernel

end TwoZones

/-- The listener hears of the update of the first zone and stops the weather of the second one. Then
the cycle of that zone reports that nobody was reached, and the report is stray. -/
theorem Manager.update_returns_iff_stopped :
    Reachable TwoZones.stopped ∧ ∃ ms,
      TwoZones.stopped.Adds ms
        ((update (Stage.react {} TwoZones.stopping 2) 600000).worldLeft TwoZones.stopped) ∧
      ∃ m ∈ ms, m.IsStray := by
  have reachable : Reachable TwoZones.stopped := TwoZones.reachable_running _
  have fails := TwoZones.failsToDrop_eq
  rw [TwoZones.failsToDrop] at fails
  have finite (w') : update (Stage.react {} TwoZones.stopping 2) 600000 TwoZones.stopped ≠
      .error .unending w' := by
    intro run
    rw [run] at fails
    cases fails
  obtain ⟨⟨ms, adds, returns⟩, -⟩ := update_returns_iff dependable_loaded (by decide)
    TwoZones.stopping_callsManager 2 600000 reachable ⟨100, rfl⟩ finite
  refine ⟨reachable, ms, adds, Classical.byContradiction fun calm => ?_⟩
  obtain ⟨w', run⟩ := returns.2 fun m mem stray => calm ⟨m, mem, stray⟩
  rw [run] at fails
  cases fails

end Microclimate
