import Microclimate.Actor
import Microclimate.Proofs.Members
import Microclimate.Proofs.Outcome

/-!
# What operations are made of

Whatever is asked of a world changes it in small steps, and there are few kinds of them. A contract
that lets these steps pass, and failures, is kept by every operation – with one exception, for a
manager that discards weather does so on the word of a cycle, and which word is good is what some
contracts are about. So **an update of the manager is taken for granted here** and the rest follows.

Other contracts are about the weather itself. They let those steps pass that leave all cycles alone,
and what is asked of a cycle is taken for granted, too.

* `Microclimate.World.Step` – the small steps;
* `Microclimate.Contract.Permits` – a contract lets them pass;
* `Microclimate.Contract.Allows` – a contract lets those pass that leave all cycles alone;
* `Microclimate.Contract.LetsRoll` – a contract lets the weather of one cycle be rolled, with
  `Microclimate.CycleId.regenerate_keeps`;
* `Microclimate.Contract.LetsUpdate` – a contract lets one cycle be updated, with
  `Microclimate.CycleId.update_keeps`;
* `Microclimate.Contract.Serves` – a contract lets all be done that is ever asked of a cycle;
* `Microclimate.Command.perform_keeps`, `Microclimate.Command.perform_allowed` – **every command
  keeps such a contract**, if updates do;
* `Microclimate.Stage.react_keeps`, `Microclimate.Stage.react_allowed` – so do actors who respond
  with commands, however deep their calls within calls go.
-/

namespace Microclimate

variable {γ : Type}

/-! ### Small steps -/

/-- Two states of a cycle agree in what a cycle is made with: its zone, its chances and the interval
of its timer. -/
structure Cycle.SameMake (c d : Cycle) : Prop where
  zone : d.zone = c.zone
  table : d.table = c.table
  interval : d.timer.interval = c.timer.interval

/-- What it means to start the weather of a zone, before any is rolled: a new cycle runs there. -/
def World.start (w : World γ) (zone : Value) (table : SeasonTable) : World γ :=
  let interval := w.manager.config.changeInterval
  let kept := { w with
    cycles := w.cycles.push
      { zone := zone, table := some table, timer := { interval := interval } } }
  (kept.emit (.logged (.starting zone interval))).carryOut (.start zone ⟨w.cycles.size⟩)

/-- What it means to discard the weather of a zone where some is running: there is a record, and
what runs there is dropped. -/
def World.discard (w : World γ) (zone : Value) (reporter : CycleId) : World γ :=
  (w.emit (.logged (.removing zone))).carryOut (.drop zone reporter)

/-- A move that is made in a directory: whoever comes into a zone has left the last one, and the
zone is a key. -/
def Move.Allowed (d : Directory) : Move → Prop
  | out _ => True
  | into observer zone => zone.isKey = true ∧ d.zoneOf? observer = none

/-- An engine has gone on: its rate is what it was, and no tick was taken back. -/
structure Engine.GoesOn (e e' : Engine γ) : Prop where
  tps : e'.tps = e.tps
  tick : e.tick ≤ e'.tick

theorem Engine.GoesOn.of_eq {e e' : Engine γ} (tps : e'.tps = e.tps) (tick : e'.tick = e.tick) :
    e.GoesOn e' :=
  ⟨tps, Int.le_of_eq tick.symm⟩

theorem Engine.GoesOn.refl (e : Engine γ) : e.GoesOn e := .of_eq rfl rfl

theorem Engine.GoesOn.trans {a b c : Engine γ} (h : a.GoesOn b) (h' : b.GoesOn c) : a.GoesOn c :=
  ⟨h'.tps.trans h.tps, Int.le_trans h.tick h'.tick⟩

/-- **The small steps** of which all operations are made, but for the discarding of a cycle. -/
inductive World.Step : World γ → World γ → Prop
  /-- Something happens. -/
  | happened (w : World γ) (e : Event) : Step w (w.emit e)
  /-- The surroundings of the weather change, where the engine can only go on. -/
  | surroundings (w : World γ) (messenger : Messenger) (hooks : Hooks) (clock : Clock)
      (engine : Engine γ) (random : γ) (calls : List (ActorName × Nat))
      (goes : w.engine.GoesOn engine) :
      Step w { w with
        messenger := messenger, hooks := hooks, clock := clock, engine := engine, random := random,
        calls := calls }
  /-- A cycle changes, but not what it is made with. -/
  | edited (w : World γ) (id : CycleId) (f : Cycle → Cycle) (make : ∀ c, Cycle.SameMake c (f c)) :
      Step w (w.editCycle id f)
  /-- A cycle sends a packet. -/
  | dispatched (w : World γ) (id : CycleId) (receiver : Receiver) (packet : Packet) :
      Step w (w.dispatch id receiver packet)
  /-- The weather of a zone is started by its chances. -/
  | started (w : World γ) (zone : Value) (table : SeasonTable)
      (chances : w.manager.chances? zone = some table) : Step w (w.start zone table)
  /-- The weather of a zone is stopped. -/
  | stopped (w : World γ) (zone : Value) : Step w (w.carryOut (.stop zone))
  /-- Somebody moves in the directory. -/
  | moved (w : World γ) (m : Move) (allowed : m.Allowed w.directory) :
      Step w (m.carryOut.worldLeft w)

/-- A contract lets all small steps pass, and failures of any cause. -/
structure Contract.Permits (c : Contract γ) : Prop where
  step : ∀ {w w' : World γ}, w.Step w' → c.good w w'
  fail : ∀ (f : Fault) (w : World γ), c.bad f w w

/-- An event does not say which season it is; only the generation of weather does. -/
def Event.Seasonless (e : Event) : Prop := ∀ season zone, e ≠ .logged (.generating season zone)

/-- A contract lets those small steps pass that leave all cycles alone, and failures of any cause.
What says which season it is does not count among them. -/
structure Contract.Allows (c : Contract γ) : Prop where
  happened : ∀ (w : World γ) (e : Event), e.Seasonless → c.good w (w.emit e)
  surroundings : ∀ (w : World γ) (messenger : Messenger) (hooks : Hooks) (clock : Clock)
    (engine : Engine γ) (random : γ) (calls : List (ActorName × Nat)), w.engine.GoesOn engine →
    c.good w { w with
      messenger := messenger, hooks := hooks, clock := clock, engine := engine, random := random,
      calls := calls }
  stopped : ∀ (w : World γ) (zone : Value), c.good w (w.carryOut (.stop zone))
  moved : ∀ (w : World γ) (m : Move), m.Allowed w.directory → c.good w (m.carryOut.worldLeft w)
  fail : ∀ (f : Fault) (w : World γ), c.bad f w w

theorem Contract.Permits.allows {c : Contract γ} (p : c.Permits) : c.Allows where
  happened w e _ := p.step (.happened w e)
  surroundings w messenger hooks clock engine random calls goes :=
    p.step (.surroundings w messenger hooks clock engine random calls goes)
  stopped w zone := p.step (.stopped w zone)
  moved w m allowed := p.step (.moved w m allowed)
  fail := p.fail

/-! ### Moves in the directory -/

namespace Move

/-- A move changes nothing in a world but the directory and the record of attempts. -/
theorem carryOut_worldLeft (m : Move) (w : World γ) :
    ∃ d attempts, m.carryOut.worldLeft w = { w with directory := d, attempts := attempts } := by
  rw [Sim.worldLeft, carryOut]
  cases m.make w.directory with
  | ok _ d => exact ⟨d, _, rfl⟩
  | error f d => exact ⟨d, _, rfl⟩

/-- Whoever has left is nowhere. -/
theorem ends_out (w : World γ) (observer : ActorName) :
    (out observer).carryOut.Ends w (fun _ w' => w'.directory.zoneOf? observer = none)
      fun _ _ => True := by
  rw [Sim.Ends, carryOut, make]
  cases left : Directory.leave observer w.directory with
  | ok _ d => exact Directory.zoneOf?_leave left
  | error f d => trivial

end Move

/-! ### Elementary operations -/

section Elementary

variable {c : Contract γ} (p : c.Allows)
include p

theorem Sim.emit_keeps {e : Event} (plain : e.Seasonless) : (emit e).Keeps c :=
  fun w => p.happened w e plain

theorem Sim.throw_keeps {α : Type} (f : Fault) : (throw f : Sim γ α).Keeps c := p.fail f

theorem Sim.lift_keeps {α : Type} (r : Except Fault α) : (lift r : Sim γ α).Keeps c := by
  cases r with
  | ok a => exact .pure a
  | error f => exact throw_keeps p f

theorem Sim.requireKey_keeps (v : Value) : (requireKey v : Sim γ Unit).Keeps c :=
  .ite (.pure ()) (throw_keeps p _)

theorem Sim.dayOfYear_keeps : (dayOfYear : Sim γ Int).Keeps c :=
  .bind .get fun _ => lift_keeps p _

theorem World.setSource_good (w : World γ) (owner : Owner) (g : γ) :
    c.good w (w.setSource owner g) := by
  cases owner with
  | weather => exact p.surroundings w w.messenger w.hooks w.clock w.engine g w.calls (.refl _)
  | engine => exact p.surroundings w w.messenger w.hooks w.clock _ w.random w.calls (.of_eq rfl rfl)

theorem Sim.draw_keeps {α : Type} (owner : Owner) (d : EStateM Fault γ α)
    {event : Option α → Event} (plain : ∀ answer, (event answer).Seasonless) :
    (draw owner d event).Keeps c := by
  intro w
  rw [ends_draw]
  cases d (w.source owner) with
  | ok a g => exact c.trans (w.setSource_good p owner g) (p.happened _ _ (plain _))
  | error f g =>
    have noted := c.trans (w.setSource_good p owner g) (p.happened _ _ (plain none))
    exact c.bad_trans noted (p.fail f _)

theorem Move.ends_carryOut {w : World γ} {m : Move} (allowed : m.Allowed w.directory) :
    m.carryOut.Ends w (fun _ w' => c.good w w') fun f w' => c.bad f w w' := by
  have moved := p.moved w m allowed
  rw [Sim.worldLeft] at moved
  refine (Sim.ends_self m.carryOut w).mono (fun _ w' made => ?_) fun f w' failed => ?_
  · rwa [made] at moved
  · rw [failed] at moved
    exact c.bad_trans moved (p.fail f w')

theorem Directory.enter_keeps (observer : ActorName) (zone : Value) :
    (Directory.enter observer zone : Sim γ Unit).Keeps c := by
  intro w
  rw [Directory.enter, Sim.ends_bind]
  have left := Move.ends_carryOut p (w := w) (m := .out observer) trivial
  refine (left.and (Move.ends_out w observer)).mono (fun _ w₁ ⟨left, nowhere⟩ => ?_)
    fun _ _ failed => failed.1
  rw [Sim.ends_bind, Sim.ends_requireKey]
  split
  next key =>
    have came := Move.ends_carryOut p (w := w₁) (m := .into observer zone) ⟨key, nowhere⟩
    exact came.mono (fun _ _ => c.trans left) fun _ _ => c.bad_trans left
  next => exact c.bad_trans left (p.fail _ _)

theorem Manager.find_keeps (zone : Value) : (Manager.find zone : Sim γ (Option CycleId)).Keeps c :=
  .bind (Sim.requireKey_keeps p _) fun _ => .bind .get fun _ => .pure _

theorem Manager.remove_keeps (zone : Value) : (Manager.remove zone : Sim γ Unit).Keeps c := by
  refine .bind .get fun w => .ite (.pure _) (.bind (Sim.requireKey_keeps p _) fun _ => ?_)
  exact fun w => p.stopped w zone

end Elementary

/-! ### Rolling weather -/

section Rolling

variable [RandomSource γ]

/-- A contract lets the weather of one cycle be rolled: it lets kind and intensity be replaced, and
the draws be made that are needed, and the season of the day be noted. -/
structure Contract.LetsRoll (c : Contract γ) (id : CycleId) : Prop where
  weather : ∀ (w : World γ) (f : Cycle → Cycle),
    (∀ c, ∃ kind intensity, f c = c.withWeather kind intensity) → c.good w (w.editCycle id f)
  integer : ∀ low high, low ≤ high → (Sim.integer low high).Keeps c
  intensity : HalfNormal.draw.Keeps c
  season : ∀ (w : World γ) (zone : Value), Sim.dayOfYear.Ends w
    (fun day w' => c.good w (w'.emit (.logged (.generating (Season.ofDay day) zone))))
    fun f w' => c.bad f w w'

omit [RandomSource γ] in
/-- A contract lets one cycle tell of its weather: it lets the intensity be brought into the range
that is broadcast, and packets be sent and handed over, and the change be noted, and a zone may turn
out to be no key. -/
structure Contract.LetsTell (c : Contract γ) (id : CycleId) : Prop where
  clamped : ∀ w : World γ, c.good w (w.editCycle id Cycle.clamp)
  dispatched : ∀ (w : World γ) (receiver : Receiver) (packet : Packet),
    c.good w (w.dispatch id receiver packet)
  handed : ∀ (w : World γ) (zone : Value) (packet : Packet) (reaches : Bool),
    c.good w (w.emit (.handed zone packet reaches))
  changed : ∀ (w : World γ) (zone : Value) (state : WeatherState),
    c.good w (w.emit (.logged (.changed zone state)))
  noKey : ∀ (zone : Value) (w : World γ), c.bad (.notAKey zone) w w

/-- A contract lets one cycle be updated: it is kept when the weather of the cycle is rolled, and it
lets that be told of, and the timer be replaced by one of the same interval. -/
structure Contract.LetsUpdate (c : Contract γ) (id : CycleId) : Prop extends c.LetsTell id where
  rolled : id.regenerate.Keeps c
  timed : ∀ (w : World γ) (f : Cycle → Cycle),
    (∀ c, ∃ t : Timer, t.interval = c.timer.interval ∧ f c = { c with timer := t }) →
      c.good w (w.editCycle id f)

/-- A contract lets all be done that is ever asked of one cycle: besides updates it lets the cycle
be changed in all but what it is made with. -/
structure Contract.LetsServe (c : Contract γ) (id : CycleId) : Prop extends c.LetsUpdate id where
  edited : ∀ (w : World γ) (f : Cycle → Cycle), (∀ c, Cycle.SameMake c (f c)) →
    c.good w (w.editCycle id f)

/-- **A contract lets all be done that is ever asked of a cycle**: it lets those small steps pass
that leave all cycles alone, and the weather of a zone be started, and every cycle serve. -/
structure Contract.Serves (c : Contract γ) : Prop extends c.Allows where
  started : ∀ (w : World γ) (zone : Value) (table : SeasonTable),
    w.manager.chances? zone = some table → c.good w (w.start zone table)
  cycles : ∀ id, c.LetsServe id

variable {c : Contract γ}

/-- An intensity is drawn by drawing doubles, until one is accepted or none is expected any more. -/
theorem HalfNormal.draw_keeps (normal : ∀ mean spread, (Sim.normal mean spread).Keeps c)
    (fail : ∀ w, c.bad .drawsUnending w w) : HalfNormal.draw.Keeps c := by
  have within (tries : Nat) : (HalfNormal.drawWithin tries).Keeps c := by
    induction tries with
    | zero => exact fail
    | succ tries ih => exact .bind (normal _ _) fun _ => .ite (.pure _) ih
  exact .bind (.bind .get fun _ => .pure _) fun _ => within _

section Parts

variable {id : CycleId} (become : ∀ kind intensity, (id.become kind intensity).Keeps c)
  (integer : (Sim.integer 0 99).Keeps c)

namespace CycleId

include integer

/-- New weather has an intensity that is drawn, and where it depends on one more draw, an integer is
drawn before. -/
theorem newIntensity_keeps_of (intensity : HalfNormal.draw.Keeps c) (radical : Bool) :
    (newIntensity radical).Keeps c := by
  refine .ite (.bind intensity fun _ => .pure _) (.bind integer fun n => ?_)
  exact .ite (.bind intensity fun _ => .pure _) (.bind intensity fun _ => .pure _)

include become

theorem changeRadically_keeps_of (now : Cycle) : (id.changeRadically now).Keeps c := by
  refine .ite (.bind (become _ _) fun _ => .pure _) (.ite ?_ (.pure _))
  exact .bind integer fun n => .ite (.bind (become _ _) fun _ => .pure _) (.pure _)

/-- The present weather is changed by setting it, and one more integer may be drawn. -/
theorem changeWeather_keeps_of (roll : Int) : (id.changeWeather roll).Keeps c := by
  refine .bind (.cycle id) fun before => .ite (.bind (become _ _) fun _ => ?_) ?_
  -- whether the weather was set to fine before or not, the rest is the same
  all_goals
    refine .bind (.cycle id) fun now => .ite (.pure _) (.ite ?_ (.ite ?_ ?_))
    · exact .bind (become _ _) fun _ => .pure _
    · exact .bind (become _ _) fun _ => .pure _
    · refine .bind (changeRadically_keeps_of become integer now) fun _ => .ite (.pure _) ?_
      exact .bind (become _ _) fun _ => .pure _

end CycleId

end Parts

variable {id : CycleId} (r : c.LetsRoll id)
include r

namespace CycleId

theorem become_keeps (kind : WeatherKind) (intensity : Float) :
    (id.become kind intensity).Keeps c :=
  fun w => r.weather w _ fun _ => ⟨kind, intensity, rfl⟩

theorem newIntensity_keeps (radical : Bool) : (newIntensity radical).Keeps c :=
  newIntensity_keeps_of (r.integer _ _ (by decide)) r.intensity radical

theorem selectWeather_keeps (chances : Chances) (radical : Bool) :
    (id.selectWeather chances radical).Keeps c := by
  refine .bind (r.integer _ _ (by decide)) fun n => .bind ?_ fun _ => ?_
  · exact fun w => r.weather w _ fun c => ⟨_, c.intensity, rfl⟩
  · exact .ite (become_keeps r _ _) (.bind (newIntensity_keeps r _) fun _ => become_keeps r _ _)

theorem changeWeather_keeps (roll : Int) : (id.changeWeather roll).Keeps c :=
  changeWeather_keeps_of (become_keeps r) (r.integer _ _ (by decide)) roll

/-- **Rolling the next weather** keeps every contract that lets weather be rolled. -/
theorem regenerate_keeps : id.regenerate.Keeps c := by
  refine .bind (.cycle id) fun before => ?_
  cases before.table with
  | none => exact .bind (become_keeps r _ _) fun _ => .pure _
  | some table =>
    refine .bind (r.integer _ _ (by decide)) fun roll => .ite (.pure _) fun w => ?_
    rw [Sim.ends_bind]
    refine (r.season w before.zone).mono (fun day w' noted => ?_) fun _ _ bad => bad
    rw [Sim.ends_bind, Sim.ends_log]
    refine (Sim.Keeps.bind (changeWeather_keeps r roll) fun _ => .ite (.pure _) ?_).ends_trans noted
    exact .bind (selectWeather_keeps r _ _) fun _ => .bind (.cycle id) fun _ => .pure _

end CycleId

end Rolling

/-! ### Operations -/

section Operations

variable [RandomSource γ] {c : Contract γ} (p : c.Allows)
include p

theorem Sim.integerOf_keeps (owner : Owner) (low high : Int) : (integerOf owner low high).Keeps c :=
  draw_keeps p _ _ fun _ _ _ => nofun

theorem Sim.normalOf_keeps (owner : Owner) (mean spread : Float) :
    (normalOf owner mean spread).Keeps c :=
  draw_keeps p _ _ fun _ _ _ => nofun

theorem Sim.normal_keeps (mean spread : Float) : (normal mean spread).Keeps c :=
  .bind .get fun _ => normalOf_keeps p _ _ _

omit p in
/-- What lets all small steps pass lets weather be rolled. -/
theorem Contract.Permits.letsRoll (p : c.Permits) (id : CycleId) : c.LetsRoll id where
  weather w f h := p.step (.edited w id f fun c => by
    obtain ⟨kind, intensity, hf⟩ := h c
    rw [hf]
    exact ⟨rfl, rfl, rfl⟩)
  integer _ _ _ := .bind .get fun _ => Sim.integerOf_keeps p.allows _ _ _
  intensity := HalfNormal.draw_keeps (Sim.normal_keeps p.allows) (p.fail _)
  season w zone :=
    (Sim.dayOfYear_keeps p.allows w).mono (fun _ _ read => c.trans read (p.step (.happened _ _)))
      fun _ _ bad => bad

omit [RandomSource γ] p in
theorem Contract.Permits.letsTell (p : c.Permits) (id : CycleId) : c.LetsTell id where
  clamped w := p.step (.edited w id Cycle.clamp fun _ => ⟨rfl, rfl, rfl⟩)
  dispatched w receiver packet := p.step (.dispatched w id receiver packet)
  handed w zone packet reaches := p.step (.happened w (.handed zone packet reaches))
  changed w zone state := p.step (.happened w (.logged (.changed zone state)))
  noKey zone w := p.fail (.notAKey zone) w

omit p in
/-- What lets all small steps pass lets cycles be updated. -/
theorem Contract.Permits.letsUpdate (p : c.Permits) (id : CycleId) : c.LetsUpdate id where
  toLetsTell := p.letsTell id
  rolled := CycleId.regenerate_keeps (p.letsRoll id)
  timed w f h := p.step (.edited w id f fun c => by
    obtain ⟨t, interval, hf⟩ := h c
    rw [hf]
    exact ⟨rfl, rfl, interval⟩)

omit p in
/-- What lets all small steps pass lets all be done that is asked of cycles. -/
theorem Contract.Permits.serves (p : c.Permits) : c.Serves where
  toAllows := p.allows
  started w zone table chances := p.step (.started w zone table chances)
  cycles id := ⟨p.letsUpdate id, fun w f make => p.step (.edited w id f make)⟩

omit p in
/-- Starting the weather of a zone, step by step: if the zone has chances, a new cycle runs there
and its weather is rolled. -/
theorem Manager.ends_add {w : World γ} {zone : Value} {good : Option CycleId → World γ → Prop}
    {bad : Fault → World γ → Prop} :
    (add zone).Ends w good bad ↔
      if zone.isKey then
        match w.manager.chances? zone with
        | none => good none w
        | some table => (CycleId.regenerate ⟨w.cycles.size⟩).Ends (w.start zone table)
            (fun _ w' => good (some ⟨w.cycles.size⟩) w') bad
      else bad (.notAKey zone) w := by
  simp only [add, chances, Sim.ends_bind, Sim.ends_requireKey, Sim.ends_get, Sim.ends_pure]
  split
  · cases w.manager.chances? zone with
    | none => rfl
    | some table =>
      simp only [CycleId.create, Sim.addCycle, carryOut, Sim.ends_bind, Sim.ends_get,
        Sim.ends_modifyGet, Sim.ends_log, Sim.ends_pure, Sim.ends_modify, Sim.ends_discard]
      rfl
  · rfl

omit p in
/-- Asking for the weather of a zone, step by step: it is started unless it is running. -/
theorem Manager.ends_getOrCreate {w : World γ} {zone : Value}
    {good : Option CycleId → World γ → Prop} {bad : Fault → World γ → Prop} :
    (getOrCreate zone).Ends w good bad ↔
      if zone.isKey then
        match w.manager.find? zone with
        | some id => good (some id) w
        | none => (add zone).Ends w good bad
      else bad (.notAKey zone) w := by
  simp only [getOrCreate, find, Sim.ends_bind, Sim.ends_requireKey, Sim.ends_get, Sim.ends_pure]
  split
  · cases w.manager.find? zone <;> rfl
  · rfl

omit p in
/-- **Updating cycles, step by step**: one cycle is updated and discarded if it reports that nobody
was reached; that fails where nothing is running any more. Then it is the turn of the rest. -/
theorem Manager.ends_updateEach_cons {react : Reaction γ} {diff : Int} {zone : Value} {id : CycleId}
    {rest : List (Value × CycleId)} {w : World γ} {good : Unit → World γ → Prop}
    {bad : Fault → World γ → Prop} :
    (updateEach react diff ((zone, id) :: rest)).Ends w good bad ↔
      (id.update react diff).Ends w
        (fun kept w₁ =>
          if kept then (updateEach react diff rest).Ends w₁ good bad
          else if (w₁.manager.find? zone).isSome then
            (updateEach react diff rest).Ends (w₁.discard zone id) good bad
          else bad (.notRegistered zone) (w₁.emit (.logged (.removing zone))))
        bad := by
  simp only [updateEach, discardZone, carryOut, Sim.ends_bind, Sim.ends_ite, Sim.ends_log,
    Sim.ends_get, Sim.ends_modify, Sim.ends_throw]
  rfl

omit p in
/-- Starting the weather of a zone is a small step, followed by rolling it. -/
theorem Manager.add_keeps (s : c.Serves) (zone : Value) : (Manager.add zone).Keeps c := by
  intro w
  rw [ends_add]
  split
  · cases chances : w.manager.chances? zone with
    | none => exact c.refl w
    | some table =>
      have rolled := (s.cycles ⟨w.cycles.size⟩).rolled
      exact rolled.ends_trans (s.started w zone table chances)
  · exact s.fail _ w

theorem Manager.getOrCreate_keeps (add : ∀ zone, (Manager.add zone).Keeps c) (zone : Value) :
    (Manager.getOrCreate zone).Keeps c := by
  intro w
  rw [ends_getOrCreate]
  split
  · cases w.manager.find? zone with
    | some id => exact c.refl w
    | none => exact add zone w
  · exact p.fail _ w

omit p in
/-- **Updates of the manager keep a contract** if those of all cycles do, and if it lets cycles be
discarded, whoever reports. -/
theorem Manager.update_keeps {react : Reaction γ} {diff : Int}
    (each : ∀ id, (CycleId.update react id diff).Keeps c)
    (discard : ∀ (w : World γ) zone reporter, c.good w (w.discard zone reporter))
    (stray : ∀ (w : World γ) zone,
      c.bad (.notRegistered zone) w (w.emit (.logged (.removing zone)))) :
    (update react diff).Keeps c := by
  have all (cycles : List (Value × CycleId)) : (updateEach react diff cycles).Keeps c := by
    induction cycles with
    | nil => exact .pure _
    | cons e rest ih =>
      intro w
      rw [ends_updateEach_cons]
      refine (each e.2 w).mono (fun kept w₁ good => ?_) fun _ _ failed => failed
      cases kept with
      | true => exact ih.ends_trans good
      | false =>
        rw [if_neg Bool.false_ne_true]
        split
        · exact ih.ends_trans (c.trans good (discard w₁ e.1 e.2))
        · exact c.bad_trans good (stray w₁ e.1)
  exact .bind .get fun w => all _

end Operations

/-! ### Operations with actors -/

section Calls

variable {c : Contract γ} (p : c.Allows) {react : Reaction γ} (h : react.Keeps c)
include p h

omit p in
/-- Sending a packet keeps a contract that lets it be handed over, and the zone be no key. -/
theorem Messenger.send_keeps_of (zone : Value) (packet : Packet)
    (handed : ∀ (w : World γ) reaches, c.good w (w.emit (.handed zone packet reaches)))
    (noKey : ∀ w, c.bad (.notAKey zone) w w) :
    (Messenger.send react zone packet).Keeps c := by
  refine .bind .get fun w => ?_
  cases w.messenger with
  | directory =>
    refine .bind (.ite (.pure _) noKey) fun _ => .bind .get fun w => ?_
    exact .bind (.forM _ fun observer _ => h _) fun _ => .pure _
  | recorder reaches => exact .bind (fun w => handed w reaches) fun _ => .pure _

theorem Messenger.send_keeps (zone : Value) (packet : Packet) :
    (Messenger.send react zone packet).Keeps c :=
  Messenger.send_keeps_of h zone packet (fun w _ => p.happened w _ fun _ _ => nofun) (p.fail _)

omit p in
theorem Hooks.notifyTicked_keeps (cycle : Option CycleId) (diff : Int) :
    (Hooks.notifyTicked react cycle diff).Keeps c :=
  .bind .get fun _ => .forM _ fun _ _ => h _

omit p in
theorem Hooks.notifyChanged_keeps (cycle : Option CycleId) (state : WeatherState)
    (intensity : Float) : (Hooks.notifyChanged react cycle state intensity).Keeps c :=
  .bind .get fun _ => .forM _ fun _ _ => h _

omit p in
theorem CycleId.sendFineTo_keeps (observer : ActorName) : (sendFineTo react observer).Keeps c := h _

end Calls

/-! ### Cycles -/

section Cycles

variable {c : Contract γ} {react : Reaction γ} (h : react.Keeps c)

namespace CycleId

/-- **Telling a zone of its weather keeps every contract that lets it be told of**, if the actors
do. -/
theorem broadcast_keeps {id : CycleId} (t : c.LetsTell id) (h : react.Keeps c) (trigger : Bool) :
    (id.broadcast react trigger).Keeps c := by
  refine .bind t.clamped fun _ => .bind (.cycle id) fun now => ?_
  refine .bind (fun w => t.dispatched w _ _) fun _ => ?_
  refine .bind (Messenger.send_keeps_of h _ _ (fun w => t.handed w _ _) (t.noKey _)) fun told => ?_
  refine .ite (.bind (fun w => t.changed w _ _) fun _ => .ite ?_ (.pure _)) (.pure _)
  exact .bind (.cycle id) fun _ => .bind (Hooks.notifyChanged_keeps h _ _ _) fun _ => .pure _

include h

variable [RandomSource γ] {id : CycleId}

theorem setWeather_keeps (l : c.LetsServe id) (kind : WeatherKind) (intensity : Float)
    (trigger : Bool) : (id.setWeather react kind intensity trigger).Keeps c := by
  refine .bind (.cycle id) fun now => .ite (.pure _) ?_
  refine .bind (fun w => l.edited w _ fun c => ⟨rfl, rfl, rfl⟩) fun _ => ?_
  exact .discard (broadcast_keeps l.toLetsTell h trigger)

theorem sendTo_keeps (l : c.LetsServe id) (observer : ActorName) :
    (id.sendTo react observer).Keeps c :=
  .bind (.cycle id) fun _ => .bind (fun w => l.dispatched w _ _) fun _ => h _

variable (l : c.LetsUpdate id)
include l

omit h in
theorem passTime_keeps (diff : Int) : (id.passTime diff : Sim γ Unit).Keeps c :=
  fun w => l.timed w _ fun c => ⟨_, by split <;> rfl, rfl⟩

theorem changeWhenDue_keeps : (id.changeWhenDue react).Keeps c := by
  refine .bind (.cycle id) fun now => .ite ?_ (.pure _)
  refine .bind (fun w => l.timed w _ fun c => ⟨c.timer.reset, rfl, rfl⟩) fun _ => ?_
  refine .bind l.rolled fun _ => .ite ?_ (.pure _)
  exact broadcast_keeps l.toLetsTell h true

/-- **Updating a cycle keeps every contract that lets it be updated**, if the actors do. -/
theorem update_keeps (diff : Int) : (id.update react diff).Keeps c := by
  refine .bind (passTime_keeps l diff) fun _ => .bind (changeWhenDue_keeps h l) fun _ => ?_
  exact .ite (.bind (Hooks.notifyTicked_keeps h _ _) fun _ => .pure _) (.pure _)

end CycleId

end Cycles

/-! ### Commands -/

section Commands

variable [RandomSource γ] {c : Contract γ} (p : c.Allows) {react : Reaction γ} (h : react.Keeps c)
  (update : ∀ diff, (Manager.update react diff).Keeps c)
include p h update

omit [RandomSource γ] h update in
theorem Engine.edit_keeps {f : Engine γ → Engine γ} (goes : ∀ e : Engine γ, e.GoesOn (f e)) :
    (Engine.edit f).Keeps c :=
  fun w => p.surroundings w w.messenger w.hooks w.clock _ w.random w.calls (goes w.engine)

theorem System.call_keeps (context : TickContext) (system : System) :
    (system.call react context).Keeps c := by
  cases system with
  | clock =>
    refine .bind .get fun _ => .bind (Sim.lift_keeps p _) fun clock => ?_
    exact fun w => p.surroundings w w.messenger w.hooks clock w.engine w.random w.calls (.refl _)
  | weather => exact update _
  | actor name => exact h _
  | lacking part => exact Sim.throw_keeps p _

namespace Engine

omit p [RandomSource γ] h update in
theorem isStopping_keeps : (isStopping : Sim γ Bool).Keeps c := .bind .get fun _ => .pure _

theorem callFrom_keeps (list : Engine γ → List System) (stoppable : Bool) (context : TickContext)
    (rounds place : Nat) : (callFrom react list stoppable context rounds place).Keeps c := by
  induction rounds generalizing place with
  | zero => exact Sim.throw_keeps p _
  | succ rounds ih =>
    refine .bind .get fun w => ?_
    cases (list w.engine)[place]? with
    | none => exact .pure _
    | some system =>
      refine .bind (System.call_keeps p h update context system) fun _ => ?_
      exact .bind isStopping_keeps fun _ => .ite (.pure _) (ih _)

theorem makeTick_keeps (rounds : Nat) : (makeTick react rounds).Keeps c := by
  refine .bind (edit_keeps p fun e => ⟨rfl, Int.le_add_one (Int.le_refl _)⟩) fun _ => ?_
  exact .bind .get fun _ => callFrom_keeps p h update _ _ _ _ _

theorem fire_keeps (rounds : Nat) (hooks : Engine γ → List System) :
    (fire react rounds hooks).Keeps c :=
  .bind .get fun _ => callFrom_keeps p h update _ _ _ _ _

theorem step_keeps (rounds : Nat) : (step react rounds).Keeps c :=
  .bind (edit_keeps p fun _ => .of_eq rfl rfl) fun _ => makeTick_keeps p h update rounds

theorem makeTicks_keeps (rounds count : Nat) : (makeTicks react rounds count).Keeps c := by
  induction count with
  | zero => exact .pure _
  | succ count ih =>
    refine .bind (makeTick_keeps p h update rounds) fun _ => ?_
    exact .bind isStopping_keeps fun _ => .ite (.pure _) ih

theorem makeTicksForever_keeps (rounds left : Nat) :
    (makeTicksForever react rounds left).Keeps c := by
  induction left with
  | zero => exact Sim.throw_keeps p _
  | succ left ih =>
    refine .bind isStopping_keeps fun _ => .ite (.pure _) ?_
    exact .bind (makeTick_keeps p h update rounds) fun _ => ih

theorem run_keeps (rounds : Nat) (count : Int) : (run react rounds count).Keeps c := by
  refine .bind (edit_keeps p fun _ => .of_eq rfl rfl) fun _ => ?_
  refine .bind (fire_keeps p h update _ _) fun _ => ?_
  exact .bind (makeTicks_keeps p h update _ _) fun _ => fire_keeps p h update _ _

theorem runForever_keeps (rounds : Nat) : (runForever react rounds).Keeps c := by
  refine .bind (edit_keeps p fun _ => .of_eq rfl rfl) fun _ => ?_
  refine .bind (fire_keeps p h update _ _) fun _ => ?_
  exact .bind (makeTicksForever_keeps p h update _ _) fun _ => fire_keeps p h update _ _

end Engine

variable (stage : Stage)

omit [RandomSource γ] h update in
theorem Stage.require_keeps (part : Part) : (stage.require part : Sim γ Unit).Keeps c :=
  .ite (Sim.throw_keeps p _) (.pure _)

omit [RandomSource γ] p h update in
theorem CycleId.show_keeps (id : Option CycleId) : (CycleId.show id : Sim γ Reply).Keeps c := by
  cases id with
  | none => exact .pure _
  | some id => exact .bind (.cycle id) fun _ => .pure _

omit [RandomSource γ] h update in
theorem CycleName.find_keeps (name : CycleName) :
    (name.find stage : Sim γ (Option CycleId)).Keeps c := by
  cases name with
  | lone => exact .bind .get fun _ => .pure _
  | running zone => exact .bind (stage.require_keeps p _) fun _ => Manager.find_keeps p zone

/-- **Every command to the manager keeps a contract** if what it asks of cycles does. -/
theorem ManagerCommand.perform_allowed (add : ∀ zone, (Manager.add zone).Keeps c)
    (sendTo : ∀ id observer, (CycleId.sendTo react id observer).Keeps c)
    (setWeather : ∀ id kind intensity trigger,
      (CycleId.setWeather react id kind intensity trigger).Keeps c) (command : ManagerCommand) :
    (command.perform react).Keeps c := by
  have get := Manager.getOrCreate_keeps p add
  cases command with
  | chances zone =>
    exact .bind (.bind (Sim.requireKey_keeps p _) fun _ => .bind .get fun _ => .pure _)
      fun _ => .pure _
  | find zone => exact .bind (Manager.find_keeps p zone) CycleId.show_keeps
  | add zone => exact .bind (add zone) CycleId.show_keeps
  | getOrCreate zone => exact .bind (get zone) CycleId.show_keeps
  | remove zone => exact .bind (Manager.remove_keeps p zone) fun _ => .pure _
  | update diff => exact .bind (update diff) fun _ => .pure _
  | observerEntered observer zone =>
    refine .bind (.bind (get zone) fun found => ?_) fun _ => .pure _
    cases found with
    | none => exact CycleId.sendFineTo_keeps h observer
    | some id => exact sendTo id observer
  | setWeather zone kind intensity trigger =>
    refine .bind (.bind (get zone) fun found => ?_) fun _ => .pure _
    cases found with
    | none => exact .pure _
    | some id => exact .bind (setWeather id kind intensity trigger) fun _ => .pure _
  | config => exact .bind .get fun _ => .pure _

omit [RandomSource γ] h update in
theorem DirectoryCommand.perform_keeps (command : DirectoryCommand) :
    (command.perform : Sim γ Reply).Keeps c := by
  cases command with
  | enter observer zone => exact .bind (Directory.enter_keeps p observer zone) fun _ => .pure _
  | leave observer =>
    exact .bind (fun w => Move.ends_carryOut p (m := .out observer) trivial) fun _ => .pure _
  | zoneOf observer => exact .bind .get fun _ => .pure _
  | observers zone => exact .bind (Sim.requireKey_keeps p _) fun _ => .bind .get fun _ => .pure _

omit [RandomSource γ] update in
theorem MessengerCommand.perform_keeps (command : MessengerCommand) :
    (command.perform react).Keeps c := by
  cases command with
  | send zone packet => exact .bind (Messenger.send_keeps p h zone packet) fun _ => .pure _
  | pretend reaches =>
    refine .bind (fun w => ?_) fun _ => .pure _
    exact p.surroundings w _ w.hooks w.clock w.engine w.random w.calls (.refl _)

omit [RandomSource γ] update in
theorem HooksCommand.perform_keeps (command : HooksCommand) : (command.perform react).Keeps c := by
  have edit (f : Hooks → Hooks) : (HooksCommand.perform.edit f : Sim γ Reply).Keeps c := by
    refine .bind (fun w => ?_) fun _ => .pure _
    exact p.surroundings w w.messenger _ w.clock w.engine w.random w.calls (.refl _)
  cases command with
  | onTicked listener => exact edit (·.onTicked listener)
  | onChanged listener => exact edit (·.onChanged listener)
  | unsubscribe listener => exact edit (·.unsubscribe listener)
  | clear => exact edit (·.clear)
  | notifyTicked diff =>
    exact .bind .get fun w => .bind (Hooks.notifyTicked_keeps h w.loneCycle diff) fun _ => .pure _
  | notifyChanged state intensity =>
    refine .bind .get fun w => ?_
    exact .bind (Hooks.notifyChanged_keeps h w.loneCycle state intensity) fun _ => .pure _

omit [RandomSource γ] h update in
theorem ClockCommand.perform_keeps (now : Float) (command : ClockCommand) :
    (command.perform now : Sim γ Reply).Keeps c := by
  have set (clock : Clock) : (ClockCommand.perform.setClock clock : Sim γ Unit).Keeps c :=
    fun w => p.surroundings w w.messenger w.hooks clock w.engine w.random w.calls (.refl _)
  have time : (ClockCommand.perform.time : Sim γ Float).Keeps c := by
    refine .bind .get fun w => ?_
    cases w.clock with
    | fixed day => exact Sim.throw_keeps p _
    | running time => exact .pure _
  cases command with
  | advance diff =>
    refine .bind .get fun _ => .bind (Sim.lift_keeps p _) fun clock => ?_
    exact .bind (set clock) fun _ => .bind time fun _ => .pure _
  | setTime seconds => exact .bind (.discard time) fun _ => .bind (set _) fun _ => .pure _
  | setDay n => exact .bind .get fun _ => .bind (set _) fun _ => .pure _
  | day => exact .bind (Sim.dayOfYear_keeps p) fun _ => .pure _
  | season => exact .bind (.discard time) fun _ => .bind (Sim.dayOfYear_keeps p) fun _ => .pure _
  | isNow => exact .bind time fun _ => .pure _

theorem EngineCommand.perform_keeps (command : EngineCommand) :
    (command.perform stage react).Keeps c := by
  cases command with
  | profile => exact .bind .get fun _ => .pure _
  | addSystem system => exact .bind (Engine.edit_keeps p fun _ => .of_eq rfl rfl) fun _ => .pure _
  | onStart system => exact .bind (Engine.edit_keeps p fun _ => .of_eq rfl rfl) fun _ => .pure _
  | onStop system => exact .bind (Engine.edit_keeps p fun _ => .of_eq rfl rfl) fun _ => .pure _
  | step => exact .bind (Engine.step_keeps p h update _) fun _ => .pure _
  | run count => exact .bind (Engine.run_keeps p h update _ count) fun _ => .pure _
  | runForever => exact .bind (Engine.runForever_keeps p h update _) fun _ => .pure _

omit h update in
theorem ActorCommand.perform_keeps (inTick : Bool) (command : ActorCommand) :
    (command.perform inTick : Sim γ Reply).Keeps c := by
  have owner : (ActorCommand.perform.owner inTick : Sim γ Owner).Keeps c :=
    .ite (.pure _) (.bind .get fun _ => .pure _)
  cases command with
  | fail cause => exact Sim.throw_keeps p _
  | stop =>
    refine .ite (.bind ?_ fun _ => .pure _) (Sim.throw_keeps p _)
    exact Engine.edit_keeps p fun _ => .of_eq rfl rfl
  | integer low high =>
    refine .bind owner fun _ => .bind (Sim.integerOf_keeps p _ _ _) fun _ => ?_
    exact .bind (Sim.emit_keeps p fun _ _ => nofun) fun _ => .pure _
  | normal =>
    refine .bind owner fun _ => .bind (Sim.normalOf_keeps p _ _ _) fun _ => ?_
    exact .bind (Sim.emit_keeps p fun _ _ => nofun) fun _ => .pure _

/-- **Every command keeps a contract that lets those small steps pass that leave all cycles alone**,
if the actors and updates do, and what is asked of a cycle or the manager. -/
theorem Command.perform_allowed (inTick : Bool) (command : Command γ)
    (cycle : ∀ name asked, command = .cycle name asked → ∀ id, (asked.perform react id).Keeps c)
    (manager : ∀ asked, command = .manager asked → (asked.perform react).Keeps c) :
    (command.perform stage react inTick).Keeps c := by
  cases command with
  | cycle name asked =>
    refine .bind (name.find_keeps p stage) fun found => ?_
    cases found with
    | none => exact .pure _
    | some id => exact cycle name asked rfl id
  | manager asked => exact .bind (stage.require_keeps p _) fun _ => manager asked rfl
  | messenger asked => exact asked.perform_keeps p h
  | directory asked =>
    refine .bind .get fun w => ?_
    cases w.messenger with
    | directory => exact asked.perform_keeps p
    | recorder reaches => exact Sim.throw_keeps p _
  | hooks asked => exact .bind (stage.require_keeps p _) fun _ => asked.perform_keeps p h
  | clock asked => exact asked.perform_keeps p stage.now
  | engine asked =>
    exact .bind (stage.require_keeps p _) fun _ => asked.perform_keeps p h update stage
  | actor asked => exact asked.perform_keeps p inTick
  | script change =>
    intro w
    rw [Command.perform, Sim.ends_bind, Sim.ends_get]
    cases change (w.source w.weatherOwner) with
    | none => exact p.fail _ w
    | some source => exact w.setSource_good p _ source

end Commands

section Serving

variable [RandomSource γ] {c : Contract γ} {react : Reaction γ} (h : react.Keeps c)
include h

theorem CycleCommand.perform_keeps {id : CycleId} (l : c.LetsServe id) (command : CycleCommand) :
    (command.perform react id).Keeps c := by
  cases command with
  | update diff => exact .bind (CycleId.update_keeps h l.toLetsUpdate diff) fun _ => .pure _
  | regenerate => exact .bind l.rolled fun _ => .pure _
  | broadcast trigger =>
    exact .bind (CycleId.broadcast_keeps l.toLetsTell h trigger) fun _ => .pure _
  | setWeather kind intensity trigger =>
    exact .bind (CycleId.setWeather_keeps h l kind intensity trigger) fun _ => .pure _
  | sendTo observer => exact .bind (CycleId.sendTo_keeps h l observer) fun _ => .pure _
  | sendFineTo observer => exact .bind (CycleId.sendFineTo_keeps h observer) fun _ => .pure _
  | describe => exact .bind (.cycle id) fun _ => .pure _
  | profile => exact .bind (.cycle id) fun _ => .pure _
  | assign kind intensity elapsed =>
    exact .bind (fun w => l.edited w _ fun c => ⟨rfl, rfl, rfl⟩) fun _ => .pure _

/-- **Every command keeps a contract that lets all be done that is asked of cycles**, if the actors
and updates do. -/
theorem Command.perform_keeps (s : c.Serves)
    (update : ∀ diff, (Manager.update react diff).Keeps c) (stage : Stage) (inTick : Bool)
    (command : Command γ) : (command.perform stage react inTick).Keeps c :=
  command.perform_allowed s.toAllows h update stage inTick
    (fun _ asked _ id => asked.perform_keeps h (s.cycles id))
    fun asked _ => asked.perform_allowed s.toAllows h update (Manager.add_keeps s)
      (fun id => CycleId.sendTo_keeps h (s.cycles id))
      fun id => CycleId.setWeather_keeps h (s.cycles id)

end Serving

/-- **Actors who respond with commands keep a contract that lets those small steps pass that leave
all cycles alone**, to whatever depth they call each other, if these commands keep it whenever the
actors do. -/
theorem Stage.react_allowed [RandomSource γ] {c : Contract γ} (p : c.Allows) (stage : Stage)
    {behaviour : Behaviour γ}
    (perform : ∀ {react : Reaction γ}, react.Keeps c → ∀ call w, ∀ action ∈ behaviour call w,
      (action.command.perform stage react call.isTick).Keeps c) (depth : Nat) :
    (stage.react behaviour depth).Keeps c := by
  induction depth with
  | zero => exact fun call => Sim.throw_keeps p _
  | succ depth ih =>
    intro call
    refine .bind ?_ fun _ => .bind .get fun w => .forM _ fun action mem => ?_
    · intro w
      refine c.trans (p.happened w (call.event w) fun _ _ => by cases call <;> nofun) ?_
      exact p.surroundings _ w.messenger w.hooks w.clock w.engine w.random _ (.refl _)
    · refine .bind ?_ fun due => ?_
      · rw [Action.isDue]
        cases action.tick with
        | none => exact .pure _
        | some n => exact .bind (stage.require_keeps p _) fun _ => .bind .get fun _ => .pure _
      · exact .ite (.discard (perform ih call _ action mem)) (.pure _)

/-- **Actors who respond with commands keep a contract that lets all be done that is asked of
cycles**, to whatever depth they call each other, if an update keeps it whenever the actors do. -/
theorem Stage.react_keeps [RandomSource γ] {c : Contract γ} (s : c.Serves)
    (update : ∀ {react : Reaction γ}, react.Keeps c → ∀ diff, (Manager.update react diff).Keeps c)
    (stage : Stage) (behaviour : Behaviour γ) (depth : Nat) :
    (stage.react behaviour depth).Keeps c :=
  stage.react_allowed s.toAllows
    (fun h _ _ action _ => action.command.perform_keeps h s (update h) stage _) depth

end Microclimate
