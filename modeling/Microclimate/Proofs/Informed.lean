import Microclimate.Proofs.Pass
import Microclimate.Proofs.Rolling

/-!
# Nobody holds stale weather

Observers who come into a zone are told of its weather, and those who are there are told of every
change. So whoever is in a zone has been told last what the weather of the zone is now, as long as
everybody who goes into a zone lets the manager know, and nobody turns to a cycle behind the back of
the manager.

Two things make this work. A cycle that changes without reaching anybody is dropped, and a zone
without a running cycle has nobody in it, unless it can have no weather. And a roll that reports no
change has changed nothing, for all intensities are without a sign.

* `Microclimate.World.Informed` – what somebody in a zone was told last is how things are;
* `Microclimate.World.Informs` – **everybody is informed, but for those who are late**, kept by
  every operation of the manager;
* `Microclimate.Request` – what may be asked from outside;
* `Microclimate.Request.answerAll_informed` – **after any requests everybody is informed**.
-/

namespace Microclimate

variable {γ : Type}

/-! ### Being informed -/

/-- **What an observer was told last is how things are** in a zone. If no weather is running there,
then the zone can have none, and a clear sky is what they were told of. -/
def World.Informed (w : World γ) (observer : ActorName) (zone : Value) : Prop :=
  match w.manager.find? zone with
  | some id => (w.received observer).getLast? = some (w.cycle id).packet
  | none => w.manager.chances? zone = none ∧ (w.received observer).getLast? = some .fine

/-- **Everybody is informed, but for those who are late.** -/
structure World.Informs (w : World γ) (late : ActorName → Prop) : Prop where
  registered : w.Registered
  directory : w.messenger = .directory
  tidy : w.directory.Tidy
  unsigned : ∀ {zone id}, (zone, id) ∈ w.manager.live.entries → Unsigned (w.cycle id).intensity
  informed : ∀ {observer zone}, ¬late observer → observer ∈ w.directory.observers zone →
    w.Informed observer zone

namespace World.Informed

variable {w w' : World γ} {observer : ActorName} {zone : Value}

theorem iff_running {id : CycleId} (found : w.manager.find? zone = some id) :
    w.Informed observer zone ↔ (w.received observer).getLast? = some (w.cycle id).packet := by
  rw [Informed, found]

theorem iff_idle (idle : w.manager.find? zone = none) :
    w.Informed observer zone ↔
      w.manager.chances? zone = none ∧ (w.received observer).getLast? = some .fine := by
  rw [Informed, idle]

/-- Zones that are the same key have the same weather. -/
theorem iff_sameKey {y : Value} (same : zone.sameKey y = true) :
    w.Informed observer zone ↔ w.Informed observer y := by
  simp only [Informed, Manager.find?, Manager.chances?, Table.find?_congr _ same]

/-- Where no weather is running none can be, if somebody is there who is informed. -/
theorem chances?_eq_none (h : w.Informed observer zone) (idle : w.manager.find? zone = none) :
    w.manager.chances? zone = none :=
  ((iff_idle idle).1 h).1

/-- Whoever is informed stays so while the weather stays and they are told nothing. -/
theorem congr (h : w.Informed observer zone)
    (find : w'.manager.find? zone = w.manager.find? zone)
    (chances : w'.manager.chances? zone = w.manager.chances? zone)
    (cycle : ∀ id, w.manager.find? zone = some id → w'.cycle id = w.cycle id)
    (received : (w'.received observer).getLast? = (w.received observer).getLast?) :
    w'.Informed observer zone := by
  cases found : w.manager.find? zone with
  | none =>
    rw [iff_idle (find.trans found), chances, received]
    exact (iff_idle found).1 h
  | some id =>
    rw [iff_running (find.trans found), cycle id found, received]
    exact (iff_running found).1 h

end World.Informed

namespace World.Informs

variable {w w' : World γ} {late : ActorName → Prop} {zone : Value} {id : CycleId}

/-- **Everybody stays informed while one cycle changes**, if those in its zone are told of it and
nobody else is told anything. -/
theorem touched {kind : Event → Prop} (h : w.Informs late)
    (running : (zone, id) ∈ w.manager.live.entries) (touched : w.Touches kind id w')
    (unsigned : Unsigned (w'.cycle id).intensity)
    (told : ∀ observer, ¬late observer → observer ∈ w.directory.observers zone →
      (w'.received observer).getLast? = some (w'.cycle id).packet)
    (others : ∀ observer, observer ∉ w.directory.observers zone →
      (w'.received observer).getLast? = (w.received observer).getLast?) : w'.Informs late where
  registered := touched.registered h.registered
  directory := touched.messenger.trans h.directory
  tidy := touched.directory ▸ h.tidy
  unsigned {zone' id'} entered := by
    rw [touched.manager] at entered
    by_cases same : id' = id
    · rw [same]
      exact unsigned
    · rw [touched.others same]
      exact h.unsigned entered
  informed {observer zone'} punctual there := by
    rw [touched.directory] at there
    by_cases here : observer ∈ w.directory.observers zone
    · have same := h.tidy.sameKey_of_mem here there
      have found : w'.manager.find? zone' = some id := by
        rw [touched.manager, Manager.find?, ← w.manager.live.find?_congr same]
        exact h.registered.find?_of_mem running
      exact (Informed.iff_running found).2 (told observer punctual here)
    · refine (h.informed punctual there).congr (by rw [touched.manager]) (by rw [touched.manager])
        ?_ (others observer here)
      intro id' found
      refine touched.others ?_
      rintro rfl
      -- the observer would be in the zone of the cycle
      have place := (h.registered.made running).place
      have same := Value.sameKey_trans (Value.sameKey_symm place) (h.registered.madeFor found).place
      rw [w.directory.observers_congr same] at here
      exact here there

/-- Everybody stays informed while one cycle changes in a way that is not to be seen and nobody is
told anything. -/
theorem silent {kind : Event → Prop} (h : w.Informs late)
    (running : (zone, id) ∈ w.manager.live.entries) (touched : w.Touches kind id w')
    (unsigned : Unsigned (w'.cycle id).intensity)
    (packet : (w'.cycle id).packet = (w.cycle id).packet)
    (received : ∀ observer, w'.received observer = w.received observer) : w'.Informs late := by
  refine h.touched running touched unsigned (fun observer punctual here => ?_) fun observer _ => ?_
  · rw [received, packet]
    exact (Informed.iff_running (h.registered.find?_of_mem running)).1 (h.informed punctual here)
  · rw [received]

/-- **Everybody is informed once a zone was told** of the weather of its cycle, whatever happened to
that cycle before. -/
theorem broadcast {kind : Event → Prop} (h : w.Informs late)
    (running : (zone, id) ∈ w.manager.live.entries) (touched : w.Touches kind id w')
    (received : ∀ observer, w'.received observer = w.received observer) (trigger : Bool) :
    (id.broadcast Call.note trigger).Ends w'
      (fun told w'' => w''.Informs late ∧ w''.manager = w.manager ∧
        (told = false → w''.directory.observers zone = []))
      fun _ _ => False := by
  have made := (h.registered.made running).grows touched.grows
  have known := made.known
  have members : w'.directory.observers (w'.cycle id).zone = w.directory.observers zone := by
    rw [touched.directory, w.directory.observers_congr made.place]
  have telling := CycleId.broadcast_recording (touched.messenger.trans h.directory) known
    (Value.sameKey_iff.1 made.place).1 trigger
  rw [members] at telling
  refine telling.mono (fun told w'' ⟨reached, further, clamped, last⟩ => ?_) fun _ _ h => h
  have both : w.Touches (fun _ => True) id w'' :=
    (touched.mono fun _ _ => trivial).trans (further.mono fun _ _ => trivial)
  have unsigned : Unsigned (w''.cycle id).intensity := by
    rw [clamped]
    exact unsigned_clampIntensity _
  refine ⟨h.touched running both unsigned (fun observer _ here => ?_) (fun observer away => ?_),
    both.manager, fun nobody => ?_⟩
  · rw [last, if_pos here, clamped]
  · rw [last, if_neg away, received]
  · rw [both.directory]
    simpa [nobody] using reached

/-- Everybody stays informed while listeners are told of an update. -/
theorem hearTicked (h : w.Informs late) (running : (zone, id) ∈ w.manager.live.entries)
    (diff : Int) :
    (w.hearTicked id diff).Informs late := by
  have touched : w.Touches Event.Silent id (w.hearTicked id diff) := .hearTicked w _ _ _
  have same : (w.hearTicked id diff).cycle id = w.cycle id := by
    rw [World.hearTicked, toScene_hearAll]
  refine h.silent running touched ?_ (by rw [same]) fun observer => ?_
  · rw [same]
    exact h.unsigned running
  · exact (touched.mono fun _ h => h.2).received observer

/-- **Everybody stays informed when a cycle is dropped** in whose zone nobody is. -/
theorem drop (h : w.Informs late) {reporter : CycleId} (nobody : w.directory.observers zone = []) :
    (w.discard zone reporter).Informs late := by
  have touched : w.Touches Event.Unheard reporter (w.emit (.logged (.removing zone))) :=
    .emit w fun _ => rfl
  refine ⟨h.registered.erase (.of_cycles rfl rfl rfl) rfl, h.directory, h.tidy,
    fun entered => h.unsigned (Table.mem_of_mem_erase entered),
    fun {observer zone'} punctual there => ?_⟩
  have apart : zone.sameKey zone' = false := by
    refine Bool.eq_false_iff.2 fun same => ?_
    have here : observer ∈ w.directory.observers zone := w.directory.observers_congr same ▸ there
    rw [nobody] at here
    exact absurd here List.not_mem_nil
  refine (h.informed punctual there).congr (w.manager.live.find?_erase_of_ne apart) rfl
    (fun _ _ => rfl) ?_
  exact congrArg List.getLast? (touched.received observer)

/-- **Nobody is late any more** once the only one who was has heard of the weather of their zone. -/
theorem hear {observer : ActorName} {p : Packet} (h : w.Informs (· = observer))
    (only : ∀ y, observer ∈ w.directory.observers y → zone.sameKey y = true)
    (informed : ((w.hear (.packet observer p)).received observer).getLast? = some p →
      (w.hear (.packet observer p)).Informed observer zone) :
    (w.hear (.packet observer p)).Informs fun _ => False := by
  have last := w.received_hearAll [observer] p
  refine ⟨h.registered, h.directory, h.tidy, h.unsigned, fun {other y} _ there => ?_⟩
  by_cases same : other = observer
  · rw [same] at there ⊢
    have now := informed ((last observer).trans (if_pos (List.mem_singleton_self _)))
    refine (Informed.iff_sameKey (only y there)).1 now
  · refine (h.informed same there).congr rfl rfl (fun _ _ => rfl) ?_
    exact (last other).trans (if_neg fun mem => same (List.mem_singleton.1 mem))

/-- Noting a packet that a cycle sends tells nobody anything. -/
theorem dispatch (h : w.Informs late) (id : CycleId) (receiver : Receiver) (packet : Packet) :
    (w.dispatch id receiver packet).Informs late :=
  ⟨h.registered, h.directory, h.tidy, h.unsigned, fun punctual there => h.informed punctual there⟩

/-- Everybody stays informed while somebody moves, if nobody is where they have not been and was not
informed, but for those who are late now. -/
theorem moved {d : Directory} {attempts : Array Attempt} {late' : ActorName → Prop}
    (h : w.Informs late) (tidy : d.Tidy)
    (stays : ∀ {observer z}, ¬late' observer → observer ∈ d.observers z →
      ¬late observer ∧ observer ∈ w.directory.observers z) :
    ({ w with directory := d, attempts := attempts } : World γ).Informs late' := by
  refine ⟨h.registered.grows (.of_cycles rfl rfl rfl) rfl, h.directory, tidy, h.unsigned,
    fun punctual there => ?_⟩
  obtain ⟨before, here⟩ := stays punctual there
  exact (h.informed before here).congr rfl rfl (fun _ _ => rfl) rfl

/-- Everybody stays informed when somebody leaves, and whoever has left is nowhere. -/
theorem leave (h : w.Informs late) (observer : ActorName) :
    (Move.out observer).carryOut.Ends w
      (fun _ w' => w'.Informs late ∧ w'.directory.zoneOf? observer = none) fun _ _ => False := by
  rw [Sim.Ends, Move.carryOut, Move.make, h.tidy.leave_eq]
  refine ⟨h.moved (h.tidy.without observer) fun punctual there => ⟨punctual, ?_⟩,
    w.directory.zoneOf?_without observer⟩
  exact (h.tidy.mem_observers_without.1 there).1

/-- Whoever goes into a zone is late until they are told of the weather, and is there only. -/
theorem enter (h : w.Informs fun _ => False) {observer : ActorName}
    (nowhere : w.directory.zoneOf? observer = none) (z : Value) :
    (Move.into observer z).carryOut.Ends w
      (fun _ w' => w'.Informs (· = observer) ∧
        ∀ y, observer ∈ w'.directory.observers y → z.sameKey y = true) fun _ _ => False := by
  refine ⟨h.moved (h.tidy.add nowhere z) fun {other y} punctual there => ⟨id, ?_⟩,
    fun y there => ?_⟩
  · rcases Directory.mem_observers_add.1 there with there | ⟨-, same⟩
    · exact there
    · exact absurd same punctual
  · rcases Directory.mem_observers_add.1 there with there | ⟨same, -⟩
    · obtain ⟨place, somewhere, -⟩ := h.tidy.mem_observers_iff.1 there
      rw [nowhere] at somewhere
      cases somewhere
    · exact same

end World.Informs

/-! ### What keeps everybody informed -/

section Operations

variable {w : World γ} {late : ActorName → Prop} {zone : Value} {id : CycleId}

variable [RandomSource γ]

/-- Where no weather is running and nobody is anywhere, everybody is informed. -/
theorem World.Informs.begin (idle : w.manager.live = .empty) (empty : w.directory.members = .empty)
    (directory : w.messenger = .directory) : w.Informs late := by
  have nobody : w.directory = ⟨.empty⟩ := congrArg Directory.mk empty
  refine ⟨(Reachable.start idle).registered, directory, nobody ▸ Directory.tidy_empty,
    fun entered => ?_, fun _ there => ?_⟩
  · rw [idle] at entered
    exact absurd entered List.not_mem_nil
  · rw [nobody] at there
    exact absurd there List.not_mem_nil

/-- **The turn of a cycle** leaves everybody informed, and asks to drop the cycle only if nobody is
in the zone. -/
theorem CycleId.update_informs (h : w.Informs late) (running : (zone, id) ∈ w.manager.live.entries)
    (diff : Int) :
    (id.update Call.note diff).Ends w
      (fun kept w' => w'.Informs late ∧ w'.manager = w.manager ∧
        (kept = false → w'.directory.observers zone = []))
      fun _ _ => True := by
  have made := h.registered.made running
  have ticked {w' : World γ} (informs : w'.Informs late) (same : w'.manager = w.manager) :
      (w'.hearTicked id diff).Informs late ∧ (w'.hearTicked id diff).manager = w.manager := by
    refine ⟨informs.hearTicked (same ▸ running) diff, ?_⟩
    rw [World.hearTicked, World.toScene_hearAll, same]
  rw [ends_update_note made.known]
  split
  · -- the interval has elapsed: what the roll reports decides whether anybody has to be told
    have ripe : w.Touches Event.Unheard id (w.ripe id diff) := w.touches_ripe id diff
    have now := World.cycle_ripe made.known diff
    have settled := regenerate_settles (ripe.size.symm ▸ made.known)
      (by rw [now]; exact made.table ▸ made.chances) (by rw [now]; exact h.unsigned running)
    have rolled := (id.regenerate_touches (w.ripe id diff)).and settled
    rw [now] at rolled
    refine rolled.mono (fun changed w₁ ⟨rolled, packet, unsigned⟩ => ?_) fun _ _ _ => trivial
    have first := ripe.trans (rolled.mono fun _ h => h.silent.2)
    cases changed with
    | false =>
      have informs := h.silent running first (unsigned (.inl rfl)) (packet rfl) first.received
      exact ⟨(ticked informs first.manager).1, (ticked informs first.manager).2, nofun⟩
    | true =>
      have telling := h.broadcast running first first.received true
      refine telling.mono (fun told w₂ ⟨informs, same, nobody⟩ => ?_) fun _ _ h => h.elim
      cases told with
      | true => exact ⟨(ticked informs same).1, (ticked informs same).2, nofun⟩
      | false => exact ⟨informs, same, nobody⟩
  · have passed : w.Touches Event.Unheard id (w.passTime id diff) := w.touches_passTime id diff
    have now : (w.passTime id diff).cycle id =
        { w.cycle id with timer := (w.cycle id).timer.pass diff } :=
      w.cycle_editCycle made.known _
    have informs := h.silent running passed (by rw [now]; exact h.unsigned running)
      (by rw [now]; rfl) passed.received
    exact ⟨(ticked informs passed.manager).1, (ticked informs passed.manager).2, nofun⟩

/-- **A pass leaves everybody informed**, by induction on the turns: what is registered when a turn
begins are the cycles that were kept and those that wait. -/
theorem Pass.informs {diff : Int} {turns : List (Turn γ)} {w w' : World γ}
    (pass : Pass Call.note diff w turns w') (h : w.Informs late) {kept : List (Value × CycleId)}
    (live : w.manager.live.entries = kept ++ turns.map Turn.entry) : w'.Informs late := by
  induction pass generalizing kept with
  | ended w => exact h
  | @turn t turns w' run rest ih =>
    have running : (t.zone, t.id) ∈ t.before.manager.live.entries := by
      rw [live]
      exact List.mem_append_right _ List.mem_cons_self
    obtain ⟨informs, same, nobody⟩ := (CycleId.update_informs h running diff).of_ok run
    have live : t.after.manager.live.entries = kept ++ t.entry :: turns.map Turn.entry := by
      rw [same, live]
      rfl
    refine ih ?_ (t.entries_left informs.registered live)
    rw [Turn.left]
    cases keeps : t.kept with
    | true => exact informs
    | false => exact informs.drop (nobody keeps)

omit [RandomSource γ] in
/-- Nobody is told that the weather of a zone is started. -/
theorem World.received_start (w : World γ) (zone : Value) (table : SeasonTable)
    (observer : ActorName) : (w.start zone table).received observer = w.received observer := by
  simp [World.received, World.start, Event.packetFor?]

omit [RandomSource γ] in
/-- **Starting the weather of a zone** keeps everybody informed: nobody is there but those who are
late. -/
theorem World.Informs.start {table : SeasonTable} (h : w.Informs late)
    (idle : w.manager.find? zone = none) (chances : w.manager.chances? zone = some table) :
    (w.start zone table).Informs late ∧
      ∀ observer, ¬late observer → observer ∉ w.directory.observers zone := by
  -- whoever was there before and is informed knows that the zone can have no weather
  have nobody (observer) (punctual : ¬late observer) : observer ∉ w.directory.observers zone := by
    intro here
    have none := (h.informed punctual here).chances?_eq_none idle
    rw [chances] at none
    cases none
  have find (z : Value) : (w.start zone table).manager.find? z =
      if zone.sameKey z then some ⟨w.cycles.size⟩ else w.manager.find? z :=
    w.manager.live.find?_insert zone _ z
  refine ⟨⟨(World.Proceeds.of_start chances h.registered).1, h.directory, h.tidy, fun entered => ?_,
    fun {observer zone'} punctual there => ?_⟩, nobody⟩
  · rcases Table.mem_insert entered with old | ⟨-, new⟩
    · rw [World.cycle_start_of_known (h.registered.made old).known]
      exact h.unsigned old
    · dsimp only at new
      rw [new, World.cycle_start_self]
      exact unsigned_zero
  · have apart : zone.sameKey zone' = false := by
      refine Bool.eq_false_iff.2 fun same => ?_
      have here : observer ∈ w.directory.observers zone := w.directory.observers_congr same ▸ there
      exact nobody observer punctual here
    refine (h.informed punctual there).congr (by rw [find, apart]; rfl) rfl (fun id found => ?_) ?_
    · exact World.cycle_start_of_known (h.registered.madeFor found).known
    · rw [World.received_start]

/-- **The first weather of a zone** is rolled while nobody is there but those who are late. -/
theorem CycleId.regenerate_informs {table : SeasonTable} (h : w.Informs late)
    (idle : w.manager.find? zone = none) (chances : w.manager.chances? zone = some table) :
    (CycleId.regenerate ⟨w.cycles.size⟩).Ends (w.start zone table)
      (fun _ w' => w'.Informs late ∧ w'.directory = w.directory ∧
        w'.manager.find? zone = some ⟨w.cycles.size⟩)
      fun _ _ => True := by
  obtain ⟨started, nobody⟩ := h.start idle chances
  have made := World.madeFor_start chances
  have found : (w.start zone table).manager.find? zone = some ⟨w.cycles.size⟩ := by
    have self := Table.sameKey_self_of_find? chances
    exact (w.manager.live.find?_insert zone _ zone).trans (if_pos self)
  -- the entry may name the zone in another way
  obtain ⟨k, running, same⟩ := Table.mem_of_find? found
  have settled := regenerate_settles made.known (by rw [made.table]; exact made.chances)
    (started.unsigned running)
  have rolled := (regenerate_touches ⟨w.cycles.size⟩ (w.start zone table)).and settled
  refine rolled.mono (fun _ w' ⟨rolled, _, unsigned⟩ => ?_) fun _ _ _ => trivial
  have unheard : (w.start zone table).Touches Event.Unheard ⟨w.cycles.size⟩ w' :=
    rolled.mono fun _ h => h.silent.2
  have fine : ((w.start zone table).cycle ⟨w.cycles.size⟩).kind = .fine := by
    rw [World.cycle_start_self]
  refine ⟨started.touched running unheard (unsigned (.inr fine)) (fun observer punctual here => ?_)
    (fun observer _ => by rw [unheard.received]), rolled.directory, by rw [rolled.manager, found]⟩
  rw [(w.start zone table).directory.observers_congr same] at here
  exact absurd here (nobody observer punctual)

/-- The weather of a zone is there once it was asked for, if the zone can have any, and everybody is
informed. -/
theorem Manager.getOrCreate_informs (h : w.Informs late) :
    (getOrCreate zone).Ends w
      (fun found w' => w'.Informs late ∧ w'.directory = w.directory ∧
        w'.manager.find? zone = found ∧ (found = none → w'.manager.chances? zone = none))
      fun _ _ => True := by
  rw [ends_getOrCreate]
  split
  · split
    next id running => exact ⟨h, rfl, running, nofun⟩
    next idle =>
      rw [ends_add]
      split
      · split
        next chances => exact ⟨h, rfl, idle, fun _ => chances⟩
        next table chances =>
          refine (CycleId.regenerate_informs h idle chances).mono (fun _ w' got => ?_)
            fun _ _ _ => trivial
          exact ⟨got.1, got.2.1, got.2.2, nofun⟩
      · trivial
  · trivial

omit [RandomSource γ] in
/-- **Forcing some weather** keeps everybody informed. -/
theorem CycleId.setWeather_informs (h : w.Informs late)
    (running : (zone, id) ∈ w.manager.live.entries) (kind : WeatherKind) (intensity : Float)
    (trigger : Bool) :
    (id.setWeather Call.note kind intensity trigger).Ends w (fun _ w' => w'.Informs late)
      fun _ _ => True := by
  rw [setWeather, Sim.ends_bind, Sim.ends_cycle, Sim.ends_ite]
  split
  · exact h
  · rw [Sim.ends_bind, Sim.ends_editCycle, Sim.ends_discard]
    have touched : w.Touches Event.Unheard id (w.editCycle id (·.withWeather kind intensity)) :=
      .editCycle w id fun _ => ⟨rfl, rfl, rfl⟩
    refine (h.broadcast running touched (fun _ => rfl) trigger).mono (fun _ w' got => got.1) ?_
    exact fun _ _ h => h.elim

theorem Manager.setZoneWeather_informs (h : w.Informs late) (kind : WeatherKind) (intensity : Float)
    (trigger : Bool) :
    (setZoneWeather Call.note zone kind intensity trigger).Ends w (fun _ w' => w'.Informs late)
      fun _ _ => True := by
  rw [setZoneWeather, Sim.ends_bind]
  refine (getOrCreate_informs h).mono (fun found w₁ ⟨informs, _, there, _⟩ => ?_) fun _ _ h => h
  cases found with
  | none => exact informs
  | some id =>
    obtain ⟨k, running, -⟩ := Table.mem_of_find? there
    rw [Sim.ends_bind]
    exact CycleId.setWeather_informs informs running kind intensity trigger

/-- **Telling somebody who has just come** of the weather: nobody is late any more. -/
theorem Manager.observerEntered_informs {observer : ActorName} (h : w.Informs (· = observer))
    (only : ∀ y, observer ∈ w.directory.observers y → zone.sameKey y = true) :
    (observerEntered Call.note observer zone).Ends w (fun _ w' => w'.Informs fun _ => False)
      fun _ _ => True := by
  rw [observerEntered, Sim.ends_bind]
  refine (getOrCreate_informs h).mono (fun found w₁ ⟨informs, members, there, without⟩ => ?_)
    fun _ _ h => h
  rw [← members] at only
  cases found with
  | none =>
    exact informs.hear only fun last =>
      (World.Informed.iff_idle (w := w₁.hear _) there).2 ⟨without rfl, last⟩
  | some id =>
    have noted := informs.dispatch id (.observer observer) (w₁.cycle id).packet
    exact noted.hear only fun last =>
      (World.Informed.iff_running (w := (World.dispatch w₁ _ _ _).hear _) there).2 last

/-- **Updating** keeps everybody informed. -/
theorem Manager.update_informs (h : w.Informs late) (diff : Int) :
    (update Call.note diff).Ends w (fun _ w' => w'.Informs late) fun _ _ => True := by
  have passed := updateEach_pass diff w.manager.live.entries [] h.directory h.registered rfl
  rw [update, Sim.ends_bind, Sim.ends_get]
  refine passed.mono ?_ fun _ _ _ => trivial
  rintro _ w' ⟨turns, entries, account, -⟩
  have live : w.manager.live.entries = [] ++ turns.map Turn.entry := entries
  exact account.pass.informs h live

end Operations

/-! ### Requests -/

/-- What may be asked from outside. -/
inductive Request where
  /-- Somebody goes into a zone and lets the manager know. -/
  | arrive (observer : ActorName) (zone : Value)
  /-- Somebody leaves their zone. -/
  | leave (observer : ActorName)
  /-- Time passes for all running cycles. -/
  | update (diff : Int)
  /-- The weather of a zone is asked for. -/
  | getOrCreate (zone : Value)
  /-- Some weather is forced on a zone. -/
  | setWeather (zone : Value) (kind : WeatherKind) (intensity : Float) (trigger : Bool)

namespace Request

/-- The commands of which a request is made. -/
def commands : Request → List (Command γ)
  | arrive observer zone =>
    [.directory (.enter observer zone), .manager (.observerEntered observer zone)]
  | leave observer => [.directory (.leave observer)]
  | update diff => [.manager (.update diff)]
  | getOrCreate zone => [.manager (.getOrCreate zone)]
  | setWeather zone kind intensity trigger => [.manager (.setWeather zone kind intensity trigger)]

variable [RandomSource γ]

/-- Answers a request by carrying out its commands. -/
def answer (stage : Stage) (react : Reaction γ) (r : Request) : Sim γ Unit :=
  r.commands.forM fun c => discard (c.perform stage react false)

/-- Answers requests, one after the other. -/
def answerAll (stage : Stage) (react : Reaction γ) (requests : List Request) : Sim γ Unit :=
  requests.forM (answer stage react)

/-- What is asked of the manager is carried out, if there is a manager. -/
theorem ends_manager {stage : Stage} {react : Reaction γ} {command : ManagerCommand} {w : World γ}
    {P : World γ → Prop}
    (h : (command.perform react).Ends w (fun _ w' => P w') fun _ _ => True) :
    Sim.Ends (discard (Command.perform stage react false (.manager command))) w (fun _ w' => P w')
      fun _ _ => True := by
  rw [Sim.ends_discard, Command.perform, Stage.require, Sim.ends_bind, Sim.ends_ite]
  split
  · trivial
  · exact h

/-- **A request that is answered leaves everybody informed.** -/
theorem answer_informs (stage : Stage) (r : Request) {w : World γ} (h : w.Informs fun _ => False) :
    (r.answer stage Call.note).Ends w (fun _ w' => w'.Informs fun _ => False) fun _ _ => True := by
  -- a single command for the manager
  have manager {command : ManagerCommand}
      (kept : (command.perform Call.note).Ends w (fun _ w' => w'.Informs fun _ => False)
        fun _ _ => True) :
      Sim.Ends (List.forM [Command.manager command] fun c =>
        discard (c.perform stage Call.note false)) w (fun _ w' => w'.Informs fun _ => False)
          fun _ _ => True := by
    rw [List.forM, Sim.ends_bind]
    exact ends_manager kept
  cases r with
  | arrive observer zone =>
    rw [answer, commands, List.forM, Sim.ends_bind, Sim.ends_discard, Command.perform,
      Sim.ends_bind, Sim.ends_get, h.directory]
    simp only [DirectoryCommand.perform, Directory.enter, Sim.ends_bind, Sim.ends_requireKey,
      Sim.ends_pure]
    refine (h.leave observer).mono (fun _ w₁ gone => ?_) fun _ _ failed => failed.elim
    obtain ⟨left, nowhere⟩ := gone
    split
    · refine (left.enter nowhere zone).mono (fun _ w₂ came => ?_) fun _ _ failed => failed.elim
      obtain ⟨late, only⟩ := came
      rw [List.forM, Sim.ends_bind]
      refine ends_manager ?_
      rw [ManagerCommand.perform, Sim.ends_bind]
      exact Manager.observerEntered_informs late only
    · trivial
  | leave observer =>
    rw [answer, commands, List.forM, Sim.ends_bind, Sim.ends_discard, Command.perform,
      Sim.ends_bind, Sim.ends_get, h.directory]
    simp only [DirectoryCommand.perform, Sim.ends_bind, Sim.ends_pure]
    exact (h.leave observer).mono (fun _ _ left => left.1) fun _ _ failed => failed.elim
  | update diff =>
    refine manager ?_
    rw [ManagerCommand.perform, Sim.ends_bind]
    exact Manager.update_informs h diff
  | getOrCreate zone =>
    refine manager ?_
    rw [ManagerCommand.perform, Sim.ends_bind]
    refine (Manager.getOrCreate_informs h).mono (fun found w' got => ?_) fun _ _ h => h
    cases found <;> exact got.1
  | setWeather zone kind intensity trigger =>
    refine manager ?_
    rw [ManagerCommand.perform, Sim.ends_bind]
    exact Manager.setZoneWeather_informs h kind intensity trigger

/-- **Requests that are answered, one after the other, leave everybody informed.** -/
theorem answerAll_informs (stage : Stage) (requests : List Request) {w : World γ}
    (h : w.Informs fun _ => False) :
    (answerAll stage Call.note requests).Ends w (fun _ w' => w'.Informs fun _ => False)
      fun _ _ => True := by
  induction requests generalizing w with
  | nil => exact h
  | cons r rest ih =>
    rw [answerAll, List.forM, Sim.ends_bind]
    exact (answer_informs stage r h).mono (fun _ _ informs => ih informs) fun _ _ h => h

/-- Requests that were answered, with actors who only take note, have left everybody informed. -/
theorem informs_of_answerAll (stage : Stage) (depth : Nat) {requests : List Request}
    {w w' : World γ} (h : w.Informs fun _ => False)
    (run : answerAll stage (stage.react .recording (depth + 1)) requests w = .ok () w') :
    w'.Informs fun _ => False := by
  rw [Stage.react_recording] at run
  exact (answerAll_informs stage requests h).of_ok run

/-- **Nobody holds stale weather.** After any requests that were answered, with actors who only take
note, whoever is in a zone has been told last what the weather there is. A zone that can have
weather and in which somebody is has its weather running. -/
theorem answerAll_informed (stage : Stage) (depth : Nat) (requests : List Request) {w w' : World γ}
    (idle : w.manager.live = .empty) (empty : w.directory.members = .empty)
    (directory : w.messenger = .directory)
    (run : answerAll stage (stage.react .recording (depth + 1)) requests w = .ok () w') :
    (∀ observer zone, observer ∈ w'.directory.observers zone → w'.Informed observer zone) ∧
      (∀ observer place, w'.directory.zoneOf? observer = some place → place.sameKey place = true →
        w'.Informed observer place) ∧
      ∀ zone, w'.directory.observers zone ≠ [] → (w'.manager.chances? zone).isSome →
        (w'.manager.find? zone).isSome := by
  rw [Stage.react_recording] at run
  have start : w.Informs fun _ => False := .begin idle empty directory
  have informs := (answerAll_informs stage requests start).of_ok run
  have informed {observer zone} (there : observer ∈ w'.directory.observers zone) :
      w'.Informed observer zone := informs.informed not_false there
  refine ⟨fun _ _ => informed, fun observer place there same => ?_, fun zone members chances => ?_⟩
  · exact informed (informs.tidy.mem_observers_iff.2 ⟨place, there, same⟩)
  · obtain ⟨observer, here⟩ := List.exists_mem_of_ne_nil _ members
    refine Option.isSome_iff_ne_none.2 fun idle => ?_
    rw [(informed here).chances?_eq_none idle] at chances
    cases chances

end Request

namespace TwoZones

/-- Somebody. -/
def visitor : ActorName := "visitor"

/-- Somebody comes into the first zone and stays there while its weather changes radically. -/
def visit : List Request := [.arrive visitor (.text "a"), .update 600000]

/-- Is the visitor in the first zone when all requests are answered? -/
def isVisited : Bool :=
  match Request.answerAll {} (Stage.react {} .recording 1) visit
    (idle { integers := [0, 95, 1, 0], normals := [0.5] } : World Script) with
  | .ok _ w' => visitor ∈ w'.directory.observers (.text "a")
  | .error _ _ => false

theorem isVisited_eq : isVisited = true := by decide +kernel

end TwoZones

/-- The visitor has been told of the change. -/
theorem Request.answerAll_informed_visit :
    ∃ w', answerAll {} (Stage.react {} .recording 1) TwoZones.visit
        (TwoZones.idle { integers := [0, 95, 1, 0], normals := [0.5] } : World Script) = .ok () w' ∧
      TwoZones.visitor ∈ w'.directory.observers (.text "a") ∧
        w'.Informed TwoZones.visitor (.text "a") := by
  have visited := TwoZones.isVisited_eq
  rw [TwoZones.isVisited] at visited
  cases run : answerAll {} (Stage.react {} .recording 1) TwoZones.visit
      (TwoZones.idle { integers := [0, 95, 1, 0], normals := [0.5] } : World Script) with
  | error f w' =>
    rw [run] at visited
    cases visited
  | ok a w' =>
    rw [run] at visited
    have there : TwoZones.visitor ∈ w'.directory.observers (.text "a") := of_decide_eq_true visited
    exact ⟨w', rfl, there, (answerAll_informed {} 0 TwoZones.visit rfl rfl rfl run).1 _ _ there⟩

end Microclimate
