import Microclimate.Proofs.Overriding
import Microclimate.Proofs.Repeats

/-!
# Changes that are kept quiet

Whoever watches a zone sees the state of its weather change, and would like to be told whenever an
update changes it. An update tells of the weather if the roll reports a change, and a roll that
reports none has left kind and intensity as they were: as doubles compare, which is enough, for the
state is read off by comparing too. So in a zone **with chances** no state changes silently,
whatever weather was forced before, and the zone was always told last of the state that its cycle
has.

A cycle without chances has no weather of its own. When its interval has elapsed it is put back to
fine weather and reports nothing, so that whatever was forced on it ends **without a word**.

* `Microclimate.classify_congr` – intensities that compare as equal make the same state;
* `Microclimate.World.HandsOver` – the zone of a cycle is told of its weather on the way;
* `Microclimate.World.Clears` – a cycle without chances is put back, and nothing is told;
* `Microclimate.CycleId.update_speaksUp`, `Microclimate.CycleId.update_clears` – an update of a
  cycle with chances, and of one without;
* `Microclimate.CycleId.obey_spoken` – what a zone was told last, after any run;
* `Microclimate.CycleId.update_notSilent` – **which changes are told, and which are kept quiet**;
* `Microclimate.CycleId.update_silent` – black rain that ends without a word.
-/

namespace Microclimate

variable {γ : Type}

/-! ### States of intensities that compare as equal -/

theorem lt_congr {x y t : Float} (number : IsNumber t) (same : (x == y) = true) :
    x < t ↔ y < t := by
  obtain ⟨hx, hy⟩ := isNumber_of_compare (beq_def.1 same)
  rw [lt_iff_place hx number, lt_iff_place hy number, (beq_iff_place hx hy).1 same]

/-- **Intensities that compare as equal make the same state**, be it with a sign or without. -/
theorem classify_congr (kind : WeatherKind) {x y : Float} (same : (x == y) = true) :
    classify kind x = classify kind y := by
  have low := isNumber_of_lt (show fineBelow < lightBelow by decide)
  have high := isNumber_of_lt (show lightBelow < mediumBelow by decide)
  simp only [classify, Severity.ofIntensity, lt_congr low.1 same, lt_congr low.2 same,
    lt_congr high.2 same]

theorem Cycle.HasWeather.state {c d : Cycle} (h : c.HasWeather d.kind d.intensity) :
    c.state = d.state := by
  rw [Cycle.state, h.1, classify_congr _ h.2, Cycle.state]

/-! ### Being told on the way -/

/-- **The zone of a cycle is told of its weather** on the way from one world to another: one packet
is sent, and after some rolls of the weather it is delivered. -/
structure World.HandsOver (w : World γ) (id : CycleId) (w' : World γ) : Prop where
  sends : ∃ d, w.Sends [d] w' ∧ d.sender = id ∧ d.receiver = .zone (w.cycle id).zone ∧
    d.packet = (w'.cycle id).packet
  events : ∃ rolls more, (∀ e ∈ rolls, Event.IsRoll e) ∧
    w'.events.toList = w.events.toList ++ rolls ++
      w.deliveries (w.cycle id).zone (w'.cycle id).packet ++ more

/-- Whatever was rolled before and is noted afterwards, telling the zone is telling it on the
way. -/
theorem World.TellsZone.handsOver {w v u w' : World γ} {id : CycleId} {trigger : Bool}
    (known : id.number < w.cycles.size) (rolled : w.Touches Event.IsRoll id v)
    (unsent : v.sent = w.sent) (tells : v.TellsZone id trigger u) (scene : w'.toScene = u.toScene)
    (sent : w'.sent = u.sent) (noted : ∃ more, w'.events.toList = u.events.toList ++ more) :
    w.HandsOver id w' := by
  obtain ⟨d, sends, sender, receiver, packet⟩ := tells.sends
  obtain ⟨ms, adds, rolls⟩ := rolled.moments
  obtain ⟨more, noted⟩ := noted
  have zone : (v.cycle id).zone = (w.cycle id).zone := rolled.make.zone
  have now : (u.cycle id).zone = (w.cycle id).zone := by
    rw [tells.cycle (rolled.size.symm ▸ known), Cycle.zone_clamp, zone]
  have deliveries (p : Packet) := rolled.congr (·.deliveries (w.cycle id).zone p) fun _ _ => rfl
  constructor
  · refine ⟨d, ?_, sender, by rw [receiver, zone], by rw [packet, scene]⟩
    rwa [Sends, sent, ← unsent]
  · rw [noted, tells.events, Scene.broadcasts, adds.events, scene, now, deliveries]
    refine ⟨ms.map (·.event), _, fun e mem => ?_, by simp only [List.append_assoc]; rfl⟩
    obtain ⟨m, among, rfl⟩ := List.mem_map.1 mem
    exact rolls m among

/-- **A cycle speaks up** on the way from one world to another: it keeps what it was made with, and
if it has chances, its state stays the same and nothing is sent, or its zone is told. -/
structure World.SpeaksUp (w : World γ) (id : CycleId) (w' : World γ) : Prop where
  size : w'.cycles.size = w.cycles.size
  make : (w.cycle id).SameMake (w'.cycle id)
  told : (w.cycle id).table.isSome →
    (w'.cycle id).state = (w.cycle id).state ∧ w'.sent = w.sent ∨ w.HandsOver id w'

namespace World.SpeaksUp

variable {id : CycleId} {w w' : World γ}

/-- A cycle that is touched only so as not to be seen need not say anything. -/
theorem of_touches {kind : Event → Prop} (touched : w.Touches kind id w') (sent : w'.sent = w.sent)
    (state : (w.cycle id).table.isSome → (w'.cycle id).state = (w.cycle id).state) :
    w.SpeaksUp id w' :=
  ⟨touched.size, touched.make, fun chances => .inl ⟨state chances, sent⟩⟩

/-- A cycle speaks up when its zone is told, whatever was rolled before and is noted afterwards. -/
theorem of_tells {v u : World γ} {trigger : Bool} (known : id.number < w.cycles.size)
    (rolled : w.Touches Event.IsRoll id v) (unsent : v.sent = w.sent)
    (tells : v.TellsZone id trigger u) (scene : w'.toScene = u.toScene) (sent : w'.sent = u.sent)
    (noted : ∃ more, w'.events.toList = u.events.toList ++ more) : w.SpeaksUp id w' where
  size := by
    rw [scene, tells.scene]
    simpa using rolled.size
  make := by
    rw [scene, tells.cycle (rolled.size.symm ▸ known)]
    exact ⟨rolled.make.zone, rolled.make.table, rolled.make.interval⟩
  told _ := .inr (tells.handsOver known rolled unsent scene sent noted)

end World.SpeaksUp

/-- **A cycle without chances is put back** when its interval has elapsed: to fine weather without
any intensity. Otherwise it keeps its weather. Nothing is sent and nothing handed over in either
case. -/
structure World.Clears (w : World γ) (id : CycleId) (diff : Int) (w' : World γ) : Prop where
  sent : w'.sent = w.sent
  delivers : w.Delivers [] w'
  due : (w.cycle id).isDue diff → (w'.cycle id).kind = .fine ∧ (w'.cycle id).intensity = 0.0
  early : ¬(w.cycle id).isDue diff → (w.cycle id).SameWeather (w'.cycle id)

/-- What the zone of such a cycle would be told of: clear skies, or the weather as it was. -/
theorem World.Clears.packet {w w' : World γ} {id : CycleId} {diff : Int} (h : w.Clears id diff w') :
    (w'.cycle id).packet = if (w.cycle id).isDue diff then .fine else (w.cycle id).packet := by
  rw [Cycle.packet, Cycle.state]
  split
  next elapsed =>
    obtain ⟨fine, nothing⟩ := h.due elapsed
    rw [fine, nothing]
    exact congrArg (Packet.mk · 0.0) (show classify .fine 0.0 = .fine by decide)
  next waiting =>
    rw [(h.early waiting).kind, (h.early waiting).intensity]
    rfl

namespace CycleId

variable {id : CycleId} {w : World γ} (known : id.number < w.cycles.size)
include known

/-- **When weather is forced on it, a cycle speaks up.** -/
theorem setWeather_speaksUp (kind : WeatherKind) (intensity : Float) (trigger : Bool) :
    (id.setWeather Call.note kind intensity trigger).Ends w (fun _ w' => w.SpeaksUp id w')
      fun _ _ => True := by
  by_cases has : (w.cycle id).HasWeather kind intensity
  · rw [ends_setWeather, if_pos has]
    have untouched : w.Touches Event.IsRoll id w := .refl w
    exact .of_touches untouched rfl fun _ => rfl
  · have forced : w.Touches Event.IsRoll id (w.editCycle id (·.withWeather kind intensity)) :=
      .editCycle w id fun _ => ⟨rfl, rfl, rfl⟩
    exact (setWeather_tells known trigger has).mono
      (fun _ _ told => .of_tells known forced rfl told.2 rfl rfl ⟨[], (List.append_nil _).symm⟩)
      fun _ _ _ => trivial

variable [RandomSource γ]

/-- **When time passes, a cycle speaks up.** -/
theorem update_speaksUp (diff : Int) :
    (id.update Call.note diff).Ends w (fun _ w' => w.SpeaksUp id w') fun _ _ => True := by
  have ticked (v : World γ) : (v.hearTicked id diff).toScene = v.toScene := v.toScene_hearAll _
  have unsent (v : World γ) : (v.hearTicked id diff).sent = v.sent := v.sent_hearAll _
  have touched (v : World γ) : v.Touches (fun _ => True) id (v.hearTicked id diff) :=
    (World.Touches.hearTicked v _ _ _).mono fun _ _ => trivial
  rw [ends_update_note known]
  split
  · have ripe : w.Touches Event.IsRoll id (w.ripe id diff) := w.touches_ripe id diff
    have now := World.cycle_ripe known diff
    have rolling := ((regenerate_touches id (w.ripe id diff)).and
      (regenerate_sent id (w.ripe id diff))).and (Sim.ends_self id.regenerate (w.ripe id diff))
    refine rolling.mono (fun changed v ⟨⟨rolled, sent⟩, run⟩ => ?_) fun _ _ _ => trivial
    have first := ripe.trans rolled
    cases changed with
    | true =>
      refine (broadcast_tells (first.size.symm ▸ known) true).mono (fun told u ends => ?_)
        fun _ _ _ => trivial
      obtain ⟨-, -, tells⟩ := ends
      cases told with
      | true =>
        exact .of_tells known first sent tells (ticked u) (unsent u)
          ⟨_, u.events_hearTicked id diff⟩
      | false => exact .of_tells known first sent tells rfl rfl ⟨[], (List.append_nil _).symm⟩
    | false =>
      refine .of_touches ((first.mono fun _ _ => trivial).trans (touched v))
        ((unsent v).trans sent) fun chances => ?_
      have stands := (regenerate_stands (by rw [now]; exact chances)).of_ok run rfl
      rw [now] at stands
      rw [ticked v]
      rcases stands with same | same
      · rw [same]
        rfl
      · exact same.state (d := w.cycle id)
  · refine .of_touches ((w.touches_passTime id diff).trans (touched _)) (unsent _) fun _ => ?_
    rw [ticked, World.cycle_passTime known]
    rfl

/-- Without chances, an update sends nothing, and puts the weather back when it is due. -/
theorem update_mute (without : (w.cycle id).table = none) (diff : Int) :
    (id.update Call.note diff).Ends w
      (fun _ w' => w'.sent = w.sent ∧
        if (w.cycle id).isDue diff then
          (w'.cycle id).kind = .fine ∧ (w'.cycle id).intensity = 0.0
        else (w.cycle id).SameWeather (w'.cycle id))
      fun _ _ => False := by
  have ticked (v : World γ) : (v.hearTicked id diff).toScene = v.toScene := v.toScene_hearAll _
  have unsent (v : World γ) : (v.hearTicked id diff).sent = v.sent := v.sent_hearAll _
  rw [ends_update_note known]
  split
  · have now := World.cycle_ripe known diff
    have there : id.number < (w.ripe id diff).cycles.size := by
      simpa [World.ripe, World.passTime] using known
    have back := (w.ripe id diff).cycle_editCycle there (·.withWeather .fine 0.0)
    rw [ends_regenerate_of_none (by rw [now]; exact without), if_neg Bool.false_ne_true, unsent,
      ticked, back]
    exact ⟨rfl, rfl, rfl⟩
  · rw [unsent, ticked, World.cycle_passTime known]
    exact ⟨rfl, rfl, rfl⟩

/-- **Without chances, an update clears the sky without a word**, if it is due. -/
theorem update_clears (without : (w.cycle id).table = none) (diff : Int) :
    (id.update Call.note diff).Ends w (fun _ w' => w.Clears id diff w') fun _ _ => False := by
  refine ((update_mute known without diff).and (update_delivers id diff w)).mono
    (fun _ w' ends => ?_) fun _ _ ends => ends.1
  obtain ⟨⟨sent, weather⟩, ds, -, delivers⟩ := ends
  -- what was sent was handed over, and that is nothing
  have none : ds = [] :=
    List.append_cancel_left (delivers.sends.symm.trans (World.Sends.nothing sent))
  refine ⟨sent, none ▸ delivers, fun elapsed => ?_, fun waiting => ?_⟩
  · rwa [if_pos elapsed] at weather
  · rwa [if_neg waiting] at weather

end CycleId

/-! ### Runs -/

/-- A command by which time passes for a cycle, or weather is forced on it. -/
def CycleCommand.IsDriving : CycleCommand → Prop
  | update _ | setWeather .. => True
  | _ => False

/-- The state of which some packets told last, if there are any; else some other one. -/
def Dispatch.lastState (ds : List Dispatch) (otherwise : WeatherState) : WeatherState :=
  (ds.getLast?.map (·.packet.state)).getD otherwise

/-- **A zone has heard last of the state of its cycle**, if it heard of any since the world `start`,
and if the cycle has chances. -/
structure CycleId.Spoken (id : CycleId) (start w : World γ) : Prop where
  size : w.cycles.size = start.cycles.size
  make : (start.cycle id).SameMake (w.cycle id)
  last : (start.cycle id).table.isSome → ∃ ds, start.Sends ds w ∧
    (w.cycle id).state = Dispatch.lastState ds (start.cycle id).state

namespace CycleId

variable {id : CycleId} {start w w' : World γ}

theorem Spoken.refl (start : World γ) : id.Spoken start start :=
  ⟨rfl, ⟨rfl, rfl, rfl⟩, fun _ => ⟨[], .nothing rfl, rfl⟩⟩

/-- A cycle that speaks up keeps its zone up to date. -/
theorem Spoken.next (h : id.Spoken start w) (up : w.SpeaksUp id w') : id.Spoken start w' where
  size := up.size.trans h.size
  make := ⟨up.make.zone.trans h.make.zone, up.make.table.trans h.make.table,
    up.make.interval.trans h.make.interval⟩
  last chances := by
    obtain ⟨ds, sends, state⟩ := h.last chances
    rcases up.told (h.make.table ▸ chances) with ⟨same, sent⟩ | ⟨⟨d, sent, -, -, packet⟩, -⟩
    · exact ⟨ds, by rwa [World.Sends, sent], same.trans state⟩
    · refine ⟨ds ++ [d], sends.trans sent, ?_⟩
      rw [Dispatch.lastState, List.getLast?_concat, Option.map_some, Option.getD_some, packet]
      rfl

variable [RandomSource γ]

/-- A cycle obeys some commands, one after the other. -/
def obey (react : Reaction γ) (id : CycleId) (commands : List CycleCommand) : Sim γ Unit :=
  commands.forM fun command => discard (command.perform react id)

/-- **What a zone has heard last, after any run** of updates and forced weather. -/
theorem obey_spoken (known : id.number < start.cycles.size) {commands : List CycleCommand}
    (driving : ∀ command ∈ commands, command.IsDriving) (h : id.Spoken start w) :
    (id.obey Call.note commands).Ends w (fun _ w' => id.Spoken start w') fun _ _ => True := by
  rw [obey]
  induction commands generalizing w with
  | nil => exact h
  | cons command rest ih =>
    have later := fun other mem => driving other (List.mem_cons_of_mem command mem)
    have there : id.number < w.cycles.size := h.size ▸ known
    rw [List.forM, Sim.ends_bind, Sim.ends_discard]
    have speaks : (command.perform Call.note id).Ends w (fun _ v => w.SpeaksUp id v)
        fun _ _ => True := by
      cases command with
      | update diff =>
        rw [CycleCommand.perform, Sim.ends_bind]
        exact update_speaksUp there diff
      | setWeather kind intensity trigger =>
        rw [CycleCommand.perform, Sim.ends_bind]
        exact setWeather_speaksUp there kind intensity trigger
      | _ => exact (driving _ List.mem_cons_self).elim
    exact speaks.mono (fun _ v up => ih later (h.next up)) fun _ _ _ => trivial

/-- **Which changes are told, and which are kept quiet.** A cycle has obeyed any commands by which
time passes or weather is forced, with actors who only take note, and time passes once more. If the
cycle has chances, then the state that it had was the one its zone was told of last; and now the
state stays the same, or the zone is told of it. If it has none, then nothing is told; when the
interval has elapsed the weather is fine, without any intensity, and otherwise kind and intensity
stay as they are. -/
theorem update_notSilent (known : id.number < start.cycles.size) (stage : Stage) (depth : Nat)
    {commands : List CycleCommand} (driving : ∀ command ∈ commands, command.IsDriving)
    (run : id.obey (stage.react .recording (depth + 1)) commands start = .ok () w) (diff : Int) :
    (id.update (stage.react .recording (depth + 1)) diff).Ends w
      (fun _ w' =>
        if (start.cycle id).table.isSome then
          (∃ ds, start.Sends ds w ∧
            (w.cycle id).state = Dispatch.lastState ds (start.cycle id).state) ∧
          ((w'.cycle id).state = (w.cycle id).state ∧ w'.sent = w.sent ∨ w.HandsOver id w')
        else
          w.Clears id diff w' ∧ (w'.cycle id).packet =
            if (w.cycle id).isDue diff then .fine else (w.cycle id).packet)
      fun _ _ => True := by
  rw [Stage.react_recording] at run ⊢
  have spoken := (obey_spoken known driving (.refl start)).of_ok run
  have there : id.number < w.cycles.size := spoken.size ▸ known
  split
  next chances =>
    refine (update_speaksUp there diff).mono (fun _ w' up => ⟨spoken.last chances, ?_⟩)
      fun _ _ _ => trivial
    exact up.told (spoken.make.table ▸ chances)
  next without =>
    have none : (w.cycle id).table = none := by
      rw [spoken.make.table]
      simpa using without
    exact (update_clears there none diff).mono (fun _ _ clears => ⟨clears, clears.packet⟩)
      fun _ _ _ => trivial

end CycleId

/-! ### Rain that gets less, and rain that is put back -/

namespace Subsiding

/-- Heavy rain is forced. -/
def commands : List CycleCommand := [.setWeather .rain 0.9 true]

/-- The heavy rain that was forced on a cycle with chances. -/
def heavy : World Script :=
  (CycleId.obey (Stage.react {} .recording 1) ⟨0⟩ commands).worldLeft Showers.before

/-- The medium rain that is left of it. -/
def medium : World Script := (CycleId.update (Stage.react {} .recording 1) ⟨0⟩ 10).worldLeft heavy

theorem obey_commands :
    CycleId.obey (Stage.react {} .recording 1) ⟨0⟩ commands Showers.before = .ok () heavy := rfl

theorem update_heavy :
    CycleId.update (Stage.react {} .recording 1) ⟨0⟩ 10 heavy = .ok true medium := rfl

end Subsiding

/-- The rain gets less, and the zone is told. -/
theorem CycleId.update_notSilent_subsiding :
    0 < Showers.before.cycles.size ∧ (∀ command ∈ Subsiding.commands, command.IsDriving) ∧
      CycleId.obey (Stage.react {} .recording 1) ⟨0⟩ Subsiding.commands Showers.before =
        .ok () Subsiding.heavy ∧
      CycleId.update (Stage.react {} .recording 1) ⟨0⟩ 10 Subsiding.heavy =
        .ok true Subsiding.medium ∧
      (Subsiding.heavy.cycle ⟨0⟩).state = Family.rain.state .heavy ∧
      (Subsiding.medium.cycle ⟨0⟩).state = Family.rain.state .medium ∧
      Subsiding.heavy.HandsOver ⟨0⟩ Subsiding.medium := by
  have known : 0 < Showers.before.cycles.size := by decide
  have driving : ∀ command ∈ Subsiding.commands, command.IsDriving := by
    simp [Subsiding.commands, CycleCommand.IsDriving]
  have told := (@update_notSilent Script ⟨0⟩ _ _ _ known {} 0 _ driving
    Subsiding.obey_commands 10).of_ok Subsiding.update_heavy
  rw [if_pos (by rfl)] at told
  have states : (Subsiding.heavy.cycle ⟨0⟩).state = Family.rain.state .heavy ∧
      (Subsiding.medium.cycle ⟨0⟩).state = Family.rain.state .medium := by decide +kernel
  refine ⟨known, driving, Subsiding.obey_commands, Subsiding.update_heavy, states.1, states.2,
    told.2.resolve_left fun quiet => ?_⟩
  rw [states.1, states.2] at quiet
  exact absurd quiet.1 (by decide)

namespace Spell

/-- A cycle without chances, and somebody in its zone. -/
def before : World Script :=
  { cycles := #[{ zone := .text "a", table := none, timer := { interval := 10 } }]
    messenger := .recorder true
    random := {}
    engine := { tps_pos := standardTps_pos, random := {} } }

/-- Black rain is forced. -/
def commands : List CycleCommand := [.setWeather .blackrain 0.9 true]

/-- The world in black rain. -/
def black : World Script :=
  (CycleId.obey (Stage.react {} .recording 1) ⟨0⟩ commands).worldLeft before

/-- The world when the interval has elapsed. -/
def cleared : World Script := (CycleId.update (Stage.react {} .recording 1) ⟨0⟩ 10).worldLeft black

end Spell

/-- **Black rain ends without a word**: the zone was told of it, and is not told of the fine weather
that follows. -/
theorem CycleId.update_silent :
    CycleId.obey (Stage.react {} .recording 1) ⟨0⟩ Spell.commands Spell.before =
        .ok () Spell.black ∧
      CycleId.update (Stage.react {} .recording 1) ⟨0⟩ 10 Spell.black = .ok true Spell.cleared ∧
      (Spell.black.cycle ⟨0⟩).state = .blackrain ∧ (Spell.cleared.cycle ⟨0⟩).state = .fine ∧
      Spell.cleared.sent = Spell.black.sent ∧ Spell.cleared.events = Spell.black.events :=
  ⟨rfl, rfl, by decide +kernel, by decide +kernel, rfl, rfl⟩

end Microclimate
