import Microclimate.Proofs.Followers
import Microclimate.Proofs.Moves

/-!
# Packets and notifications tell the same story

A zone is told of its weather packet by packet, and listeners are told notification by notification.
The two ways are independent of each other, but with actors who only take note they agree: an
observer who is in a zone receives **the packets of which the listeners are notified, one by one, in
the same order**. A listener who is subscribed several times hears of each as often.

What is told is told in one place, and there the members of the zone come first and the listeners
after them. The observer is one of the members, so nothing is told to the listeners that the
observer has not received; of what is told elsewhere the observer receives nothing, for nobody is in
two zones.

* `Microclimate.World.Agrees` – from one world to another, packets and notifications agree;
* `Microclimate.CycleId.broadcast_agreeing` – they do while a zone is told of its weather;
* `Microclimate.ManagerCommand.Broadcasts`, `Microclimate.World.Broadcasts` – updates and forced
  weather, one after the other;
* `Microclimate.World.Broadcasts.agree` – **packets and notifications agree all the way**.
-/

namespace Microclimate

variable {γ : Type}

/-! ### What is learned from calls -/

/-- What is learned by hearing some calls. -/
theorem World.learned_hearAll (w : World γ) (calls : List Call) (zone : Value) (f : Follower) :
    (w.hearAll calls).learned zone f =
      w.learned zone f ++ calls.filterMap fun call => f.learns? zone (call.event w) := by
  rw [(w.adds_hearAll calls).learned, List.filterMap_map]
  rfl

/-- What is found of one of the items of a list, once for each time it is there. -/
theorem filterMap_eq_replicate {α β : Type} [DecidableEq α] (l : List α) (a : α) (b : β) :
    (l.filterMap fun x => if x = a then some b else none) = List.replicate (l.count a) b := by
  induction l with
  | nil => rfl
  | cons x rest ih =>
    rw [List.filterMap_cons, List.count_cons, ih]
    by_cases same : x = a
    · simp [same, List.replicate_succ]
    · simp [same]

/-- An observer receives a packet as often as they are told. -/
theorem World.learned_hearPackets (w : World γ) (names : List ActorName) (p : Packet) (zone : Value)
    (observer : ActorName) :
    (w.hearAll (names.map (.packet · p))).learned zone (.member observer) =
      w.learned zone (.member observer) ++ List.replicate (names.count observer) p := by
  rw [learned_hearAll, List.filterMap_map, ← filterMap_eq_replicate]
  rfl

/-- A listener learns of a change as often as they are told, if it is one of the zone. -/
theorem World.learned_hearChanges (w : World γ) (names : List ActorName) (id : CycleId)
    (state : WeatherState) (intensity : Float) (zone : Value) (listener : ActorName) :
    (w.hearAll (names.map (.changed · (some id) state intensity))).learned zone
        (.listener listener) =
      w.learned zone (.listener listener) ++
        if (w.cycle id).zone.sameKey zone = true then
          List.replicate (names.count listener) ⟨state, intensity⟩
        else [] := by
  rw [learned_hearAll, List.filterMap_map]
  split
  next same =>
    rw [← filterMap_eq_replicate]
    simp [Function.comp_def, Call.event, Follower.learns?, Scene.zoneOf, same]
  next other =>
    simp [Function.comp_def, Call.event, Follower.learns?, Scene.zoneOf, other]

/-- Observers learn nothing of changes, and listeners nothing of packets. -/
theorem World.learned_hear_other (w : World γ) (names : List ActorName) (call : ActorName → Call)
    {zone : Value} {f : Follower} (deaf : ∀ name, f.learns? zone ((call name).event w) = none) :
    (w.hearAll (names.map call)).learned zone f = w.learned zone f := by
  rw [learned_hearAll, List.filterMap_map]
  have none := List.filterMap_eq_nil_iff.2 fun name (_ : name ∈ names) => deaf name
  exact (congrArg _ none).trans (List.append_nil _)

/-! ### Agreement -/

/-- **Packets and notifications agree** from one world to another, where nobody moves and nobody
subscribes: an observer receives some packets, and a listener is notified of each of them in turn,
as often as they are subscribed. -/
structure World.Agrees (zone : Value) (observer listener : ActorName) (w w' : World γ) : Prop where
  messenger : w'.messenger = w.messenger
  directory : w'.directory = w.directory
  listeners : w'.hooks.changed = w.hooks.changed
  news : ∃ news : List Packet,
    w'.learned zone (.member observer) = w.learned zone (.member observer) ++ news ∧
      w'.learned zone (.listener listener) = w.learned zone (.listener listener) ++
        news.flatMap (List.replicate (w.hooks.changed.count listener))

/-- An observer is in a zone, and packets go through the directory. -/
structure World.Reaches (w : World γ) (zone : Value) (observer : ActorName) : Prop where
  messenger : w.messenger = .directory
  tidy : w.directory.Tidy
  here : observer ∈ w.directory.observers zone

section Agreement

variable {zone : Value} {observer listener : ActorName}

namespace World.Agrees

/-- Packets and notifications agree where none are told. -/
theorem of_silence {w w' : World γ} (messenger : w'.messenger = w.messenger)
    (directory : w'.directory = w.directory) (listeners : w'.hooks.changed = w.hooks.changed)
    (silence : ∀ f, w'.learned zone f = w.learned zone f) :
    World.Agrees zone observer listener w w' :=
  ⟨messenger, directory, listeners, [], by simp [silence], by simp [silence]⟩

theorem refl (w : World γ) : World.Agrees zone observer listener w w :=
  .of_silence rfl rfl rfl fun _ => rfl

theorem trans {a b c : World γ} (h : World.Agrees zone observer listener a b)
    (h' : World.Agrees zone observer listener b c) : World.Agrees zone observer listener a c where
  messenger := h'.messenger.trans h.messenger
  directory := h'.directory.trans h.directory
  listeners := h'.listeners.trans h.listeners
  news := by
    obtain ⟨early, first, heard⟩ := h.news
    obtain ⟨late, second, heard'⟩ := h'.news
    refine ⟨early ++ late, ?_, ?_⟩
    · rw [second, first, List.append_assoc]
    · rw [heard', heard, h.listeners, List.flatMap_append, List.append_assoc]

theorem reaches {w w' : World γ} (h : World.Agrees zone observer listener w w')
    (before : w.Reaches zone observer) : w'.Reaches zone observer :=
  ⟨h.messenger.trans before.messenger, h.directory ▸ before.tidy, h.directory ▸ before.here⟩

/-- Packets and notifications agree where one cycle is touched and nothing is told. -/
theorem of_touches {w w' : World γ} {id : CycleId} {kind : Event → Prop} (h : w.Touches kind id w')
    (untold : ∀ e, kind e → e.Untold) : World.Agrees zone observer listener w w' := by
  obtain ⟨ms, adds, all⟩ := h.moments
  have hooks : w'.hooks = w.hooks := by rw [h.scene]
  exact .of_silence h.messenger h.directory (by rw [hooks]) fun f =>
    adds.learned_of_untold (fun m mem => untold _ (all m mem)) zone f

end World.Agrees

/-- Packets and notifications agree from one world to another if the observer is in the zone. -/
def World.StaysAgreed (zone : Value) (observer listener : ActorName) (w w' : World γ) : Prop :=
  w.Reaches zone observer → World.Agrees zone observer listener w w'

theorem World.StaysAgreed.refl (w : World γ) : World.StaysAgreed zone observer listener w w :=
  fun _ => .refl w

theorem World.StaysAgreed.trans {a b c : World γ} (h : World.StaysAgreed zone observer listener a b)
    (h' : World.StaysAgreed zone observer listener b c) :
    World.StaysAgreed zone observer listener a c :=
  fun reaches => (h reaches).trans (h' ((h reaches).reaches reaches))

/-- **The contract of agreement**, for an observer who is in the zone. -/
def Contract.agreeing (zone : Value) (observer listener : ActorName) : Contract γ :=
  .always (World.StaysAgreed zone observer listener) .refl .trans

/-! ### Operations -/

namespace Sim

theorem editCycle_agreeing (id : CycleId) {f : Cycle → Cycle}
    (make : ∀ c, Cycle.SameMake c (f c)) :
    (editCycle id f : Sim γ Unit).Keeps (.agreeing zone observer listener) := by
  intro w _
  have touched : w.Touches (fun _ => False) id (w.editCycle id f) := .editCycle w id make
  exact .of_touches touched fun _ => False.elim

theorem throw_agreeing {α : Type} (f : Fault) :
    (throw f : Sim γ α).Keeps (.agreeing zone observer listener) :=
  .throw fun w _ => .refl w

end Sim

/-- **All who are to be told are told**: once the members of the zone of a cycle and then the
listeners have been called, packets and notifications agree. -/
theorem World.Reaches.agrees_told {v : World γ} (h : v.Reaches zone observer) (id : CycleId)
    (listener : ActorName) :
    let c := v.cycle id
    let told := v.hearAll ((v.directory.observers c.zone).map (.packet · c.packet))
    let logged := told.emit (.logged (.changed c.zone c.state))
    World.Agrees zone observer listener v
      (logged.hearAll (v.hooks.changed.map (.changed · (some id) c.state c.intensity))) := by
  intro c told logged
  have scene : logged.toScene = v.toScene := v.toScene_hearAll _
  have end_scene := (logged.toScene_hearAll
    (v.hooks.changed.map (.changed · (some id) c.state c.intensity))).trans scene
  refine ⟨by rw [end_scene], by rw [end_scene], by rw [end_scene],
    if c.zone.sameKey zone then [c.packet] else [], ?_, ?_⟩
  · -- the observer is told once, if they are in the zone of the cycle
    have once : (v.directory.observers c.zone).count observer =
        if c.zone.sameKey zone then 1 else 0 := by
      split
      next same =>
        rw [v.directory.observers_congr same]
        exact List.count_eq_one_of_mem (h.tidy.nodup_observers zone) h.here
      next other =>
        exact List.count_eq_zero.2 fun there => other (h.tidy.sameKey_of_mem there h.here)
    have deaf : (logged.hearAll
          (v.hooks.changed.map (.changed · (some id) c.state c.intensity))).learned zone
        (.member observer) = logged.learned zone (.member observer) :=
      logged.learned_hear_other _ _ fun _ => rfl
    rw [deaf, told.learned_log, v.learned_hearPackets, once]
    split <;> rfl
  · -- the listener is told as often as they are subscribed, if the cycle is one of the zone
    have deaf : told.learned zone (.listener listener) = v.learned zone (.listener listener) :=
      v.learned_hear_other _ _ fun _ => rfl
    rw [logged.learned_hearChanges, told.learned_log, deaf, scene]
    change _ ++ (if c.zone.sameKey zone = true then _ else _) = _
    split <;> simp [Cycle.packet]

namespace CycleId

/-- **Telling a zone of its weather** keeps packets and notifications in agreement. -/
theorem broadcast_agreeing (id : CycleId) :
    (id.broadcast Call.note true : Sim γ Bool).Keeps (.agreeing zone observer listener) := by
  intro w
  by_cases reaches : w.Reaches zone observer
  case neg =>
    exact (Sim.ends_self _ w).mono (fun _ _ _ there => absurd there reaches)
      fun _ _ _ there => absurd there reaches
  have touched : w.Touches (fun _ => False) id (w.announce id) := w.touches_announce id
  have announced : World.Agrees zone observer listener w (w.announce id) :=
    .of_touches touched fun _ => False.elim
  have told := (announced.reaches reaches).agrees_told id listener
  have there : w.directory = (w.announce id).directory := rfl
  rw [ends_broadcast reaches.messenger, there]
  generalize w.announce id = v at announced told
  dsimp only
  split
  case isFalse => exact fun _ => announced
  case isTrue =>
    rw [Sim.ends_forM_note, if_pos rfl, Hooks.ends_notifyChanged_note, World.toScene_hearAll]
    cases nobody : (v.directory.observers (v.cycle id).zone).isEmpty with
    | true =>
      rw [List.isEmpty_iff.1 nobody]
      exact fun _ => announced
    | false =>
      rw [World.toScene_emit, World.toScene_hearAll]
      exact fun _ => announced.trans told

/-- Forcing some weather keeps packets and notifications in agreement. -/
theorem setWeather_agreeing (id : CycleId) (kind : WeatherKind) (intensity : Float) :
    (id.setWeather Call.note kind intensity true : Sim γ Unit).Keeps
      (.agreeing zone observer listener) := by
  refine .bind (.cycle id) fun now => .ite (.pure _) ?_
  refine .bind (Sim.editCycle_agreeing id fun c => ⟨rfl, rfl, rfl⟩) fun _ => ?_
  exact .discard (broadcast_agreeing id)

variable [RandomSource γ]

theorem regenerate_agreeing (id : CycleId) :
    (id.regenerate : Sim γ Bool).Keeps (.agreeing zone observer listener) := fun w =>
  (id.regenerate_touches w).mono
    (fun _ _ rolled _ => .of_touches rolled fun _ => Event.IsRoll.untold)
    fun _ _ rolled _ => .of_touches rolled fun _ => Event.IsRoll.untold

/-- The turn of a cycle keeps packets and notifications in agreement. -/
theorem update_agreeing (id : CycleId) (diff : Int) :
    (id.update Call.note diff : Sim γ Bool).Keeps (.agreeing zone observer listener) := by
  have ticked : (Hooks.notifyTicked Call.note (some id) diff : Sim γ Unit).Keeps
      (.agreeing zone observer listener) := by
    intro w
    rw [Hooks.ends_notifyTicked_note]
    refine fun _ => .of_silence (by simp) (by simp) (by simp) fun f => ?_
    exact w.learned_hear_other _ _ fun _ => by cases f <;> rfl
  have changes : (id.changeWhenDue Call.note : Sim γ Bool).Keeps
      (.agreeing zone observer listener) := by
    refine .bind (.cycle id) fun now => .ite ?_ (.pure _)
    refine .bind (Sim.editCycle_agreeing id fun c => ⟨rfl, rfl, rfl⟩) fun _ => ?_
    exact .bind (regenerate_agreeing id) fun changed => .ite (broadcast_agreeing id) (.pure _)
  refine .bind (Sim.editCycle_agreeing id fun c => ⟨rfl, rfl, ?_⟩) fun _ => ?_
  · dsimp only
    split <;> rfl
  · exact .bind changes fun kept => .ite (.bind ticked fun _ => .pure _) (.pure _)

end CycleId

namespace Manager

variable [RandomSource γ]

omit [RandomSource γ] in
/-- Discarding a cycle tells nobody of any weather. -/
theorem agrees_discard (w : World γ) (z : Value) (reporter : CycleId) :
    World.Agrees zone observer listener w (w.discard z reporter) :=
  .of_silence rfl rfl rfl fun f => w.learned_log (.removing z) zone f

/-- **Updates keep packets and notifications in agreement.** -/
theorem update_agreeing (diff : Int) :
    (update Call.note diff : Sim γ Unit).Keeps (.agreeing zone observer listener) :=
  update_keeps (fun id => id.update_agreeing diff) (fun w z id _ => agrees_discard w z id)
    fun w z _ => .of_silence rfl rfl rfl fun f => w.learned_log (.removing z) zone f

/-- Asking for the weather of a zone keeps packets and notifications in agreement. -/
theorem getOrCreate_agreeing (z : Value) :
    (getOrCreate z : Sim γ (Option CycleId)).Keeps (.agreeing zone observer listener) := by
  intro w
  rw [ends_getOrCreate, ends_add]
  split
  · cases w.manager.find? z with
    | some id => exact fun _ => .refl w
    | none =>
      cases w.manager.chances? z with
      | none => exact fun _ => .refl w
      | some table =>
        have started : World.Agrees zone observer listener w (w.start z table) :=
          .of_silence rfl rfl rfl fun f =>
            World.learned_log { w with cycles := w.cycles.push _ } _ zone f
        exact (CycleId.regenerate_agreeing _).ends_trans fun _ => started
  · exact fun _ => .refl w

/-- **Forcing the weather of a zone keeps packets and notifications in agreement.** -/
theorem setZoneWeather_agreeing (z : Value) (kind : WeatherKind) (intensity : Float) :
    (setZoneWeather Call.note z kind intensity true : Sim γ Bool).Keeps
      (.agreeing zone observer listener) := by
  refine .bind (getOrCreate_agreeing z) fun found => ?_
  cases found with
  | none => exact .pure _
  | some id => exact .bind (CycleId.setWeather_agreeing id kind intensity) fun _ => .pure _

end Manager

end Agreement

/-! ### Runs -/

/-- A command that lets time pass, or forces the weather of a zone and has the listeners told. -/
def ManagerCommand.Broadcasts : ManagerCommand → Prop
  | update _ => True
  | setWeather _ _ _ trigger => trigger = true
  | _ => False

variable [RandomSource γ]

theorem ManagerCommand.perform_agreeing {zone : Value} {observer listener : ActorName}
    {command : ManagerCommand} (broadcasts : command.Broadcasts) :
    (command.perform Call.note : Sim γ Reply).Keeps (.agreeing zone observer listener) := by
  cases command with
  | update diff => exact .bind (Manager.update_agreeing diff) fun _ => .pure _
  | setWeather z kind intensity trigger =>
    obtain rfl : trigger = true := broadcasts
    exact .bind (Manager.setZoneWeather_agreeing z kind intensity) fun _ => .pure _
  | _ => exact broadcasts.elim

/-- **Updates and forced weather**, one after the other, whether they return or fail, with actors
who only take note. -/
inductive World.Broadcasts (start : World γ) : World γ → Prop
  /-- Nothing was asked yet. -/
  | nothing : Broadcasts start start
  /-- A command was given. -/
  | command {w : World γ} (before : Broadcasts start w) (stage : Stage) (depth : Nat)
      (inTick : Bool) {command : ManagerCommand} (broadcasts : command.Broadcasts) :
      Broadcasts start
        (((Command.manager command).perform stage (stage.react .recording (depth + 1))
          inTick).worldLeft w)

theorem World.Broadcasts.trans {a b c : World γ} (h : a.Broadcasts b) (h' : b.Broadcasts c) :
    a.Broadcasts c := by
  induction h' with
  | nothing => exact h
  | command before stage depth inTick broadcasts ih =>
    exact .command ih stage depth inTick broadcasts

/-- Commands that are given one after the other. -/
theorem World.Broadcasts.afterAll (w : World γ) (stage : Stage) (depth : Nat)
    {commands : List ManagerCommand} (broadcasts : ∀ command ∈ commands, command.Broadcasts) :
    w.Broadcasts (w.afterAll stage .recording (depth + 1) (commands.map .manager)) := by
  induction commands generalizing w with
  | nil => exact .nothing
  | cons command rest ih =>
    refine trans (.command .nothing stage depth false (broadcasts command (by simp))) (ih _ ?_)
    exact fun c mem => broadcasts c (by simp [mem])

/-- **Packets and notifications tell the same story.** From a directory on that was empty once,
updates and forced weather make an observer in a zone receive some packets, one by one, and every
listener to changes is notified of just those for that zone, in the same order: of each once, if
they are subscribed once. -/
theorem World.Broadcasts.agree {origin start w : World γ} (course : origin.Course start)
    (nobody : origin.directory.members = .empty) (messenger : start.messenger = .directory)
    {zone : Value} {observer : ActorName} (here : observer ∈ start.directory.observers zone)
    (listener : ActorName) (run : start.Broadcasts w) :
    ∃ news : List Packet, w.received observer = start.received observer ++ news ∧
      w.learned zone (.listener listener) = start.learned zone (.listener listener) ++
        news.flatMap (List.replicate (start.hooks.changed.count listener)) ∧
      (start.hooks.changed.count listener = 1 →
        w.learned zone (.listener listener) = start.learned zone (.listener listener) ++ news) := by
  have reaches : start.Reaches zone observer := ⟨messenger, course.tidy nobody, here⟩
  have agrees : World.Agrees zone observer listener start w := by
    induction run with
    | nothing => exact .refl start
    | @command v before stage depth inTick command broadcasts ih =>
      have kept : ((Command.manager command : Command γ).perform stage
          (stage.react .recording (depth + 1)) inTick).Keeps
            (.agreeing zone observer listener) := by
        rw [Stage.react_recording]
        exact .bind (.ite (Sim.throw_agreeing _) (.pure _)) fun _ =>
          ManagerCommand.perform_agreeing broadcasts
      exact ih.trans (kept.worldLeft v (ih.reaches reaches))
  obtain ⟨news, received, learned⟩ := agrees.news
  rw [learned_member, learned_member] at received
  refine ⟨news, received, learned, fun single => ?_⟩
  rw [learned, single]
  exact congrArg _ (List.flatMap_singleton' news)

namespace TwoZones

/-- Somebody who hears of changes. -/
def hearer : ActorName := "hearer"

/-- The visitor is in the first zone, and somebody listens to changes. -/
def attended : World Script :=
  (idle { integers := [0, 0, 95, 1, 0, 0], normals := [0.25] } : World Script).afterAll {}
    .recording 1 [.directory (.enter visitor (.text "a")), .hooks (.onChanged hearer)]

/-- Rain is forced on both zones, and time passes. -/
def forecast : List ManagerCommand :=
  [.setWeather (.text "a") .rain 0.5 true, .setWeather (.text "b") .rain 0.9 true, .update 600000]

/-- The world after that. -/
def told : World Script := attended.afterAll {} .recording 1 (forecast.map .manager)

theorem broadcasts_told : attended.Broadcasts told :=
  .afterAll _ _ _ (by simp [forecast, ManagerCommand.Broadcasts])

theorem visitor_attended : visitor ∈ attended.directory.observers (.text "a") := by decide +kernel

theorem length_told : (told.received visitor).length = 2 := by decide +kernel

theorem nothing_attended :
    attended.received visitor = [] ∧ attended.learned (.text "a") (.listener hearer) = [] ∧
      attended.hooks.changed.count hearer = 1 := by
  decide +kernel

end TwoZones

/-- The visitor receives the two packets of which the listener is notified, while the weather of the
other zone changes, too. -/
theorem World.Broadcasts.agree_told :
    TwoZones.attended.Broadcasts TwoZones.told ∧
      (TwoZones.told.received TwoZones.visitor).length = 2 ∧
      TwoZones.told.learned (.text "a") (.listener TwoZones.hearer) =
        TwoZones.told.received TwoZones.visitor := by
  have course : (TwoZones.idle { integers := [0, 0, 95, 1, 0, 0], normals := [0.25] } :
      World Script).Course TwoZones.attended := .afterAll ..
  obtain ⟨unpacked, untold, once⟩ := TwoZones.nothing_attended
  obtain ⟨news, received, -, learned⟩ := agree course rfl rfl TwoZones.visitor_attended
    TwoZones.hearer TwoZones.broadcasts_told
  rw [unpacked, List.nil_append] at received
  refine ⟨TwoZones.broadcasts_told, TwoZones.length_told, ?_⟩
  rw [learned once, untold, List.nil_append, received]

end Microclimate
