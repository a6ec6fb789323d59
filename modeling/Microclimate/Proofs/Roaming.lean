import Microclimate.Proofs.Entering
import Microclimate.Proofs.Recording

/-!
# Deliveries to observers on the move

Whoever receives a packet may move, may move others, and may have further packets delivered, also to
the zone that is just being served. So zones fill and empty while packets go round in them, and one
delivery takes place within another. One could fear that somebody is passed over or served twice.

That does not happen, because it is settled at the start whom a delivery serves: **those who came
into the zone and have not moved since, each of them once, in the order in which they came**. Where
they go in the meantime does not matter. What is received is written down with the number of
deliveries around it, so that the packets of a delivery can be told from those of the deliveries
within; they may be the same packets, and the same observers.

* `Microclimate.World.arrived` – who is in a zone, going by the moves that were made;
* `Microclimate.Behaviour.Roaming` – observers who move and send packets, and do nothing else;
* `Microclimate.Behaviour.Receives` – **the rule of delivery**, with
  `Microclimate.Behaviour.Receives.direct`, who receives the packet itself;
* `Microclimate.Stage.react_roams` – calls of such observers go by the rule, by induction on how
  deep calls may be within calls;
* `Microclimate.World.Course.send_roaming` – **what a delivery comes to.**
-/

namespace Microclimate

variable {γ : Type}

/-! ### Who is in a zone -/

/-- Who is in a zone, going by the moves that were made: whoever came into it and has not moved
since, in the order in which they came. -/
def World.arrived (w : World γ) (zone : Value) : List ActorName :=
  Move.present zone (w.attempts.toList.map (·.move))

/-- **Packets go through the directory, and it is in step with the moves that were made.** -/
structure World.InStep (w : World γ) : Prop where
  messenger : w.messenger = .directory
  tidy : w.directory.Tidy
  order : ∀ zone, w.directory.observers zone = w.arrived zone

/-- From a world that is in step to another one, in which some more was received. Whatever is
received comes with the number of deliveries around it. -/
structure World.Takes (w : World γ) (es : List (Nat × Event)) (w' : World γ) : Prop where
  inStep : w'.InStep
  events : w'.events.toList = w.events.toList ++ es.map (·.2)

namespace World.Takes

theorem refl {w : World γ} (h : w.InStep) : w.Takes [] w := ⟨h, by simp⟩

theorem trans {a b c : World γ} {es fs : List (Nat × Event)} (h : a.Takes es b)
    (h' : b.Takes fs c) : a.Takes (es ++ fs) c :=
  ⟨h'.inStep, by rw [h'.events, h.events, List.map_append, List.append_assoc]⟩

/-- A packet was received, and nobody has moved yet. -/
theorem hear {w : World γ} (h : w.InStep) (level : Nat) (observer : ActorName) (packet : Packet) :
    w.Takes [(level, .packet observer packet)] (w.hear (.packet observer packet)) :=
  ⟨⟨h.messenger, h.tidy, h.order⟩, w.events_emit (.packet observer packet)⟩

theorem size {w w' : World γ} {es : List (Nat × Event)} (h : w.Takes es w') :
    w'.events.size = w.events.size + es.length := by
  rw [← Array.length_toList, ← Array.length_toList, h.events, List.length_append, List.length_map]

end World.Takes

namespace World.InStep

variable {w : World γ} (h : w.InStep)
include h

/-- A move that is allowed is made, and the directory is still in step. -/
theorem ends_carryOut {m : Move} (allowed : m.Allowed w.directory) :
    m.carryOut.Ends w (fun _ w' => w.Takes [] w') fun _ _ => False := by
  obtain ⟨d, made, tidy, follows⟩ := h.tidy.make_eq allowed
  rw [Sim.Ends, Move.carryOut, made]
  refine ⟨⟨h.messenger, tidy, fun zone => ?_⟩, (List.append_nil _).symm⟩
  rw [follows zone, h.order, World.arrived, World.arrived, Array.toList_push, List.map_append,
    Move.present_append]
  rfl

/-- Going into what can be a zone does not fail. -/
theorem ends_enter (observer : ActorName) {zone : Value} (key : zone.isKey = true) :
    (Directory.enter observer zone).Ends w (fun _ w' => w.Takes [] w') fun _ _ => False := by
  rw [Directory.enter, Sim.ends_bind]
  have left := h.ends_carryOut (m := .out observer) trivial
  refine (left.and (Move.ends_out w observer)).mono ?_ fun _ _ => And.left
  rintro _ v ⟨took, nowhere⟩
  rw [Sim.ends_bind, Sim.ends_requireKey, if_pos key]
  have came := took.inStep.ends_carryOut (m := .into observer zone) ⟨key, nowhere⟩
  exact came.mono (fun _ _ => took.trans) fun _ _ => False.elim

end World.InStep

/-! ### Observers on the move -/

/-- **A command of somebody on the move**: one that lets somebody go into a zone or leave theirs, or
one that has a packet delivered. What is named as a zone can be one. -/
inductive Command.Roams : Command γ → Prop
  | enters (observer : ActorName) {zone : Value} (key : zone.isKey = true) :
      Roams (.directory (.enter observer zone))
  | leaves (observer : ActorName) : Roams (.directory (.leave observer))
  | sends {zone : Value} (key : zone.isKey = true) (packet : Packet) :
      Roams (.messenger (.send zone packet))

/-- **Observers on the move** respond to packets by moving and sending only. What they do may depend
on all of the world that they find, and so on all that has happened. -/
def Behaviour.Roaming (behaviour : Behaviour γ) : Prop :=
  ∀ observer packet w, ∀ action ∈ behaviour (.packet observer packet) w,
    action.tick = none ∧ action.command.Roams

namespace Behaviour

mutual

/-- **The rule of delivery**: observers receive a packet, one after the other, and each of them
responds before the next one receives it. All that is received meanwhile is written down with the
number of deliveries around it. -/
inductive Receives (behaviour : Behaviour γ) :
    Nat → Packet → List ActorName → World γ → List (Nat × Event) → World γ → Prop
  | nobody (level : Nat) (packet : Packet) (w : World γ) :
      Receives behaviour level packet [] w [] w
  | next {level : Nat} {packet : Packet} {observer : ActorName} {later : List ActorName}
      {w v w' : World γ} {es fs : List (Nat × Event)}
      (responds : Responds behaviour (level + 1)
        (behaviour (.packet observer packet) (w.hear (.packet observer packet)))
        (w.hear (.packet observer packet)) es v)
      (others : Receives behaviour level packet later v fs w') :
      Receives behaviour level packet (observer :: later) w
        ((level, .packet observer packet) :: (es ++ fs)) w'

/-- **The rule of response**: moves are made, and what is sent to a zone goes to all who are there
at that moment. -/
inductive Responds (behaviour : Behaviour γ) :
    Nat → List (Action γ) → World γ → List (Nat × Event) → World γ → Prop
  | nothing (level : Nat) (w : World γ) : Responds behaviour level [] w [] w
  | moves {level : Nat} {asked : DirectoryCommand} {reply : Reply} {later : List (Action γ)}
      {w v w' : World γ} {es : List (Nat × Event)} (moved : asked.perform w = .ok reply v)
      (others : Responds behaviour level later v es w') :
      Responds behaviour level ({ command := .directory asked } :: later) w es w'
  | sends {level : Nat} {zone : Value} {packet : Packet} {later : List (Action γ)}
      {w v w' : World γ} {es fs : List (Nat × Event)}
      (delivers : Receives behaviour level packet (w.arrived zone) w es v)
      (others : Responds behaviour level later v fs w') :
      Responds behaviour level ({ command := .messenger (.send zone packet) } :: later) w
        (es ++ fs) w'

end

variable {behaviour : Behaviour γ}

-- whatever is received has as many deliveries around it as the delivery or response it is part of
mutual

theorem Receives.level_le {level : Nat} {packet : Packet} {names : List ActorName}
    {w w' : World γ} {es : List (Nat × Event)} :
    behaviour.Receives level packet names w es w' → ∀ e ∈ es, level ≤ e.1
  | .nobody .. => by simp
  | .next responds others => by
    have within := responds.level_le
    have after := others.level_le
    intro e mem
    rcases List.mem_cons.1 mem with rfl | mem
    · exact Nat.le_refl _
    · exact (List.mem_append.1 mem).elim (fun early => Nat.le_of_lt (within e early)) (after e)

theorem Responds.level_le {level : Nat} {actions : List (Action γ)} {w w' : World γ}
    {es : List (Nat × Event)} :
    behaviour.Responds level actions w es w' → ∀ e ∈ es, level ≤ e.1
  | .nothing .. => by simp
  | .moves _ others => others.level_le
  | .sends delivers others => fun e mem =>
    (List.mem_append.1 mem).elim (delivers.level_le e) (others.level_le e)

end

/-- What is received in response to a packet belongs to deliveries within. -/
theorem Responds.inner {level : Nat} {actions : List (Action γ)} {w w' : World γ}
    {es : List (Nat × Event)} (h : behaviour.Responds (level + 1) actions w es w') :
    es.filter (·.1 = level) = [] :=
  List.filter_eq_nil_iff.2 fun e mem => by simpa using Nat.ne_of_gt (h.level_le e mem)

/-- **Who receives the packet of a delivery itself**: those whom it serves, each of them once and in
order. Whatever else is received meanwhile belongs to deliveries within. -/
theorem Receives.direct {level : Nat} {packet : Packet} {names : List ActorName}
    {w w' : World γ} {es : List (Nat × Event)} :
    behaviour.Receives level packet names w es w' →
      es.filter (·.1 = level) = names.map fun observer => (level, .packet observer packet)
  | .nobody .. => rfl
  | .next responds others => by
    rw [List.filter_cons_of_pos (by simp), List.filter_append, responds.inner, others.direct]
    rfl

/-- One thing that an observer does goes by the rule of response, whatever they do afterwards. -/
def Does (behaviour : Behaviour γ) (level : Nat) (action : Action γ) (w : World γ)
    (es : List (Nat × Event)) (v : World γ) : Prop :=
  ∀ {later fs w'}, behaviour.Responds level later v fs w' →
    behaviour.Responds level (action :: later) w (es ++ fs) w'

end Behaviour

/-! ### Deliveries -/

/-- Calls within calls have come to an end that is set for them: they go so deep from some world on
that as much was received at least. -/
def World.Exhausted (w : World γ) (depth : Nat) (f : Fault) (w' : World γ) : Prop :=
  f = .unending ∧ w.events.size + depth ≤ w'.events.size

theorem World.Exhausted.mono {w w' : World γ} {depth less : Nat} {f : Fault}
    (h : w.Exhausted depth f w') (le : less ≤ depth) : w.Exhausted less f w' :=
  ⟨h.1, Nat.le_trans (Nat.add_le_add_left le _) h.2⟩

/-- What was received before calls went too deep counts, too. -/
theorem World.Takes.exhausted {w v w' : World γ} {es : List (Nat × Event)} (h : w.Takes es v)
    {depth : Nat} {f : Fault} (ends : v.Exhausted depth f w') :
    w.Exhausted (es.length + depth) f w' := by
  have size := h.size
  exact ⟨ends.1, by have := ends.2; omega⟩

/-- **Calls go by the rule of delivery**, or so many of them are made within each other. -/
def Reaction.Roams (react : Reaction γ) (behaviour : Behaviour γ) (depth : Nat) : Prop :=
  ∀ (level : Nat) (observer : ActorName) (packet : Packet) {w : World γ}, w.InStep →
    (react (.packet observer packet)).Ends w
      (fun _ w' => ∃ es, w.Takes ((level, .packet observer packet) :: es) w' ∧
        behaviour.Responds (level + 1)
          (behaviour (.packet observer packet) (w.hear (.packet observer packet)))
          (w.hear (.packet observer packet)) es w')
      (w.Exhausted depth)

/-- A move that does not fail goes by the rule, and nobody receives anything. -/
theorem World.InStep.ends_directory [RandomSource γ] {w : World γ} (h : w.InStep)
    {asked : DirectoryCommand} {stage : Stage} {react : Reaction γ} {inTick : Bool}
    {behaviour : Behaviour γ} {level : Nat} {bad : Fault → World γ → Prop}
    (made : asked.perform.Ends w (fun _ v => w.Takes [] v) fun _ _ => False) :
    (Command.perform stage react inTick (.directory asked)).Ends w (fun _ v => ∃ es,
      w.Takes es v ∧ behaviour.Does level { command := .directory asked } w es v) bad := by
  rw [Command.perform, Sim.ends_bind, Sim.ends_get, h.messenger]
  refine (made.and (Sim.ends_self _ w)).mono ?_ fun _ _ failed => failed.1.elim
  rintro reply v ⟨took, done⟩
  exact ⟨[], took, fun others => .moves done others⟩

namespace Reaction.Roams

variable {react : Reaction γ} {behaviour : Behaviour γ} {depth : Nat}
  (h : react.Roams behaviour depth) {w : World γ} (inStep : w.InStep)
include h inStep

/-- **Observers who receive a packet one after the other**, wherever they are by then. -/
theorem ends_forM (level : Nat) (packet : Packet) (names : List ActorName) :
    (names.forM fun observer => react (.packet observer packet)).Ends w
      (fun _ w' => ∃ es, w.Takes es w' ∧ behaviour.Receives level packet names w es w')
      (w.Exhausted depth) := by
  induction names generalizing w with
  | nil => exact ⟨[], .refl inStep, .nobody ..⟩
  | cons observer later ih =>
    rw [List.forM, Sim.ends_bind]
    refine (h level observer packet inStep).mono ?_ fun _ _ failed => failed
    rintro _ v ⟨es, took, responds⟩
    refine (ih took.inStep).mono ?_ fun _ _ failed => ?_
    · rintro _ w' ⟨fs, then', others⟩
      exact ⟨_, took.trans then', .next responds others⟩
    · exact (took.exhausted failed).mono (Nat.le_add_left ..)

/-- **A packet that is sent to a zone** goes to those who are there now. -/
theorem ends_send (level : Nat) (zone : Value) (packet : Packet) :
    (Messenger.send react zone packet).Ends w
      (fun reached w' => (reached = true ↔ w.arrived zone ≠ []) ∧
        ∃ es, w.Takes es w' ∧ behaviour.Receives level packet (w.arrived zone) w es w')
      (fun f w' => zone.isKey = false ∧ f = .notAKey zone ∧ w' = w ∨ w.Exhausted depth f w') := by
  rw [Messenger.send, Sim.ends_bind, Sim.ends_get, inStep.messenger]
  simp only [Directory.send, Sim.ends_bind, Sim.ends_get, Sim.ends_requireKey, Sim.ends_pure,
    inStep.order]
  split
  next key =>
    refine (h.ends_forM inStep level packet _).mono (fun _ w' served => ⟨?_, served⟩)
      fun _ _ => .inr
    simp
  next noKey => simp [noKey]

variable [RandomSource γ]

/-- **One thing that an observer on the move does goes by the rule.** -/
theorem ends_take (stage : Stage) (inTick : Bool) (level : Nat) {action : Action γ}
    (atOnce : action.tick = none) (roams : action.command.Roams) :
    (action.take stage react inTick).Ends w
      (fun _ v => ∃ es, w.Takes es v ∧ behaviour.Does level action w es v) (w.Exhausted depth) := by
  obtain ⟨_, command⟩ := action
  obtain rfl : _ = none := atOnce
  have due : (Action.take stage react inTick { command := command } : Sim γ Unit) =
      discard (command.perform stage react inTick) := rfl
  rw [due, Sim.ends_discard]
  cases roams with
  | enters observer key =>
    refine inStep.ends_directory ?_
    rw [DirectoryCommand.perform, Sim.ends_bind]
    exact inStep.ends_enter observer key
  | leaves observer =>
    refine inStep.ends_directory ?_
    rw [DirectoryCommand.perform, Sim.ends_bind]
    exact inStep.ends_carryOut trivial
  | sends key packet =>
    rw [Command.perform, MessengerCommand.perform, Sim.ends_bind]
    refine (h.ends_send inStep level _ packet).mono ?_ fun _ _ failed => ?_
    · rintro _ v ⟨-, es, took, delivers⟩
      exact ⟨es, took, fun others => .sends delivers others⟩
    · exact failed.resolve_left fun refused => by simp [key] at refused

/-- **What an observer on the move does**, one thing after the other. -/
theorem ends_respond (stage : Stage) (inTick : Bool) (level : Nat) {actions : List (Action γ)}
    (roams : ∀ action ∈ actions, action.tick = none ∧ action.command.Roams) :
    (actions.forM fun action => action.take stage react inTick).Ends w
      (fun _ w' => ∃ es, w.Takes es w' ∧ behaviour.Responds level actions w es w')
      (w.Exhausted depth) := by
  induction actions generalizing w with
  | nil => exact ⟨[], .refl inStep, .nothing ..⟩
  | cons action later ih =>
    obtain ⟨⟨atOnce, first⟩, roams⟩ := List.forall_mem_cons.1 roams
    rw [List.forM, Sim.ends_bind]
    refine (h.ends_take inStep stage inTick level atOnce first).mono ?_ fun _ _ failed => failed
    rintro _ v ⟨es, took, responds⟩
    refine (ih took.inStep roams).mono ?_ fun _ _ failed => ?_
    · rintro _ w' ⟨fs, then', others⟩
      exact ⟨es ++ fs, took.trans then', responds others⟩
    · exact (took.exhausted failed).mono (Nat.le_add_left ..)

end Reaction.Roams

variable [RandomSource γ]

/-- **Observers on the move go by the rule of delivery** in every call, to whatever depth they call
each other. -/
theorem Stage.react_roams (stage : Stage) {behaviour : Behaviour γ} (roaming : behaviour.Roaming)
    (depth : Nat) : (stage.react behaviour depth).Roams behaviour depth := by
  induction depth with
  | zero => exact fun level observer packet w inStep => ⟨rfl, Nat.le_refl _⟩
  | succ depth ih =>
    intro level observer packet w inStep
    have heard := World.Takes.hear inStep level observer packet
    rw [Stage.react, Sim.ends_bind, Sim.ends_note, Sim.ends_bind, Sim.ends_get]
    refine (ih.ends_respond heard.inStep stage _ (level + 1) (roaming observer packet _)).mono ?_
      fun _ _ failed => ?_
    · rintro _ w' ⟨es, took, responds⟩
      exact ⟨es, heard.trans took, responds⟩
    · exact (heard.exhausted failed).mono (by simp [Nat.add_comm])

/-- A world is in step in every course of events that starts when nobody is anywhere. -/
theorem World.Course.inStep_of_directory {start w : World γ} (course : start.Course w)
    (nobody : start.directory.members = .empty) (unmoved : start.attempts = #[])
    (through : w.messenger = .directory) : w.InStep := by
  obtain ⟨moves, treads⟩ := course.treads nobody
  refine ⟨through, treads.tidy, fun zone => ?_⟩
  rw [treads.follows.observers_eq nobody, World.arrived, treads.attempts, unmoved, List.map_append,
    List.map_map]
  exact congrArg _ (List.map_id _).symm

/-- **What a delivery comes to.** In every course of events that starts when nobody is anywhere, a
packet is delivered to a zone while those who receive it move, move others, and have more packets
delivered. It reaches those who came into the zone and have not moved since, and these are those who
are there. Each of them receives it once, in the order in which they came, and nobody else does;
deliveries within go by the same rule. It is answered whether there was anybody. A delivery fails
only if there cannot be such a zone, or if packets are sent within calls, and within those again, as
deep as that may go; one in which less happens than that returns. -/
theorem World.Course.send_roaming {start w : World γ} (course : start.Course w)
    (nobody : start.directory.members = .empty) (unmoved : start.attempts = #[])
    (through : w.messenger = .directory) {behaviour : Behaviour γ} (roaming : behaviour.Roaming)
    (stage : Stage) (depth : Nat) (zone : Value) (packet : Packet) :
    (w.arrived zone).Nodup ∧
    (∀ observer, observer ∈ w.arrived zone ↔
      ∃ place, w.directory.zoneOf? observer = some place ∧ place.sameKey zone = true) ∧
    (Messenger.send (stage.react behaviour depth) zone packet).Ends w
      (fun reached w' => (reached = true ↔ w.arrived zone ≠ []) ∧
        ∃ es, w'.events.toList = w.events.toList ++ es.map (·.2) ∧
          behaviour.Receives 0 packet (w.arrived zone) w es w' ∧
          es.filter (·.1 = 0) = (w.arrived zone).map fun observer => (0, .packet observer packet))
      (fun f w' => zone.isKey = false ∧ f = .notAKey zone ∧ w' = w ∨
        f = .unending ∧ w.events.size + depth ≤ w'.events.size) := by
  have inStep := course.inStep_of_directory nobody unmoved through
  refine ⟨?_, fun observer => ?_, ?_⟩
  · rw [← inStep.order]
    exact inStep.tidy.nodup_observers zone
  · rw [← inStep.order]
    exact inStep.tidy.mem_observers_iff
  · refine ((stage.react_roams roaming depth).ends_send inStep 0 zone packet).mono ?_
      fun _ _ failed => failed
    rintro reached w' ⟨answer, es, took, receives⟩
    exact ⟨answer, es, took.events, receives, receives.direct⟩

namespace TwoZones

/-- When told about the weather for the first time, the rover takes the settler to another zone,
leaves, and has the same packet delivered where the settler is now. -/
def wandering : Behaviour Script := fun call w =>
  match call with
  | .packet name _ =>
    if name = rover ∧ w.callsOf rover = 1 then
      [{ command := .directory (.enter settler (.int 2)) },
        { command := .directory (.leave rover) },
        { command := .messenger (.send (.int 2) .fine) }]
    else []
  | _ => []

theorem roaming_wandering : wandering.Roaming := by
  intro observer packet w action mem
  simp only [wandering] at mem
  split at mem
  · simp only [List.mem_cons, List.not_mem_nil, or_false] at mem
    rcases mem with rfl | rfl | rfl
    · exact ⟨rfl, .enters settler rfl⟩
    · exact ⟨rfl, .leaves rover⟩
    · exact ⟨rfl, .sends rfl .fine⟩
  · exact absurd mem List.not_mem_nil

/-- The world once a packet was sent to the zone in which both are at first. -/
def wandered : World Script :=
  (Messenger.send (Stage.react {} wandering 2) (.int 1) .fine).worldLeft gathered

theorem send_gathered :
    Messenger.send (Stage.react {} wandering 2) (.int 1) .fine gathered = .ok true wandered := rfl

theorem arrived_gathered : gathered.arrived (.int 1) = [rover, settler] := by decide +kernel

end TwoZones

/-- The rover and the settler both receive the packet, though nobody is left in the zone by the time
it is the settler's turn; before that the settler receives the packet that is sent within. -/
theorem World.Course.send_roaming_wandering :
    (TwoZones.idle {} : World Script).Course TwoZones.gathered ∧
      TwoZones.gathered.messenger = .directory ∧ TwoZones.wandering.Roaming ∧
      Messenger.send (Stage.react {} TwoZones.wandering 2) (.int 1) .fine TwoZones.gathered =
        .ok true TwoZones.wandered ∧
      TwoZones.wandered.directory.observers (.int 1) = [] ∧
      TwoZones.wandered.received TwoZones.settler = [.fine, .fine] ∧
      ∃ es : List (Nat × Event),
        TwoZones.wandered.events.toList = TwoZones.gathered.events.toList ++ es.map (·.2) ∧
        es.filter (·.1 = 0) =
          [(0, .packet TwoZones.rover .fine), (0, .packet TwoZones.settler .fine)] := by
  have course : (TwoZones.idle {} : World Script).Course TwoZones.gathered := .afterAll ..
  obtain ⟨-, -, delivery⟩ :=
    course.send_roaming rfl rfl rfl TwoZones.roaming_wandering {} 2 (.int 1) .fine
  obtain ⟨-, es, events, -, direct⟩ := delivery.of_ok TwoZones.send_gathered
  rw [TwoZones.arrived_gathered] at direct
  exact ⟨course, rfl, TwoZones.roaming_wandering, TwoZones.send_gathered, by decide +kernel,
    by decide +kernel, es, events, direct⟩

end Microclimate
