import Microclimate.Proofs.Agreement
import Microclimate.Proofs.Repeats

/-!
# What notifications tell

When a cycle tells its zone of its weather, the listeners are notified afterwards. The notification
carries the state that was announced, and with it the intensity that the cycle has **by then**. An
observer who received the packet may have forced other weather meanwhile, or let time pass, so the
two need not belong together.

They do belong to what was announced, though, however deep the calls within calls go: the state to
the packet of the call that notifies, the intensity to the packet that the cycle announced last. For
whatever changes the weather of a cycle announces it before anybody else is called, if actors do not
replace or roll the weather on their own.

* `Microclimate.World.announced` – what a cycle has told its zone;
* `Microclimate.World.Current` – **the weather of a cycle is what it announced last**;
* `Microclimate.Command.Open` – commands that change no weather without announcing it;
* `Microclimate.Stage.react_current` – actors who give such commands leave it at that;
* `Microclimate.CycleId.broadcast_notifies` – the state and the intensity of a notification.
-/

namespace Microclimate

variable {γ : Type}

/-! ### What a cycle has announced -/

/-- The packet that a cycle sends to its zone in a dispatch. -/
def Dispatch.announces? (id : CycleId) (d : Dispatch) : Option Packet :=
  match d.receiver with
  | .zone _ => if d.sender = id then some d.packet else none
  | .observer _ => none

/-- **What a cycle has told its zone**, oldest first. -/
def World.announced (w : World γ) (id : CycleId) : List Packet :=
  w.sent.toList.filterMap (Dispatch.announces? id)

namespace World

variable {w w' : World γ} {id other : CycleId}

theorem announced_congr (sent : w'.sent = w.sent) : w'.announced id = w.announced id := by
  rw [announced, sent, announced]

theorem Sends.announced {ds : List Dispatch} (h : w.Sends ds w') (id : CycleId) :
    w'.announced id = w.announced id ++ ds.filterMap (Dispatch.announces? id) := by
  rw [World.announced, h, List.filterMap_append]
  rfl

/-- What a cycle announces is its weather, brought into the range that is broadcast. -/
theorem announced_announce (known : id.number < w.cycles.size) :
    (w.announce id).announced id = w.announced id ++ [(w.cycle id).clamp.packet] := by
  have clamped := w.cycle_editCycle known Cycle.clamp
  have sends := Sends.dispatch (w.editCycle id Cycle.clamp) id
    (.zone ((w.editCycle id Cycle.clamp).cycle id).zone)
    ((w.editCycle id Cycle.clamp).cycle id).packet
  have before : (w.editCycle id Cycle.clamp).announced id = w.announced id := announced_congr rfl
  rw [announce, sends.announced, clamped, before]
  simp [Dispatch.announces?]

/-- What one cycle announces is nothing that another one does. -/
theorem announced_announce_of_ne (ne : other ≠ id) :
    (w.announce other).announced id = w.announced id := by
  have before : (w.editCycle other Cycle.clamp).announced id = w.announced id := announced_congr rfl
  rw [announce, (Sends.dispatch _ other _ _).announced, before]
  simp [Dispatch.announces?, ne]

/-- What a cycle tells a single observer is not announced. -/
theorem announced_dispatch_observer (observer : ActorName) (packet : Packet) :
    (w.dispatch other (.observer observer) packet).announced id = w.announced id := by
  rw [(Sends.dispatch w other (.observer observer) packet).announced]
  simp [Dispatch.announces?]

end World

/-- What is seen last of the weather of a cycle: the packet it announced last, or a clear sky if it
has no chances of any other weather. -/
def World.LastSeen (w : World γ) (id : CycleId) (p : Packet) : Prop :=
  (w.announced id).getLast? = some p ∨ (w.cycle id).table = none ∧ p = .fine

/-- **The weather of a cycle is what it announced last**, or a clear sky if it has no chances of any
other weather. -/
structure World.Current (w : World γ) (id : CycleId) : Prop where
  known : id.number < w.cycles.size
  unsigned : Unsigned (w.cycle id).intensity
  seen : w.LastSeen id (w.cycle id).packet

namespace World.Current

variable {w w' : World γ} {id other : CycleId}

theorem congr (h : w.Current id) (size : w.cycles.size ≤ w'.cycles.size)
    (cycle : w'.cycle id = w.cycle id) (announced : w'.announced id = w.announced id) :
    w'.Current id := by
  obtain ⟨known, unsigned, seen⟩ := h
  refine ⟨known.trans_le size, cycle ▸ unsigned, ?_⟩
  rwa [LastSeen, announced, cycle]

theorem of_scene (h : w.Current id) (scene : w'.toScene = w.toScene) (sent : w'.sent = w.sent) :
    w'.Current id :=
  h.congr (by rw [scene]) (by rw [scene]) (announced_congr sent)

/-- Once a cycle has announced its weather, that is its weather. -/
theorem announce (known : id.number < w.cycles.size) : (w.announce id).Current id := by
  have clamped : (w.announce id).cycle id = (w.cycle id).clamp :=
    w.cycle_editCycle known Cycle.clamp
  refine ⟨by simpa [World.announce] using known, ?_, .inl ?_⟩
  · rw [clamped]
    exact unsigned_clampIntensity _
  · rw [announced_announce known, List.getLast?_concat, clamped]

/-- What another cycle undergoes does not matter. -/
theorem apart (h : w.Current id) {kind : Event → Prop} (touched : w.Touches kind other w')
    (ne : other ≠ id) (sent : w'.sent = w.sent) : w'.Current id :=
  h.congr touched.size.ge (touched.others ne.symm) (announced_congr sent)

/-- What is changed of a cycle apart from its weather does not matter. -/
theorem edit (h : w.Current id) {f : Cycle → Cycle} (make : ∀ c, Cycle.SameMake c (f c))
    (weather : ∀ c, Cycle.SameWeather c (f c)) : (w.editCycle other f).Current id := by
  by_cases same : other = id
  · subst same
    have now := w.cycle_editCycle h.known f
    have packet : (f (w.cycle other)).packet = (w.cycle other).packet := by
      rw [Cycle.packet, Cycle.state, (weather _).kind, (weather _).intensity]
      rfl
    refine ⟨by simpa using h.known, ?_, ?_⟩
    · rw [now, (weather _).intensity]
      exact h.unsigned
    · have seen := h.seen
      rw [LastSeen] at seen ⊢
      rw [now, packet, (make _).table]
      exact seen
  · have touched : w.Touches (fun _ => True) other (w.editCycle other f) := .editCycle w other make
    exact h.apart touched same rfl

end World.Current

/-- **The contract of announcing** what is changed of the weather of a cycle. Nothing is asked of a
change that fails. -/
def Contract.current (id : CycleId) : Contract γ where
  good w w' := w.Current id → w'.Current id
  bad _ _ _ := True
  refl _ := fun h => h
  trans h h' := fun before => h' (h before)
  bad_trans _ _ := trivial

/-- Where no cycle takes part, all weather stays what was announced last. -/
theorem Contract.allows_current (id : CycleId) : (current id : Contract γ).Allows where
  happened _ _ _ h := h.of_scene rfl rfl
  surroundings _ _ _ _ _ _ _ _ h := h.congr le_rfl rfl rfl
  stopped _ _ h := h.congr le_rfl rfl rfl
  moved w m _ h := by
    obtain ⟨d, attempts, left⟩ := m.carryOut_worldLeft w
    rw [left]
    exact h.congr le_rfl rfl rfl
  fail _ _ := trivial

namespace Sim

variable {α : Type} {id : CycleId}

theorem keeps_current {x : Sim γ α}
    (h : ∀ w, w.Current id → x.Ends w (fun _ w' => w'.Current id) fun _ _ => True) :
    x.Keeps (.current id) := by
  intro w
  by_cases current : w.Current id
  · exact (h w current).mono (fun _ _ after _ => after) fun _ _ _ => trivial
  · exact (ends_self x w).mono (fun _ _ _ before => absurd before current) fun _ _ _ => trivial

theorem Keeps.current {x : Sim γ α} (h : x.Keeps (.current id)) {w : World γ}
    (current : w.Current id) : x.Ends w (fun _ w' => w'.Current id) fun _ _ => True :=
  (h w).mono (fun _ _ after => after current) fun _ _ _ => trivial

end Sim

/-! ### Operations -/

section Operations

variable {id : CycleId} {react : Reaction γ} (h : react.Keeps (.current id))
include h

namespace CycleId

/-- **Telling a zone of the weather of a cycle**, whatever happened to that cycle before. -/
theorem broadcast_current {w w' : World γ} {other : CycleId} (current : w.Current id)
    (touched : w.Touches (fun _ => True) other w') (sent : w'.sent = w.sent) (trigger : Bool) :
    (other.broadcast react trigger).Ends w' (fun _ v => v.Current id) fun _ _ => True := by
  have allows := Contract.allows_current (γ := γ) id
  have announced : (w'.announce other).Current id := by
    by_cases same : other = id
    · subst same
      exact .announce (touched.size.symm ▸ current.known)
    · refine current.congr ?_ ?_ ?_
      · exact (touched.trans (w'.touches_announce other)).size.ge
      · exact (touched.trans (w'.touches_announce other)).others (Ne.symm same)
      · rw [World.announced_announce_of_ne same, World.announced_congr sent]
  rw [broadcast, Sim.ends_bind, Sim.ends_editCycle, Sim.ends_bind, Sim.ends_cycle, Sim.ends_bind,
    Sim.ends_dispatch]
  refine Sim.Keeps.current (.bind (Messenger.send_keeps allows h _ _) fun reached => ?_) announced
  refine .ite (.bind (Sim.emit_keeps allows ?_) fun _ => .ite ?_ (.pure _)) (.pure _)
  · rintro _ _ ⟨⟩
  exact .bind (.cycle other) fun _ => .bind (Hooks.notifyChanged_keeps h _ _ _) fun _ => .pure _

theorem setWeather_current (other : CycleId) (kind : WeatherKind) (intensity : Float)
    (trigger : Bool) : (other.setWeather react kind intensity trigger).Keeps (.current id) := by
  refine Sim.keeps_current fun w current => ?_
  rw [setWeather, Sim.ends_bind, Sim.ends_cycle, Sim.ends_ite]
  split
  · exact current
  · have forced : w.Touches (fun _ => True) other
        (w.editCycle other (·.withWeather kind intensity)) :=
      .editCycle w other fun _ => ⟨rfl, rfl, rfl⟩
    rw [Sim.ends_bind, Sim.ends_editCycle, Sim.ends_discard]
    exact broadcast_current h current forced rfl trigger

theorem sendTo_current (other : CycleId) (observer : ActorName) :
    (other.sendTo react observer).Keeps (.current id) := by
  refine .bind (.cycle other) fun now => .bind (fun w current => ?_) fun _ => h _
  exact current.congr le_rfl rfl (World.announced_dispatch_observer observer now.packet)

variable [RandomSource γ]

omit h in
/-- **Rolling the weather of a cycle** without reporting a change, or that of another cycle. -/
theorem regenerate_current {w : World γ} (current : w.Current id) (other : CycleId) :
    other.regenerate.Ends w
      (fun changed w' => w.Touches Event.IsRoll other w' ∧ w'.sent = w.sent ∧
        (changed = false ∨ other ≠ id → w'.Current id)) fun _ _ => True := by
  have rolled := (regenerate_touches other w).and (regenerate_sent other w)
  by_cases same : other = id
  case neg =>
    exact rolled.mono (fun _ _ ends => ⟨ends.1, ends.2, fun _ => current.apart ends.1 same ends.2⟩)
      fun _ _ _ => trivial
  subst same
  cases chances : (w.cycle other).table with
  | none =>
    -- without chances, the weather is simply fine
    have now := w.cycle_editCycle current.known (·.withWeather .fine 0.0)
    rw [ends_regenerate_of_none chances]
    refine ⟨.editCycle w other fun _ => ⟨rfl, rfl, rfl⟩, rfl, fun _ => ⟨?_, ?_, .inr ?_⟩⟩
    · simpa using current.known
    · rw [now]
      exact unsigned_zero
    · rw [now]
      exact ⟨chances, congrArg (Packet.mk · 0.0) (show classify .fine 0.0 = .fine by decide)⟩
  | some table =>
    have settles := regenerate_settles current.known (by rw [chances]; rfl) current.unsigned
    refine (rolled.and settles).mono (fun changed w' ends => ?_) fun _ _ _ => trivial
    obtain ⟨⟨touched, sent⟩, packet, unsigned⟩ := ends
    refine ⟨touched, sent, fun unchanged => ?_⟩
    replace unchanged := unchanged.resolve_right (absurd rfl)
    have seen := current.seen
    refine ⟨touched.size.symm ▸ current.known, unsigned (.inl unchanged), ?_⟩
    rw [World.LastSeen] at seen ⊢
    rw [packet unchanged, World.announced_congr sent, touched.make.table]
    exact seen

/-- **Letting time pass for a cycle**: a change that is reported is announced. -/
theorem update_current (other : CycleId) (diff : Int) :
    (other.update react diff).Keeps (.current id) := by
  have edit {f : Cycle → Cycle} (make : ∀ c, Cycle.SameMake c (f c))
      (weather : ∀ c, Cycle.SameWeather c (f c)) :
      (Sim.editCycle other f : Sim γ Unit).Keeps (.current id) :=
    fun _ current => current.edit make weather
  have changes : (other.changeWhenDue react).Keeps (.current id) := by
    refine .bind (.cycle other) fun now => .ite ?_ (.pure _)
    refine .bind (edit (fun _ => ⟨rfl, rfl, rfl⟩) fun _ => ⟨rfl, rfl⟩) fun _ => ?_
    refine Sim.keeps_current fun w current => ?_
    rw [Sim.ends_bind]
    refine (regenerate_current current other).mono (fun changed w' ends => ?_) fun _ _ _ => trivial
    obtain ⟨touched, sent, unchanged⟩ := ends
    cases changed with
    | true => exact broadcast_current h current (touched.mono fun _ _ => trivial) sent true
    | false => exact unchanged (.inl rfl)
  refine .bind (edit (fun _ => ⟨rfl, rfl, ?_⟩) fun _ => ⟨rfl, rfl⟩) fun _ =>
    .bind changes fun _ => ?_
  · dsimp only
    split <;> rfl
  · exact .ite (.bind (Hooks.notifyTicked_keeps h _ _) fun _ => .pure _) (.pure _)

end CycleId

variable [RandomSource γ]

theorem Manager.update_current (diff : Int) : (Manager.update react diff).Keeps (.current id) :=
  Manager.update_keeps (fun other => CycleId.update_current h other diff)
    (fun _ _ _ current => current.congr le_rfl rfl rfl) fun _ _ => trivial

omit h in
/-- Starting the weather of a zone leaves all other cycles alone. -/
theorem Manager.add_current (zone : Value) : (Manager.add zone : Sim γ _).Keeps (.current id) := by
  refine Sim.keeps_current fun w current => ?_
  rw [ends_add]
  split
  · cases w.manager.chances? zone with
    | none => exact current
    | some table =>
      have started : (w.start zone table).Current id :=
        current.congr (by simp [World.start]) (World.cycle_start_of_known current.known) rfl
      have new : (⟨w.cycles.size⟩ : CycleId) ≠ id := by
        rintro rfl
        exact lt_irrefl _ current.known
      exact (CycleId.regenerate_current started _).mono (fun _ _ ends => ends.2.2 (.inr new))
        fun _ _ _ => trivial
  · trivial

end Operations

/-! ### Actors -/

/-- **A command that changes no weather without announcing it**: any command, but for those that
replace the weather of a cycle or roll it and tell nobody. -/
def Command.Open : Command γ → Prop
  | cycle _ .regenerate | cycle _ (.assign ..) => False
  | _ => True

/-- Actors give only such commands. -/
def Behaviour.Open (behaviour : Behaviour γ) : Prop :=
  ∀ call w, ∀ action ∈ behaviour call w, action.command.Open

section Actors

variable [RandomSource γ] {id : CycleId}

theorem Command.perform_current {react : Reaction γ} (h : react.Keeps (.current id)) (stage : Stage)
    (inTick : Bool) {command : Command γ} (isOpen : command.Open) :
    (command.perform stage react inTick).Keeps (.current id) := by
  have allows := Contract.allows_current (γ := γ) id
  have update := Manager.update_current h
  refine command.perform_allowed allows h update stage inTick ?_ fun asked _ =>
    asked.perform_allowed allows h update Manager.add_current (CycleId.sendTo_current h)
      (CycleId.setWeather_current h)
  rintro name asked rfl other
  cases asked with
  | update diff => exact .bind (CycleId.update_current h other diff) fun _ => .pure _
  | broadcast trigger =>
    refine .bind (Sim.keeps_current fun w current => ?_) fun _ => .pure _
    exact CycleId.broadcast_current h current (.refl w) rfl trigger
  | setWeather kind intensity trigger =>
    exact .bind (CycleId.setWeather_current h other kind intensity trigger) fun _ => .pure _
  | sendTo observer => exact .bind (CycleId.sendTo_current h other observer) fun _ => .pure _
  | sendFineTo observer => exact .bind (CycleId.sendFineTo_keeps h observer) fun _ => .pure _
  | describe => exact .bind (.cycle other) fun _ => .pure _
  | profile => exact .bind (.cycle other) fun _ => .pure _
  | regenerate => exact isOpen.elim
  | assign kind intensity elapsed => exact isOpen.elim

/-- **Actors who give such commands announce what they change**, to whatever depth they call each
other. -/
theorem Stage.react_current (stage : Stage) {behaviour : Behaviour γ} (isOpen : behaviour.Open)
    (depth : Nat) : (stage.react behaviour depth).Keeps (.current id) :=
  stage.react_allowed (Contract.allows_current id)
    (fun h call w action mem => Command.perform_current h stage _ (isOpen call w action mem)) depth

end Actors

/-! ### Notifications -/

/-- **What a notification tells.** A cycle has announced its weather to its zone, and somebody was
reached. Whatever the observers did meanwhile, by commands that change no weather without announcing
it, the listeners are then notified of the state in the packet that was announced, and of the
intensity in the packet that was seen last. That may be a later one, which was announced in a call
within this call; the notification tells of what was announced if and only if the intensities are
the same. -/
theorem CycleId.broadcast_notifies [RandomSource γ] (stage : Stage) {behaviour : Behaviour γ}
    (isOpen : behaviour.Open) (depth : Nat) {id : CycleId} {w u : World γ}
    (known : id.number < w.cycles.size)
    (reached : Messenger.send (stage.react behaviour depth) (w.cycle id).zone
      (w.cycle id).clamp.packet (w.announce id) = .ok true u) :
    let p := (w.cycle id).clamp.packet
    p.state = classify (w.cycle id).kind p.intensity ∧
      ∃ later q, u.announced id = w.announced id ++ p :: later ∧ u.LastSeen id q ∧
        ((⟨p.state, q.intensity⟩ : Packet) = p ↔ q.intensity = p.intensity) ∧
        id.broadcast (stage.react behaviour depth) true w =
          (do
            Hooks.notifyChanged (stage.react behaviour depth) (some id) p.state q.intensity
            return true : Sim γ Bool) (u.emit (.logged (.changed (w.cycle id).zone p.state))) := by
  intro p
  have clamped : (w.editCycle id Cycle.clamp).cycle id = (w.cycle id).clamp :=
    w.cycle_editCycle known Cycle.clamp
  have announces := Messenger.send_keeps (Contract.allows_current id)
    (stage.react_current isOpen depth) (w.cycle id).zone p
  have grows := Messenger.send_keeps Contract.admits_growing.allows
    (stage.react_growing behaviour depth) (w.cycle id).zone p
  have current : u.Current id := (announces.current (.announce known)).of_ok reached
  have grown : (w.announce id).Grows u := (grows (w.announce id)).of_ok reached
  obtain ⟨ds, sends⟩ := grown.sends
  refine ⟨rfl, ds.filterMap (Dispatch.announces? id), (u.cycle id).packet, ?_, current.seen, ?_, ?_⟩
  · rw [sends.announced, World.announced_announce known, List.append_assoc]
    rfl
  · exact ⟨fun whole => (Packet.mk.inj whole).2, fun same => by rw [same]⟩
  · have sent : Messenger.send (stage.react behaviour depth)
        ((w.editCycle id Cycle.clamp).cycle id).zone ((w.editCycle id Cycle.clamp).cycle id).packet
        (w.announce id) = .ok true u := by
      rw [clamped]
      exact reached
    rw [broadcast]
    change (Messenger.send (stage.react behaviour depth)
      ((w.editCycle id Cycle.clamp).cycle id).zone
      ((w.editCycle id Cycle.clamp).cycle id).packet >>= _) (w.announce id) = _
    rw [Sim.bind_of_ok sent, if_pos rfl, if_pos rfl, clamped]
    rfl

namespace TwoZones

/-- The visitor answers heavy rain by asking for light rain. -/
def calming : Behaviour Script := fun call _ =>
  match call with
  | .packet _ ⟨⟨5⟩, _⟩ => [{ command := .manager (.setWeather (.text "a") .rain 0.3 true) }]
  | _ => []

/-- It rains heavily in the first zone, and nobody was told yet. -/
def pouring : World Script :=
  attended.afterAll {} .recording 1
    [.manager (.getOrCreate (.text "a")),
      .cycle (.running (.text "a")) (.assign (some .rain) (some 0.9) none)]

/-- The visitor is told. -/
def telling : Sim Script Bool :=
  Messenger.send (Stage.react {} calming 3) (pouring.cycle ⟨0⟩).zone
    (pouring.cycle ⟨0⟩).clamp.packet

/-- The world once the visitor was told. -/
def calmed : World Script := telling.worldLeft (pouring.announce ⟨0⟩)

/-- The world once the listener was notified, too. -/
def notified : World Script :=
  (CycleId.broadcast (Stage.react {} calming 3) ⟨0⟩ true).worldLeft pouring

theorem open_calming : calming.Open := by
  intro call w action mem
  unfold calming at mem
  split at mem
  · obtain rfl := List.mem_singleton.1 mem
    trivial
  · cases mem

theorem run_telling : telling (pouring.announce ⟨0⟩) = .ok true calmed := by
  have someone : (match telling (pouring.announce ⟨0⟩) with
      | .ok reached _ => reached
      | .error .. => false) = true := by decide +kernel
  rw [calmed, Sim.worldLeft]
  cases run : telling (pouring.announce ⟨0⟩) with
  | ok reached u =>
    rw [run] at someone
    exact congrArg (EStateM.Result.ok · u) someone
  | error f u =>
    rw [run] at someone
    cases someone

theorem announced_calmed :
    (pouring.cycle ⟨0⟩).clamp.packet = ⟨⟨5⟩, 0.9⟩ ∧ (calmed.cycle ⟨0⟩).table.isSome ∧
      (calmed.announced ⟨0⟩).getLast? = some ⟨⟨3⟩, 0.3⟩ := by
  decide +kernel

theorem learned_notified :
    (notified.learned (.text "a") (.listener hearer)).getLast? = some ⟨⟨5⟩, 0.3⟩ := by
  decide +kernel

end TwoZones

/-- While the visitor is being told of the heavy rain, light rain is announced; and the listener is
notified of the heavy rain, at the intensity of the light one. -/
theorem CycleId.broadcast_notifies_torn :
    let p := (TwoZones.pouring.cycle ⟨0⟩).clamp.packet
    TwoZones.calming.Open ∧ 0 < TwoZones.pouring.cycles.size ∧
      Messenger.send (Stage.react {} TwoZones.calming 3) (TwoZones.pouring.cycle ⟨0⟩).zone p
        (TwoZones.pouring.announce ⟨0⟩) = .ok true TwoZones.calmed ∧
      p = ⟨⟨5⟩, 0.9⟩ ∧ TwoZones.calmed.LastSeen ⟨0⟩ ⟨⟨3⟩, 0.3⟩ ∧
      broadcast (Stage.react {} TwoZones.calming 3) ⟨0⟩ true TwoZones.pouring =
        (do
          Hooks.notifyChanged (Stage.react {} TwoZones.calming 3) (some ⟨0⟩) ⟨5⟩ 0.3
          return true : Sim Script Bool)
          (TwoZones.calmed.emit (.logged (.changed (TwoZones.pouring.cycle ⟨0⟩).zone ⟨5⟩))) ∧
      (TwoZones.notified.learned (.text "a") (.listener TwoZones.hearer)).getLast? =
        some ⟨⟨5⟩, 0.3⟩ := by
  intro p
  obtain ⟨heavy, chances, light⟩ := TwoZones.announced_calmed
  have known : 0 < TwoZones.pouring.cycles.size := by decide +kernel
  obtain ⟨-, later, q, -, seen, -, run⟩ :=
    broadcast_notifies {} TwoZones.open_calming 3 known TwoZones.run_telling
  have last : q = ⟨⟨3⟩, 0.3⟩ := by
    rcases seen with seen | ⟨none, -⟩
    · exact (Option.some.inj (light.symm.trans seen)).symm
    · rw [none] at chances
      cases chances
  subst last
  refine ⟨TwoZones.open_calming, known, TwoZones.run_telling, heavy, seen, ?_,
    TwoZones.learned_notified⟩
  rw [run, heavy]

end Microclimate
