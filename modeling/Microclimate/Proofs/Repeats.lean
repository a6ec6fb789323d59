import Microclimate.Proofs.ByChance
import Microclimate.Proofs.Sequence
import Microclimate.Random.Script

/-!
# Packets that say nothing new

A cycle tells its zone of the weather when a roll reports a change. One would like every packet to
differ from the one before, and it does not: whether the weather changed is decided **before** the
intensity is brought into the range that is broadcast, and what was kept from the last time was
brought into that range. So weather at an end of the range may move beyond it and be brought back to
where it was. Fine weather is always at the lower end, and every roll that leaves it fine is told
again. Besides, weather of less intensity than can be seen may give way to another kind at the very
same intensity.

There is no other way. What has to be shown is that no change of an intensity is lost in rounding,
and that the states of a family are never those of any other kind.

* `Microclimate.Cycle.Hides` – a change that cannot be seen;
* `Microclimate.Cycle.clamp_packet_eq_iff` – **the next packet repeats the last one if and only if
  the change cannot be seen**;
* `Microclimate.CycleId.regenerate_reports` – a roll reports a change if and only if it made one;
* `Microclimate.World.Delivers` – what is sent is what the messenger is handed, with
  `Microclimate.CycleId.update_delivers`, **if the actors only take note**;
* `Microclimate.CycleId.updates_repeat` – the law, for all packets that a cycle sends while time
  passes.
-/

namespace Microclimate

variable {γ : Type}

/-! ### Changes that cannot be seen -/

namespace Cycle

/-- A cycle has the same weather as before. -/
structure SameWeather (c d : Cycle) : Prop where
  kind : d.kind = c.kind
  intensity : d.intensity = c.intensity

/-- **A cycle has changed** as a roll may change it: the kind has another intensity, or there is a
new kind, which was selected. -/
structure Changes (c d : Cycle) : Prop where
  intensity : d.kind = c.kind → d.intensity ≠ c.intensity
  kind : d.kind ≠ c.kind → d.kind = .fine ∧ d.intensity = 0.0 ∨ ∃ f : Family, d.kind = f.kind

/-- **A change cannot be seen**: the intensity is at an end of the range that is broadcast and
leaves the range there; or it is too little to be seen, and a new kind has the same one. -/
def Hides (c d : Cycle) : Prop :=
  if d.kind = c.kind then
    c.intensity = maxIntensity ∧ maxIntensity < d.intensity ∨
      c.intensity = minIntensity ∧ d.intensity < minIntensity
  else
    c.intensity < fineBelow ∧ clampIntensity d.intensity = c.intensity

theorem SameWeather.refl (c : Cycle) : c.SameWeather c := ⟨rfl, rfl⟩

theorem SameWeather.trans {a b c : Cycle} (h : a.SameWeather b) (h' : b.SameWeather c) :
    a.SameWeather c :=
  ⟨h'.kind.trans h.kind, h'.intensity.trans h.intensity⟩

theorem SameWeather.changes {a b c : Cycle} (h : a.SameWeather b) (h' : b.Changes c) :
    a.Changes c :=
  ⟨by rw [← h.kind, ← h.intensity]; exact h'.intensity, by rw [← h.kind]; exact h'.kind⟩

end Cycle

/-- No double is both above the range that is broadcast and below it. -/
theorem not_lt_minIntensity {y : Float} (above : Cycle.maxIntensity < y) :
    ¬y < Cycle.minIntensity := by
  intro below
  exact absurd (float_lt_trans above below) (by decide)

/-- An intensity in the range is reached from another one only across an end of the range. -/
theorem clampIntensity_eq_iff {x y : Float} (ne : y ≠ x) :
    Cycle.clampIntensity y = x ↔
      x = Cycle.maxIntensity ∧ Cycle.maxIntensity < y ∨
        x = Cycle.minIntensity ∧ y < Cycle.minIntensity := by
  rw [Cycle.clampIntensity]
  split
  next above => simp [above, not_lt_minIntensity above, eq_comm]
  next notAbove =>
    split
    next below => simp [notAbove, below, eq_comm]
    next notBelow => simp [notAbove, notBelow, ne]

/-- **A state of a family is that of its own kind only.** -/
theorem kind_of_classify_eq {kind : WeatherKind} {x : Float} {f : Family} {s : Severity}
    (h : classify kind x = f.state s) : kind = f.kind := by
  have apart : WeatherState.fine ≠ f.state s ∧ WeatherState.blackrain ≠ f.state s ∧
      WeatherState.thunders ≠ f.state s := by
    cases f <;> cases s <;> decide
  have injective (g : Family) (t : Severity) (same : g.state t = f.state s) : g = f := by
    revert same
    cases g <;> cases f <;> cases t <;> cases s <;> decide
  rw [classify] at h
  split at h
  · exact absurd h apart.1
  split at h
  · exact absurd h apart.2.1
  split at h
  · exact absurd h apart.2.2
  split at h
  next => exact absurd h apart.1
  next g found =>
    obtain rfl := injective g _ h
    have own := List.find?_some found
    simpa [eq_comm] using own

/-- Weather of two kinds is told alike only if there is too little of it to be seen. -/
theorem lt_fineBelow_of_classify_eq {kind kind' : WeatherKind} {x : Float} (ne : kind' ≠ kind)
    (selected : kind' = .fine ∧ x = Cycle.minIntensity ∨ ∃ f : Family, kind' = f.kind)
    (same : classify kind' x = classify kind x) : x < fineBelow := by
  rcases selected with ⟨-, rfl⟩ | ⟨f, rfl⟩
  · decide
  · by_contra seen
    have told : classify f.kind x = f.state (.ofIntensity x) := by
      rw [classify_family, if_neg seen]
    exact ne (kind_of_classify_eq (same.symm.trans told)).symm

/-- **The next packet repeats the last one if and only if the change cannot be seen.** -/
theorem Cycle.clamp_packet_eq_iff {c d : Cycle} (changes : c.Changes d) :
    d.clamp.packet = c.packet ↔ c.Hides d := by
  have packets : d.clamp.packet = c.packet ↔
      classify d.kind (clampIntensity d.intensity) = classify c.kind c.intensity ∧
        clampIntensity d.intensity = c.intensity := by
    rw [Cycle.packet, Cycle.packet, Packet.mk.injEq]
    rfl
  rw [packets, Hides]
  split
  next same =>
    rw [same, ← clampIntensity_eq_iff (changes.intensity same)]
    constructor
    · exact And.right
    · intro hidden
      exact ⟨by rw [hidden], hidden⟩
  next other =>
    constructor
    · rintro ⟨state, hidden⟩
      rw [hidden] at state
      refine ⟨lt_fineBelow_of_classify_eq other ?_ state, hidden⟩
      rcases changes.kind other with ⟨fine, zero⟩ | selected
      · exact .inl ⟨fine, by rw [← hidden, zero]; rfl⟩
      · exact .inr selected
    · rintro ⟨unseen, hidden⟩
      exact ⟨by rw [hidden, classify, if_pos unseen, classify, if_pos unseen], hidden⟩

/-! ### What a roll reports -/

namespace CycleId

variable [RandomSource γ] {id : CycleId} {w : World γ}

omit [RandomSource γ] in
/-- A change without a selection gives the kind another intensity. -/
theorem become_changes (known : id.number < w.cycles.size) {x : Float}
    (ne : x ≠ (w.cycle id).intensity) :
    (do id.become (w.cycle id).kind x; return true : Sim γ Bool).Ends w
      (fun done w' => done = true → (w.cycle id).Changes (w'.cycle id)) fun _ _ => True := by
  rw [Sim.ends_bind, become, Sim.ends_editCycle, Sim.ends_pure, w.cycle_editCycle known]
  exact fun _ => ⟨fun _ => ne, fun other => absurd rfl other⟩

/-- What a change without a selection makes of weather in the range that is broadcast. -/
theorem changeWeather_changes (known : id.number < w.cycles.size)
    (seen : InBroadcast (w.cycle id).intensity) (roll : Int) :
    (id.changeWeather roll).Ends w
      (fun done w' => done = true → (w.cycle id).Changes (w'.cycle id)) fun _ _ => True := by
  have unit := seen.inUnit
  have positive := seen.value_pos
  rw [changeWeather, Sim.ends_bind, Sim.ends_cycle, Sim.ends_ite]
  split
  · have fine : ((w.editCycle id (·.withWeather .fine 0.0)).cycle id).kind = .fine := by
      rw [w.cycle_editCycle known]
      rfl
    rw [Sim.ends_bind, become, Sim.ends_editCycle, Sim.ends_bind, Sim.ends_cycle, if_pos fine]
    exact fun done => absurd done Bool.false_ne_true
  · rw [Sim.ends_bind, Sim.ends_cycle, Sim.ends_ite, Sim.ends_ite, Sim.ends_ite]
    split
    · exact fun done => absurd done Bool.false_ne_true
    split
    · exact become_changes known (ne_of_apply_ne value (unit.sub_third_ne positive))
    split
    · exact become_changes known (ne_of_apply_ne value unit.add_third_ne)
    rw [Sim.ends_bind]
    have radical : (id.changeRadically (w.cycle id)).Ends w
        (fun done w' => done = true → (w.cycle id).Changes (w'.cycle id)) fun _ _ => True := by
      rw [changeRadically, Sim.ends_ite, Sim.ends_ite]
      split
      next light =>
        refine become_changes known fun same => ?_
        rw [← same] at light
        exact absurd light (by decide)
      split
      · rw [Sim.ends_bind]
        refine (Sim.integer_scene 0 99 w).mono (fun n w₁ scene => ?_) fun _ _ _ => trivial
        have same : w₁.cycle id = w.cycle id := by rw [scene]
        rw [Sim.ends_ite, ← same]
        split
        · refine become_changes (by rwa [scene]) ?_
          rw [same]
          exact ne_of_apply_ne value (unit.sub_twoThirds_ne positive)
        · exact fun done => absurd done Bool.false_ne_true
      · exact fun done => absurd done Bool.false_ne_true
    refine radical.mono (fun done w₁ changes => ?_) fun _ _ _ => trivial
    cases done with
    | true => exact fun _ => changes rfl
    | false => exact fun done => absurd done Bool.false_ne_true

/-- A selection gives fine weather without any intensity, or weather of a family. -/
theorem selectWeather_selects (known : id.number < w.cycles.size) (chances : Chances)
    (radical : Bool) :
    (id.selectWeather chances radical).Ends w
      (fun _ w' => (w'.cycle id).kind = .fine ∧ (w'.cycle id).intensity = 0.0 ∨
        ∃ f : Family, (w'.cycle id).kind = f.kind) fun _ _ => True := by
  rw [selectWeather, Sim.ends_bind]
  refine (Sim.integer_scene 1 100 w).mono (fun n w₁ scene => ?_) fun _ _ _ => trivial
  have there :
      id.number < (w₁.editCycle id fun c => { c with kind := chances.select n }).cycles.size := by
    simpa [scene] using known
  rw [Sim.ends_bind, Sim.ends_editCycle, Sim.ends_ite]
  generalize w₁.editCycle id (fun c => { c with kind := chances.select n }) = w₂ at there
  split
  next fine =>
    rw [become, Sim.ends_editCycle, w₂.cycle_editCycle there]
    exact .inl ⟨fine, rfl⟩
  next unclear =>
    rw [Sim.ends_bind]
    refine (newIntensity_keeps (Contract.letsRoll_touching (γ := γ) id) radical w₂).mono
      (fun x w₃ touched => ?_) fun _ _ _ => trivial
    rw [become, Sim.ends_editCycle, w₃.cycle_editCycle (touched.size.symm ▸ there)]
    rcases chances.select_cases n with fine | ⟨f, selected, -⟩
    · exact absurd fine unclear
    · exact .inr ⟨f, selected⟩

/-- **A roll reports a change if and only if it made one**, from weather in the range that is
broadcast. -/
theorem regenerate_reports (known : id.number < w.cycles.size)
    (chances : (w.cycle id).table.isSome) (seen : InBroadcast (w.cycle id).intensity) :
    id.regenerate.Ends w
      (fun changed w' => if changed then (w.cycle id).Changes (w'.cycle id)
        else (w.cycle id).SameWeather (w'.cycle id)) fun _ _ => True := by
  obtain ⟨table, made⟩ := Option.isSome_iff_exists.1 chances
  rw [ends_regenerate made]
  refine (Sim.integer_scene 0 99 w).mono (fun roll w₁ scene => ?_) fun _ _ _ => trivial
  have same : w₁.cycle id = w.cycle id := by rw [scene]
  split
  · rw [if_neg Bool.false_ne_true, same]
    exact .refl _
  rw [Sim.ends_dayOfYear]
  cases w₁.clock.dayOfYear with
  | error f => trivial
  | ok day =>
    have logged : (w₁.emit (.logged (.generating (.ofDay day) (w.cycle id).zone))).toScene =
      w.toScene := scene
    dsimp only
    generalize w₁.emit (.logged (.generating (.ofDay day) (w.cycle id).zone)) = w₂ at logged ⊢
    have there : id.number < w₂.cycles.size := by rwa [logged]
    replace same : w₂.cycle id = w.cycle id := by rw [logged]
    have settled := changeWeather_settles there roll
    refine (settled.and (changeWeather_changes there (same ▸ seen) roll)).mono
      (fun done w₂ ends => ?_) fun _ _ _ => trivial
    obtain ⟨⟨there, _⟩, changes⟩ := ends
    cases done with
    | true => exact same ▸ changes rfl
    | false =>
      rw [if_neg Bool.false_ne_true]
      refine ((selectWeather_unsigned there _ _).and (selectWeather_selects there _ _)).mono
        (fun _ w₃ ends => ?_) fun _ _ _ => trivial
      obtain ⟨unsigned, selected⟩ := ends
      -- the report compares doubles, which is as good as equality where there are no signs
      split
      next report =>
        refine ⟨fun kind intensity => ?_, fun _ => selected⟩
        have number := seen.isFinite.isNumber
        have self := (beq_iff_place number number).2 rfl
        simp [Cycle.HasWeather, kind, intensity, self] at report
      next report =>
        obtain ⟨kind, intensity⟩ :
            (w₃.cycle id).HasWeather (w.cycle id).kind (w.cycle id).intensity := by
          simpa using report
        exact ⟨kind, unsigned.eq_of_beq seen.unsigned intensity⟩

end CycleId

/-! ### Leaving a cycle alone -/

/-- **A cycle is left alone**: it stays as it is, and whatever is sent meanwhile comes from
others. -/
structure World.Apart (id : CycleId) (w w' : World γ) : Prop where
  size : w.cycles.size ≤ w'.cycles.size
  cycle : w'.cycle id = w.cycle id
  sends : ∃ ds, w.Sends ds w' ∧ ∀ d ∈ ds, d.sender ≠ id

namespace World.Apart

variable {id : CycleId}

theorem of_scene {w w' : World γ} (scene : w'.toScene = w.toScene) (sent : w'.sent = w.sent) :
    w.Apart id w' :=
  ⟨by rw [scene], by rw [scene], [], .nothing sent, by simp⟩

theorem trans {a b c : World γ} (h : a.Apart id b) (h' : b.Apart id c) : a.Apart id c := by
  obtain ⟨ds, first, others⟩ := h.sends
  obtain ⟨es, second, others'⟩ := h'.sends
  refine ⟨h.size.trans h'.size, h'.cycle.trans h.cycle, ds ++ es, first.trans second,
    fun d mem => ?_⟩
  exact (List.mem_append.1 mem).elim (others d) (others' d)

end World.Apart

/-- The contract of leaving a cycle alone. -/
def Contract.apart (id : CycleId) : Contract γ :=
  .always (World.Apart id) (fun _ => .of_scene rfl rfl) .trans

/-- The contract of sending nothing. -/
def Contract.unsent : Contract γ :=
  .always (fun w w' => w'.sent = w.sent) (fun _ => rfl) fun h h' => h'.trans h

/-- Actors who only take note leave every cycle alone. -/
theorem Call.note_apart (id : CycleId) (call : Call) : (call.note : Sim γ Unit).Keeps (.apart id) :=
  fun _ => .of_scene rfl rfl

section Calls

variable {id : CycleId} {react : Reaction γ} (apart : react.Keeps (.apart id))
include apart

theorem Messenger.send_apart (zone : Value) (packet : Packet) :
    (Messenger.send react zone packet).Keeps (.apart id) := by
  refine .bind .get fun w => ?_
  cases w.messenger with
  | recorder reaches => exact .bind (fun _ => .of_scene rfl rfl) fun _ => .pure _
  | directory =>
    refine .bind (.ite (.pure _) (.throw fun _ => .of_scene rfl rfl)) fun _ => ?_
    exact .bind .get fun w => .bind (.forM _ fun observer _ => apart _) fun _ => .pure _

/-- **Telling a zone of its weather is sending one packet**, as far as the cycle is concerned, if
the actors leave it alone. -/
theorem CycleId.broadcast_announces (w : World γ) (trigger : Bool) :
    (id.broadcast react trigger).Ends w (fun _ w' => (w.announce id).Apart id w')
      fun _ w' => (w.announce id).Apart id w' := by
  have logged (r : Record) : (Sim.log r : Sim γ Unit).Keeps (.apart id) :=
    fun _ => .of_scene rfl rfl
  rw [broadcast, Sim.ends_bind, Sim.ends_editCycle, Sim.ends_bind, Sim.ends_cycle, Sim.ends_bind,
    Sim.ends_dispatch]
  refine Sim.Keeps.bind (c := .apart id) (Messenger.send_apart apart _ _)
    (fun told => .ite ?_ (.pure _))
    (w.announce id)
  refine .bind (logged _) fun _ => .ite (.bind (.cycle id) fun _ => ?_) (.pure _)
  exact .bind (Hooks.notifyChanged_keeps apart _ _ _) fun _ => .pure _

end Calls

/-! ### What the messenger is handed -/

/-- Is this the delivery of a packet, be it to an observer or to a messenger that takes notes? -/
def Event.isDelivery : Event → Bool
  | packet .. | handed .. => true
  | _ => false

/-- What happens when a packet is handed over, as things stood when it was sent. -/
def Dispatch.deliveries (d : Dispatch) : List Event :=
  match d.receiver with
  | .zone zone => if d.scene.canDeliver zone then d.scene.deliveries zone d.packet else []
  | .observer name => [.packet name d.packet]

/-- **Some packets are sent and handed over** on the way from one world to another, in their order,
and nothing else is delivered. -/
structure World.Delivers (w : World γ) (ds : List Dispatch) (w' : World γ) : Prop where
  sends : w.Sends ds w'
  events : ∃ es, w'.events.toList = w.events.toList ++ es ∧
    es.filter Event.isDelivery = ds.flatMap Dispatch.deliveries

theorem World.Delivers.trans {a b c : World γ} {ds es : List Dispatch} (h : a.Delivers ds b)
    (h' : b.Delivers es c) : a.Delivers (ds ++ es) c := by
  obtain ⟨first, early, deliveries⟩ := h.events
  obtain ⟨second, late, deliveries'⟩ := h'.events
  refine ⟨h.sends.trans h'.sends, first ++ second, ?_, ?_⟩
  · rw [late, early, List.append_assoc]
  · rw [List.filter_append, deliveries, deliveries', List.flatMap_append]

namespace Scene

theorem filter_deliveries (s : Scene) (zone : Value) (p : Packet) :
    (s.deliveries zone p).filter Event.isDelivery = s.deliveries zone p := by
  rw [deliveries, List.filter_eq_self]
  cases s.messenger <;> simp [Event.isDelivery]

theorem filter_changeNotices (s : Scene) (c : Cycle) :
    (s.changeNotices c).filter Event.isDelivery = [] := by
  rw [changeNotices, List.filter_eq_nil_iff]
  simp [Event.isDelivery]

theorem filter_tickNotices (s : Scene) (c : Cycle) (diff : Int) :
    (s.tickNotices c diff).filter Event.isDelivery = [] := by
  rw [tickNotices, List.filter_eq_nil_iff]
  simp [Event.isDelivery]

end Scene

theorem Event.IsRoll.not_isDelivery {e : Event} (h : e.IsRoll) : ¬e.isDelivery := by
  cases e with
  | packet | handed => exact h.elim
  | _ => exact Bool.false_ne_true

/-- **One cycle is the only one to send**, and what it sends is handed over. -/
def World.HeardOf (id : CycleId) (w w' : World γ) : Prop :=
  ∃ ds, (∀ d ∈ ds, d.sender = id) ∧ w.Delivers ds w'

namespace World.HeardOf

variable {id : CycleId}

/-- Where nothing is sent nothing needs to be delivered. -/
theorem nothing {w w' : World γ} (sent : w'.sent = w.sent) {es : List Event}
    (events : w'.events.toList = w.events.toList ++ es) (none : es.filter Event.isDelivery = []) :
    w.HeardOf id w' :=
  ⟨[], by simp, .nothing sent, es, events, none⟩

theorem refl (w : World γ) : w.HeardOf id w := nothing rfl (List.append_nil _).symm rfl

theorem trans {a b c : World γ} (h : a.HeardOf id b) (h' : b.HeardOf id c) : a.HeardOf id c := by
  obtain ⟨ds, own, first⟩ := h
  obtain ⟨es, own', second⟩ := h'
  refine ⟨ds ++ es, fun d mem => ?_, first.trans second⟩
  exact (List.mem_append.1 mem).elim (own d) (own' d)

end World.HeardOf

/-- The contract of handing over what one cycle sends, and nothing else. -/
def Contract.heardOf (id : CycleId) : Contract γ := .always (World.HeardOf id) .refl .trans

/-- **What a cycle tells its zone is handed over**, once, and nothing else is. -/
theorem CycleId.broadcast_delivers (id : CycleId) (trigger : Bool) :
    (id.broadcast Call.note trigger : Sim γ Bool).Keeps (.heardOf id) := by
  intro w
  let a := w.announce id
  let zone := (a.cycle id).zone
  let packet := (a.cycle id).packet
  let delivered := a.deliver zone packet
  have announced : w.Sends [⟨id, .zone zone, packet, a.toScene⟩] a :=
    .dispatch (w.editCycle id Cycle.clamp) id _ _
  have delivery : delivered.events.toList = w.events.toList ++ a.deliveries zone packet :=
    a.events_deliver zone packet
  have hand {w' : World γ} {es : List Event} (sent : w'.sent = a.sent)
      (events : w'.events.toList = w.events.toList ++ es)
      (all : es.filter Event.isDelivery =
        if w.canDeliver zone then a.deliveries zone packet else []) : w.HeardOf id w' := by
    refine ⟨_, fun d mem => ?_, by rwa [World.Sends, sent], es, events, all.trans ?_⟩
    · rw [List.mem_singleton.1 mem]
    · exact (List.append_nil _).symm
  rw [ends_broadcast_note]
  dsimp only
  split
  next can =>
    -- what follows on the delivery is no delivery
    have follow {w' : World γ} {es : List Event} (sent : w'.sent = delivered.sent)
        (events : w'.events.toList = delivered.events.toList ++ es)
        (none : es.filter Event.isDelivery = []) : w.HeardOf id w' := by
      refine hand (sent.trans (a.sent_deliver zone packet))
        (by rw [events, delivery, List.append_assoc]) ?_
      rw [List.filter_append, Scene.filter_deliveries, none, List.append_nil, if_pos can]
    split
    next =>
      split
      next =>
        refine follow ?_ (delivered.events_hearChange id) (Scene.filter_changeNotices _ _)
        exact World.sent_hearAll _ _
      next => exact follow rfl (delivered.events_emit _) rfl
    next => exact follow rfl (List.append_nil _).symm rfl
  next cannot => exact hand rfl (List.append_nil _).symm (if_neg cannot).symm

/-! ### All packets of a cycle -/

variable [RandomSource γ]

/-- A cycle lets time pass again and again. -/
def CycleId.updates (react : Reaction γ) (id : CycleId) (diffs : List Int) : Sim γ Unit :=
  diffs.forM fun diff => discard (id.update react diff)

/-- What a cycle sent itself, of all that was sent. -/
def CycleId.own (id : CycleId) (ds : List Dispatch) : List Dispatch := ds.filter (·.sender = id)

variable (γ) in
/-- **How a packet of a cycle follows on the last one**, if that told of an intensity at all: the
weather that was told last was rolled, the roll reported a change, and what came of it is told. The
packet is the same as the last one if and only if the change cannot be seen. -/
def CycleId.Follows (id : CycleId) (d e : Dispatch) : Prop :=
  IsNumber d.packet.intensity → ∃ v v' : World γ, id.regenerate v = .ok true v' ∧
    (d.scene.cycle id).SameWeather (v.cycle id) ∧ e.scene.cycle id = (v'.cycle id).clamp ∧
      (e.packet = d.packet ↔ (d.scene.cycle id).Hides (v'.cycle id))

namespace CycleId

/-- What a cycle sent since the world `start`. -/
structure Told (id : CycleId) (start w : World γ) (ds : List Dispatch) : Prop where
  sends : start.Sends ds w
  chain : (id.own ds).IsChain (id.Follows γ)
  proper : ∀ d ∈ id.own ds, d.receiver = .zone (start.cycle id).zone ∧
    d.packet = (d.scene.cycle id).packet

/-- **A cycle keeps to what it told last**, since the world `start`. -/
structure Telling (id : CycleId) (start w : World γ) : Prop where
  known : id.number < w.cycles.size
  chances : (w.cycle id).table.isSome
  zone : (w.cycle id).zone = (start.cycle id).zone
  record : ∃ ds, id.Told start w ds ∧ ∀ d ∈ (id.own ds).getLast?, IsNumber d.packet.intensity →
    InBroadcast (w.cycle id).intensity ∧ (d.scene.cycle id).SameWeather (w.cycle id)

variable {id : CycleId} {start w w' : World γ}

theorem Told.congr {ds : List Dispatch} (h : id.Told start w ds) (sent : w'.sent = w.sent) :
    id.Told start w' ds :=
  ⟨by rw [World.Sends, sent]; exact h.sends, h.chain, h.proper⟩

namespace Telling

/-- Whatever the others do, a cycle keeps to what it told last. -/
theorem apart (h : id.Telling start w) (apart : w.Apart id w') : id.Telling start w' := by
  obtain ⟨ds, told, last⟩ := h.record
  obtain ⟨es, more, others⟩ := apart.sends
  have same : id.own (ds ++ es) = id.own ds := by
    have none : es.filter (·.sender = id) = [] := List.filter_eq_nil_iff.2 (by simpa using others)
    rw [own, List.filter_append, none, List.append_nil, own]
  refine ⟨h.known.trans_le apart.size, apart.cycle ▸ h.chances, apart.cycle ▸ h.zone, ds ++ es, ?_⟩
  rw [same, apart.cycle]
  exact ⟨⟨told.sends.trans more, same ▸ told.chain, same ▸ told.proper⟩, last⟩

/-- A cycle keeps to what it told last as long as its weather stays the same and nothing is sent. -/
theorem same (h : id.Telling start w) (size : w'.cycles.size = w.cycles.size)
    (make : (w.cycle id).SameMake (w'.cycle id)) (sent : w'.sent = w.sent)
    (weather : InBroadcast (w.cycle id).intensity → (w.cycle id).SameWeather (w'.cycle id)) :
    id.Telling start w' := by
  obtain ⟨ds, told, last⟩ := h.record
  refine ⟨size ▸ h.known, make.table ▸ h.chances, make.zone.trans h.zone, ds, told.congr sent, ?_⟩
  intro d mem number
  obtain ⟨seen, same⟩ := last d mem number
  exact ⟨(weather seen).intensity ▸ seen, same.trans (weather seen)⟩

/-- What is changed of a cycle apart from its weather does not matter. -/
theorem edit (h : id.Telling start w) {f : Cycle → Cycle} (make : ∀ c, Cycle.SameMake c (f c))
    (weather : ∀ c, Cycle.SameWeather c (f c)) : id.Telling start (w.editCycle id f) := by
  have now := w.cycle_editCycle h.known f
  refine h.same (by simp) ?_ rfl fun _ => ?_
  · rw [now]
    exact make _
  · rw [now]
    exact weather _

/-- **A roll that reports a change is told**, and how this follows on what was told last is
known. -/
theorem announce (h : id.Telling start w) (run : id.regenerate w = .ok true w')
    (size : w'.cycles.size = w.cycles.size) (make : (w.cycle id).SameMake (w'.cycle id))
    (sent : w'.sent = w.sent) : id.Telling start (w'.announce id) := by
  have known : id.number < w'.cycles.size := size ▸ h.known
  have now := w'.cycle_editCycle known Cycle.clamp
  have zone : (w'.cycle id).zone = (start.cycle id).zone := make.zone.trans h.zone
  obtain ⟨ds, told, last⟩ := h.record
  rw [World.announce]
  generalize ready : w'.editCycle id Cycle.clamp = v at now
  let d : Dispatch := ⟨id, .zone (v.cycle id).zone, (v.cycle id).packet, v.toScene⟩
  have own : id.own (ds ++ [d]) = id.own ds ++ [d] := by simp [CycleId.own, d]
  have kept : v.sent = w.sent := by
    rw [← ready]
    exact sent
  have sends : start.Sends (ds ++ [d]) (v.dispatch id d.receiver d.packet) :=
    (told.congr kept).sends.trans (.dispatch v id d.receiver d.packet)
  have intensity : IsNumber (v.cycle id).intensity → InBroadcast (v.cycle id).intensity := by
    rw [now]
    exact fun number => inBroadcast_clampIntensity (isNumber_of_clampIntensity number)
  -- the last packet told of the weather that was rolled
  have follows : ∀ x ∈ (id.own ds).getLast?, id.Follows γ x d := by
    intro x mem number
    obtain ⟨seen, same⟩ := last x mem number
    have changes : (w.cycle id).Changes (w'.cycle id) :=
      (regenerate_reports h.known h.chances seen).of_ok run
    refine ⟨w, w', run, same, now, ?_⟩
    rw [(told.proper x (List.mem_of_getLast? mem)).2,
      ← Cycle.clamp_packet_eq_iff (same.changes changes), ← now]
  refine ⟨?_, ?_, ?_, ds ++ [d], ⟨sends, ?_, ?_⟩, ?_⟩
  · rw [← ready]
    simpa [World.dispatch] using known
  · change (v.cycle id).table.isSome
    rw [now]
    exact make.table ▸ h.chances
  · change (v.cycle id).zone = _
    rw [now]
    exact zone
  · rw [own, List.isChain_append]
    exact ⟨told.chain, List.isChain_singleton d, fun x mem y only => by
      obtain rfl : d = y := by simpa using only
      exact follows x mem⟩
  · rw [own]
    intro x mem
    rcases List.mem_append.1 mem with before | added
    · exact told.proper x before
    · obtain rfl := List.mem_singleton.1 added
      refine ⟨?_, rfl⟩
      rw [← zone]
      simp only [d, now, Cycle.zone_clamp]
  · rw [own]
    intro x mem number
    obtain rfl : d = x := by simpa using mem
    exact ⟨intensity number, .refl _⟩

end Telling

/-- Rolling the weather sends nothing. -/
theorem regenerate_sent (id : CycleId) : (id.regenerate : Sim γ Bool).Keeps .unsent := by
  have draw {α : Type} (owner : Owner) (d : EStateM Fault γ α) (event : Option α → Event) :
      (Sim.draw owner d event).Keeps .unsent := by
    intro w
    rw [Sim.ends_draw]
    split <;> cases owner <;> rfl
  have normal (mean spread : Float) : (Sim.normal mean spread : Sim γ Float).Keeps .unsent :=
    .bind .get fun _ => draw _ _ _
  refine regenerate_keeps ⟨fun _ _ _ => rfl, fun _ _ _ => .bind .get fun _ => draw _ _ _,
    HalfNormal.draw_keeps normal fun _ => rfl, fun w zone => ?_⟩
  rw [Sim.ends_dayOfYear]
  cases w.clock.dayOfYear <;> rfl

/-- **Letting time pass, a cycle hands over what it sends**, with actors who only take note. -/
theorem update_delivers (id : CycleId) (diff : Int) :
    (id.update Call.note diff : Sim γ Bool).Keeps (.heardOf id) := by
  have edited (f : Cycle → Cycle) : (Sim.editCycle id f : Sim γ Unit).Keeps (.heardOf id) :=
    fun _ => .nothing rfl (List.append_nil _).symm rfl
  have rolled : (id.regenerate : Sim γ Bool).Keeps (.heardOf id) := by
    intro w
    have silent {w' : World γ} (touched : w.Touches Event.IsRoll id w')
        (sent : w'.sent = w.sent) : w.HeardOf id w' := by
      obtain ⟨ms, adds, rolls⟩ := touched.moments
      refine .nothing sent adds.events (List.filter_eq_nil_iff.2 fun e mem => ?_)
      obtain ⟨m, among, rfl⟩ := List.mem_map.1 mem
      exact (rolls m among).not_isDelivery
    exact ((regenerate_touches id w).and (regenerate_sent id w)).mono
      (fun _ _ ends => silent ends.1 ends.2) fun _ _ ends => silent ends.1 ends.2
  have ticked : (Hooks.notifyTicked Call.note (some id) diff : Sim γ Unit).Keeps (.heardOf id) := by
    intro w
    rw [Hooks.ends_notifyTicked_note]
    exact .nothing (w.sent_hearAll _) (w.events_hearTicked id diff) (Scene.filter_tickNotices _ _ _)
  have changed : (id.changeWhenDue Call.note : Sim γ Bool).Keeps (.heardOf id) :=
    .bind (.cycle id) fun _ => .ite
      (.bind (edited _) fun _ => .bind rolled fun _ => .ite (broadcast_delivers id true) (.pure _))
      (.pure _)
  exact .bind (edited _) fun _ => .bind changed fun _ =>
    .ite (.bind ticked fun _ => .pure _) (.pure _)

variable {react : Reaction γ} (apart : react.Keeps (.apart id))
include apart

/-- Rolling the weather when the interval has elapsed, a cycle keeps to what it told last, or tells
what was rolled. -/
theorem changeWhenDue_telling (h : id.Telling start w) :
    (id.changeWhenDue react).Ends w (fun _ w' => id.Telling start w') fun _ w' =>
      ∃ ds, id.Told start w' ds := by
  have done {v : World γ} (h : id.Telling start v) : ∃ ds, id.Told start v ds :=
    h.record.imp fun _ => And.left
  rw [changeWhenDue, Sim.ends_bind, Sim.ends_cycle, Sim.ends_ite]
  split
  · have reset := h.edit (f := fun c => { c with timer := c.timer.reset })
      (fun _ => ⟨rfl, rfl, rfl⟩) fun _ => ⟨rfl, rfl⟩
    rw [Sim.ends_bind, Sim.ends_editCycle, Sim.ends_bind]
    generalize w.editCycle id (fun c => { c with timer := c.timer.reset }) = v at reset
    refine (((Sim.ends_self id.regenerate v).and (regenerate_touches id v)).and
      (regenerate_sent id v)).mono (fun changed v' ends => ?_)
        fun _ v' failed => (done reset).imp fun _ told => told.congr failed.2
    obtain ⟨⟨run, touched⟩, sent⟩ := ends
    cases changed with
    | true =>
      have announced := reset.announce run touched.size touched.make sent
      exact (broadcast_announces apart v' true).mono (fun _ _ apart => announced.apart apart)
        fun _ _ apart => done (announced.apart apart)
    | false =>
      refine reset.same touched.size touched.make sent fun seen => ?_
      exact (regenerate_reports reset.known reset.chances seen).of_ok run
  · exact h

/-- **Letting time pass, a cycle keeps to what it told last**, or tells what was rolled. -/
theorem update_telling (h : id.Telling start w) (diff : Int) :
    (id.update react diff).Ends w (fun _ w' => id.Telling start w') fun _ w' =>
      ∃ ds, id.Told start w' ds := by
  have passed := h.edit (f := fun c =>
      { c with timer := if 0 ≤ c.timer.current then c.timer.advance diff else c.timer.reset })
    (fun _ => ⟨rfl, rfl, by dsimp only; split <;> rfl⟩) fun _ => ⟨rfl, rfl⟩
  rw [update, Sim.ends_bind, passTime, Sim.ends_editCycle, Sim.ends_bind]
  refine (changeWhenDue_telling apart passed).mono (fun kept w₁ telling => ?_) fun _ _ told => told
  cases kept with
  | true =>
    rw [if_pos rfl, Sim.ends_bind]
    exact (Hooks.notifyTicked_keeps apart (some id) diff w₁).mono
      (fun _ _ apart => telling.apart apart)
      fun _ _ apart => (telling.apart apart).record.imp fun _ => And.left
  | false => exact telling

/-- Letting time pass again and again. -/
theorem updates_told (h : id.Telling start w) (diffs : List Int) :
    (id.updates react diffs).Ends w (fun _ w' => ∃ ds, id.Told start w' ds) fun _ w' =>
      ∃ ds, id.Told start w' ds := by
  rw [updates]
  induction diffs generalizing w with
  | nil => exact h.record.imp fun _ => And.left
  | cons diff rest ih =>
    rw [List.forM, Sim.ends_bind, Sim.ends_discard]
    exact (update_telling apart h diff).mono (fun _ _ telling => ih telling) fun _ _ told => told

end CycleId

/-- **Packets that say nothing new.** A cycle lets time pass again and again, and the actors leave
it alone. Then it sends all its packets to its zone, every packet tells of its weather, and every
packet but the first comes of a roll of the weather that was told last. It is the same packet once
more if and only if what the roll changed cannot be seen. If the actors only take note, these are
all packets that are sent, and all that are handed over, in this order. -/
theorem CycleId.updates_repeat {id : CycleId} {react : Reaction γ} (apart : react.Keeps (.apart id))
    (diffs : List Int) {w : World γ} (known : id.number < w.cycles.size)
    (chances : (w.cycle id).table.isSome) :
    let w' := (id.updates react diffs).worldLeft w
    ∃ ds, w.Sends ds w' ∧
      (id.own ds).IsChain (id.Follows γ) ∧
      (∀ d ∈ id.own ds, d.receiver = .zone (w.cycle id).zone ∧
        d.packet = (d.scene.cycle id).packet) ∧
      (react = Call.note → id.own ds = ds ∧ w.Delivers ds w') := by
  have begin : id.Telling w w :=
    ⟨known, chances, rfl, [], ⟨.nothing rfl, .nil, by simp [own]⟩, by simp [own]⟩
  obtain ⟨ds, sends, chain, proper⟩ := (updates_told apart begin diffs).worldLeft
  refine ⟨ds, sends, chain, proper, ?_⟩
  rintro rfl
  have handed : (id.updates Call.note diffs : Sim γ Unit).Keeps (.heardOf id) :=
    .forM _ fun diff _ => .discard (update_delivers id diff)
  obtain ⟨es, own, delivers⟩ := handed.worldLeft w
  obtain rfl : es = ds := List.append_cancel_left (delivers.sends.symm.trans sends)
  exact ⟨List.filter_eq_self.2 (by simpa using own), delivers⟩

/-! ### Fine weather that stays fine -/

namespace Showers

/-- It rains half of the time. -/
def table : SeasonTable := ⟨{ rain := 50 }, { rain := 50 }, { rain := 50 }, { rain := 50 }⟩

/-- A cycle in fine weather. A little rain will come, then it clears, and the sky stays clear. -/
def before : World Script :=
  { cycles := #[{ zone := .text "a", table := some table, timer := { interval := 10 } }]
    messenger := .recorder true
    clock := .fixed 100
    random := { integers := [40, 1, 40, 100, 40, 100], normals := [0.5] }
    engine := { tps_pos := standardTps_pos, random := {} } }

/-- The world when the interval has elapsed three times. -/
def after : World Script := (CycleId.updates Call.note ⟨0⟩ [10, 10, 10]).worldLeft before

theorem after_eq : (CycleId.updates Call.note ⟨0⟩ [10, 10, 10]).worldLeft before = after := rfl

theorem packets_after : (CycleId.own ⟨0⟩ after.sent.toList).map (·.packet) =
    [⟨.fine, 0.5 * third⟩, ⟨.fine, Cycle.minIntensity⟩, ⟨.fine, Cycle.minIntensity⟩] := by
  decide +kernel

end Showers

/-- The sky is told to be clear, stays clear, and is told to be clear once more; whatever is sent is
handed over. -/
theorem CycleId.updates_repeat_clear :
    (∀ call : Call, (call.note : Sim Script Unit).Keeps (.apart ⟨0⟩)) ∧
      0 < Showers.before.cycles.size ∧ (Showers.before.cycle ⟨0⟩).table.isSome ∧
      Showers.before.Delivers Showers.after.sent.toList Showers.after ∧
      ∃ d e : Dispatch, d ∈ own ⟨0⟩ Showers.after.sent.toList ∧
        e ∈ own ⟨0⟩ Showers.after.sent.toList ∧ e.packet = d.packet ∧
          ∃ v' : World Script, e.scene.cycle ⟨0⟩ = (v'.cycle ⟨0⟩).clamp ∧
            (d.scene.cycle ⟨0⟩).Hides (v'.cycle ⟨0⟩) := by
  have apart : ∀ call : Call, (call.note : Sim Script Unit).Keeps (.apart ⟨0⟩) :=
    Call.note_apart ⟨0⟩
  have known : 0 < Showers.before.cycles.size := by decide
  have chances : (Showers.before.cycle ⟨0⟩).table.isSome := rfl
  obtain ⟨ds, sends, chain, -, handed⟩ :=
    @updates_repeat Script _ ⟨0⟩ Call.note apart [10, 10, 10] Showers.before known chances
  obtain ⟨-, handed⟩ := handed rfl
  rw [Showers.after_eq] at sends handed
  have sent : Showers.after.sent.toList = ds := sends
  have packets := Showers.packets_after
  rw [sent] at packets ⊢
  obtain ⟨first, rest, same, -, packets⟩ := List.map_eq_cons_iff.1 packets
  obtain ⟨d, rest, rfl, told, packets⟩ := List.map_eq_cons_iff.1 packets
  obtain ⟨e, rest, rfl, again, -⟩ := List.map_eq_cons_iff.1 packets
  rw [same] at chain ⊢
  have follows : Follows Script ⟨0⟩ d e := by
    rw [List.isChain_cons_cons, List.isChain_cons_cons] at chain
    exact chain.2.1
  have number : IsNumber d.packet.intensity := by
    rw [told]
    decide
  obtain ⟨v, v', -, -, scene, repeats⟩ := follows number
  have equal : e.packet = d.packet := again.trans told.symm
  exact ⟨apart, known, chances, handed, d, e, by simp, by simp, equal, v', scene, repeats.1 equal⟩

end Microclimate
