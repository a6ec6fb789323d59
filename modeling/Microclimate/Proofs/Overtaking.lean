import Microclimate.Proofs.Followers

/-!
# Newer and older weather

Actors who are told of the weather may force other weather at once, and then everybody is told of
the newer weather **before** the older one has gone round. Those who are told after such an actor
hear of the older weather last.

Whoever is told before all actors who respond is not overtaken: the older weather reaches them
first, whatever comes of it afterwards. To whatever depth the actors call back, this is one and the
same argument. A call is noted first, and from then on all that an actor does leaves the follower
where they were, or takes them to the present weather.

* `Microclimate.Station.InTime` – a follower is told before all who respond;
* `Microclimate.Reaction.Attends` – what is supposed of the actors, with
  `Microclimate.Stage.react_attends`;
* `Microclimate.CycleId.broadcast_told` – **telling a zone takes the follower to the present
  weather**;
* `Microclimate.ManagerCommand.perform_inTime` – whoever is told in time is not overtaken;
* `Microclimate.ManagerCommand.perform_overtaken` – whoever is not can be.
-/

namespace Microclimate

variable {γ : Type}

/-! ### Being told in time -/

/-- Somebody on a list stands, in their last place, behind none but those who are quiet. -/
def InFront (quiet : ActorName → Prop) (names : List ActorName) (name : ActorName) : Prop :=
  ∃ before after, names = before ++ name :: after ∧ name ∉ after ∧ ∀ other ∈ before, quiet other

/-- **A follower is told in time**: before all who respond. A listener is told after all observers,
so none of these must respond, and one of them has to be there. -/
def Station.InTime (s : Station) (quiet : Call → Prop) : Prop :=
  match s.follower with
  | .member observer => InFront (fun other => ∀ p, quiet (.packet other p)) s.members observer
  | .listener name =>
    s.members ≠ [] ∧ (∀ other ∈ s.members, ∀ p, quiet (.packet other p)) ∧
      InFront (fun other => ∀ id state x, quiet (.changed other id state x)) s.listeners name

/-- Actors do nothing on a call, in whatever world. -/
def Behaviour.Quiet (behaviour : Behaviour γ) (call : Call) : Prop := ∀ w, behaviour call w = []

/-- **Actors respond by forcing some weather only**, in any zones, as often as they like, and pass
over nobody who has to learn of it. -/
def Behaviour.Overrides (behaviour : Behaviour γ) (f : Follower) : Prop :=
  ∀ call w, ∀ action ∈ behaviour call w, ∃ zone kind x trigger,
    action.command = .manager (.setWeather zone kind x trigger) ∧ f.Asks trigger

/-- **Actors attend to a station**: once a call is noted, nothing that they do leaves the follower
behind; and on some calls they do nothing. -/
structure Reaction.Attends (react : Reaction γ) (s : Station) (quiet : Call → Prop) : Prop where
  follows : ∀ {w : World γ} {call : Call}, w.Airs s →
    (react call).Ends w (fun _ w' => (w.hear call).Follows w' s) fun _ _ => True
  calm : ∀ {w : World γ} {call : Call}, quiet call →
    (react call).Ends w (fun _ w' => w' = w.hear call) fun _ _ => True

/-! ### What is not learned -/

/-- A follower does not learn from an update. -/
theorem Follower.learns?_ticked (f : Follower) (zone : Value) (w : World γ) (listener : ActorName)
    (id : Option CycleId) (diff : Int) :
    f.learns? zone ((Call.ticked listener id diff).event w) = none := by
  cases f <;> rfl

/-- What a follower learns from a packet is that packet. -/
theorem Follower.eq_of_learns?_packet {f : Follower} {zone : Value} {w : World γ}
    {other : ActorName} {p q : Packet}
    (h : f.learns? zone ((Call.packet other q).event w) = some p) : p = q := by
  cases f with
  | member observer =>
    obtain ⟨-, rfl⟩ : other = observer ∧ q = p := by simpa [Call.event, learns?] using h
    rfl
  | listener name => cases h

section Deaf

variable {s : Station} {w : World γ} {id : CycleId}

/-- A follower does not learn from a change of the weather in another zone. -/
theorem World.Elsewhere.learns?_changed (h : w.Elsewhere s id) (listener : ActorName)
    (state : WeatherState) (x : Float) :
    s.follower.learns? s.zone ((Call.changed listener (some id) state x).event w) = none := by
  cases s.follower with
  | member observer => rfl
  | listener name =>
    have elsewhere : ((w.zoneOf (some id)).sameKey s.zone) = false := h.zone
    simp [Call.event, Follower.learns?, elsewhere]

/-- A follower who is told in time does not learn from what is told to those in another zone. -/
theorem Station.InTime.learns?_packet {quiet : Call → Prop} (h : s.InTime quiet) (airs : w.Airs s)
    {zone : Value} (elsewhere : zone.sameKey s.zone = false) {other : ActorName}
    (there : other ∈ w.directory.observers zone) (p : Packet) (w' : World γ) :
    s.follower.learns? s.zone ((Call.packet other p).event w') = none := by
  rw [InTime] at h
  cases follower : s.follower with
  | listener name => rfl
  | member observer =>
    rw [follower] at h
    obtain ⟨before, after, members, -⟩ := h
    have here : observer ∈ s.directory.observers s.zone := by
      rw [← Station.members, members]
      simp
    refine if_neg ?_
    rintro rfl
    rw [airs.directory] at there
    rw [airs.tidy.sameKey_of_mem there here] at elsewhere
    cases elsewhere

end Deaf

/-! ### Calling actors -/

section Calls

variable {s : Station} {quiet : Call → Prop} {react : Reaction γ} (r : react.Attends s quiet)
include r

/-- Nobody is left behind by calls from which they learn nothing. -/
theorem Reaction.Attends.forM_deaf {α : Type} {w : World γ} (l : List α) (call : α → Call)
    (airs : w.Airs s)
    (deaf : ∀ a ∈ l, ∀ w' : World γ, Scene.Grows w.toScene w'.toScene →
      s.follower.learns? s.zone ((call a).event w') = none) :
    (l.forM fun a => react (call a)).Follows s w := by
  induction l generalizing w with
  | nil => exact .refl airs
  | cons a rest ih =>
    have heard := World.Follows.hear airs (call a) (by simp [deaf a (by simp) w (.refl _)])
    refine Sim.Follows.bind ((r.follows airs).mono (fun _ _ => heard.trans) fun _ _ _ => trivial)
      fun _ w' after => ?_
    exact ih after.airs fun b mem w'' grows => deaf b (by simp [mem]) w'' (after.grows.trans grows)

/-- **Calls in which the follower is told of the present weather** take them to it, if none but
quiet actors are called before, whatever the others make of it. -/
theorem Reaction.Attends.forM_told {α : Type} {w : World γ} {before after : List α} {a : α}
    (call : α → Call) (airs : w.Airs s) (calm : ∀ b ∈ before, quiet (call b))
    (learns : ∀ w' : World γ, w'.toScene = w.toScene →
      s.follower.learns? s.zone ((call a).event w') = some (w.cycle s.id).packet)
    (deaf : ∀ b ∈ after, ∀ w' : World γ, Scene.Grows w.toScene w'.toScene →
      s.follower.learns? s.zone ((call b).event w') = none) :
    ((before ++ a :: after).forM fun a => react (call a)).Ends w
      (fun _ w' => w.Follows w' s ∧ w'.Abreast s) fun _ _ => True := by
  induction before generalizing w with
  | nil =>
    have told := World.abreast_hear (learns w rfl)
    have heard : w.Follows (w.hear (call a)) s := ⟨airs.of_scene rfl, .refl _, .inr told⟩
    rw [List.nil_append, List.forM_eq_forM, List.forM_cons, Sim.ends_bind]
    refine (r.follows airs).mono (fun _ w' follows => ?_) fun _ _ _ => trivial
    have now := heard.trans follows
    refine (r.forM_deaf after call now.airs fun b mem w'' grows => ?_).mono
      (fun _ w'' rest => ?_) fun _ _ _ => trivial
    · exact deaf b mem w'' (now.grows.trans grows)
    · exact ⟨now.trans rest, rest.abreast (follows.abreast told)⟩
  | cons b rest ih =>
    rw [List.cons_append, List.forM_eq_forM, List.forM_cons, Sim.ends_bind]
    refine (r.calm (calm b (by simp))).mono (fun _ w' same => ?_) fun _ _ _ => trivial
    subst same
    have told := ih (w := w.hear (call b)) (airs.of_scene rfl) (fun c mem => calm c (by simp [mem]))
      learns deaf
    exact told.mono (fun _ w'' h => ⟨⟨h.1.airs, h.1.grows, .inr h.2⟩, h.2⟩) fun _ _ _ => trivial

/-- Calls on which actors do nothing are only noted. -/
theorem Reaction.Attends.forM_calm {α : Type} {w : World γ} (l : List α) (call : α → Call)
    (calm : ∀ a ∈ l, quiet (call a)) :
    (l.forM fun a => react (call a)).Ends w (fun _ w' => w' = w.hearAll (l.map call))
      fun _ _ => True := by
  induction l generalizing w with
  | nil => rfl
  | cons a rest ih =>
    rw [List.forM_eq_forM, List.forM_cons, Sim.ends_bind]
    refine (r.calm (calm a (by simp))).mono (fun _ w' same => ?_) fun _ _ _ => trivial
    subst same
    exact ih fun b mem => calm b (by simp [mem])

theorem Hooks.notifyTicked_follows {w : World γ} (airs : w.Airs s) (id : Option CycleId)
    (diff : Int) : (Hooks.notifyTicked react id diff).Follows s w :=
  r.forM_deaf w.hooks.ticked (.ticked · id diff) airs fun _ _ _ _ => Follower.learns?_ticked ..

/-- Listeners are told of a change in another zone. -/
theorem Hooks.notifyChanged_elsewhere {w : World γ} (airs : w.Airs s) {id : CycleId}
    (elsewhere : w.Elsewhere s id) (state : WeatherState) (x : Float) :
    (Hooks.notifyChanged react (some id) state x).Follows s w :=
  r.forM_deaf w.hooks.changed (.changed · (some id) state x) airs fun listener _ _ grows =>
    (elsewhere.grows grows).learns?_changed listener state x

/-- Listeners are told of a change, and the follower is none of them. -/
theorem Hooks.notifyChanged_member {w : World γ} (airs : w.Airs s) {observer : ActorName}
    (follower : s.follower = .member observer) (id : Option CycleId) (state : WeatherState)
    (x : Float) : (Hooks.notifyChanged react id state x).Follows s w :=
  r.forM_deaf w.hooks.changed (.changed · id state x) airs fun _ _ _ _ => by rw [follower]; rfl

/-- The observers of the zone receive its weather, among them the follower. -/
theorem Station.tell_member {w : World γ} (airs : w.Airs s) {observer : ActorName}
    (follower : s.follower = .member observer)
    (front : InFront (fun other => ∀ p, quiet (.packet other p)) s.members observer) :
    (s.members.forM fun other => react (.packet other (w.cycle s.id).packet)).Ends w
      (fun _ w' => w.Follows w' s ∧ w'.Abreast s) fun _ _ => True := by
  obtain ⟨before, after, split, last, calm⟩ := front
  rw [split]
  refine r.forM_told (.packet · (w.cycle s.id).packet) airs (fun b mem => calm b mem _)
    (fun w' _ => ?_) fun b mem w' _ => ?_
  · simp [Call.event, Follower.learns?, follower]
  · have other : b ≠ observer := fun same => last (same ▸ mem)
    simp [Call.event, Follower.learns?, follower, other]

/-- The listeners are told of the present weather, among them the follower. -/
theorem Hooks.notifyChanged_listener {w : World γ} (airs : w.Airs s) {name : ActorName}
    (follower : s.follower = .listener name)
    (front : InFront (fun other => ∀ id state x, quiet (.changed other id state x)) s.listeners
      name) :
    (Hooks.notifyChanged react (some s.id) (w.cycle s.id).state (w.cycle s.id).intensity).Ends w
      (fun _ w' => w.Follows w' s ∧ w'.Abreast s) fun _ _ => True := by
  obtain ⟨before, after, split, last, calm⟩ := front
  rw [Hooks.notifyChanged, Sim.ends_bind, Sim.ends_get, airs.listeners, split]
  refine r.forM_told (.changed · (some s.id) (w.cycle s.id).state (w.cycle s.id).intensity) airs
    (fun b mem => calm b mem _ _ _) (fun w' scene => ?_) fun b mem w' _ => ?_
  · have place : (w'.cycle s.id).zone.sameKey s.zone = true := (airs.of_scene scene).madeFor.place
    simp [Call.event, Follower.learns?, follower, Scene.zoneOf, place, Cycle.packet]
  · have other : b ≠ name := fun same => last (same ▸ mem)
    simp [Call.event, Follower.learns?, follower, other]

/-! ### Telling a zone of its weather -/

section Broadcasts

variable (early : s.InTime quiet)
include early

namespace CycleId

/-- **Telling a zone takes the follower to the present weather**, whatever happened to the cycle
before and whatever the actors make of it. -/
theorem broadcast_told {kind : Event → Prop} {w w₁ : World γ} (airs : w.Airs s)
    (touched : w.Touches kind s.id w₁) {trigger : Bool} (asked : s.follower.Asks trigger) :
    (s.id.broadcast react trigger).Ends w₁
      (fun told w' => told = true ∧ w.Follows w' s ∧ w'.Abreast s) fun _ _ => True := by
  have known : s.id.number < w₁.cycles.size := touched.size.symm ▸ airs.madeFor.known
  have clamped : (w₁.announce s.id).cycle s.id = (w₁.cycle s.id).clamp :=
    w₁.cycle_editCycle known Cycle.clamp
  have all : w.Touches (fun _ => True) s.id (w₁.announce s.id) :=
    (touched.mono fun _ _ => trivial).trans (w₁.touches_announce s.id)
  have now : (w₁.announce s.id).Airs s :=
    airs.touched all fun _ => clamped ▸ unsigned_clampIntensity _
  have grows : Scene.Grows w.toScene (w₁.announce s.id).toScene := all.grows
  have members : w₁.directory.observers ((w₁.announce s.id).cycle s.id).zone = s.members :=
    now.observers
  rw [ends_broadcast (touched.messenger.trans airs.messenger)]
  dsimp only
  rw [members]
  generalize w₁.announce s.id = u at now grows
  split
  case isFalse => trivial
  have finish {w' : World γ} (h : u.Follows w' s) (abreast : w'.Abreast s) :
      true = true ∧ w.Follows w' s ∧ w'.Abreast s :=
    ⟨rfl, ⟨h.airs, grows.trans h.grows, .inr abreast⟩, abreast⟩
  rw [Station.InTime] at early
  cases follower : s.follower with
  | member observer =>
    rw [follower] at early
    have someone : s.members ≠ [] := by
      obtain ⟨before, after, split, -⟩ := early
      simp [split]
    refine (Station.tell_member r now follower early).mono (fun _ v ends => ?_)
      fun _ _ _ => trivial
    obtain ⟨told, abreast⟩ := ends
    have logged := World.Follows.log told.airs (.changed (u.cycle s.id).zone (u.cycle s.id).state)
    rw [if_neg (by simpa using someone)]
    split
    · refine (Hooks.notifyChanged_member r logged.airs follower _ _ _).mono (fun _ w' heard => ?_)
        fun _ _ _ => trivial
      exact finish (told.trans (logged.trans heard)) (heard.abreast (logged.abreast abreast))
    · exact finish (told.trans logged) (logged.abreast abreast)
  | listener name =>
    rw [follower] at early asked
    obtain ⟨someone, quiet, front⟩ := early
    -- nobody responds to a packet, so the listeners are told of the weather that was sent
    refine (r.forM_calm _ _ fun m mem => quiet m mem _).mono (fun _ v heard => ?_)
      fun _ _ _ => trivial
    have scene : v.toScene = u.toScene := heard ▸ u.toScene_hearAll _
    have after : (v.emit (.logged (.changed (u.cycle s.id).zone (u.cycle s.id).state))).Airs s :=
      now.of_scene scene
    have told := Hooks.notifyChanged_listener r after follower front
    have asked : trigger = true := asked
    rw [if_neg (by simpa using someone), if_pos asked]
    rw [World.toScene_emit, scene] at told
    rw [scene]
    refine told.mono (fun _ w' ends => ?_) fun _ _ _ => trivial
    obtain ⟨told, abreast⟩ := ends
    exact finish ⟨told.airs, by rw [← scene]; exact told.grows, .inr abreast⟩ abreast

/-- **Telling another zone** leaves the follower where they were, or at the present weather. -/
theorem broadcast_elsewhere {w : World γ} (airs : w.Airs s) {id : CycleId}
    (elsewhere : w.Elsewhere s id) (trigger : Bool) : (id.broadcast react trigger).Follows s w := by
  have ne := elsewhere.ne airs
  have announced : w.Follows (w.announce id) s :=
    .touched airs (w.touches_announce id) (fun _ => False.elim) (absurd · ne) (absurd · ne)
  have there := elsewhere.grows announced.grows
  rw [Sim.Follows, ends_broadcast airs.messenger]
  dsimp only
  split
  case isFalse => trivial
  have told := r.forM_deaf (w.directory.observers ((w.announce id).cycle id).zone)
    (.packet · ((w.announce id).cycle id).packet) announced.airs fun m mem w' _ =>
      early.learns?_packet airs there.zone mem _ w'
  refine (told.after announced).mono (fun _ u told => ?_) fun _ _ _ => trivial
  split
  · exact told
  · have logged := told.trans (.log told.airs (.changed ((w.announce id).cycle id).zone
      ((w.announce id).cycle id).state))
    split
    · exact Sim.Follows.after logged
        (Hooks.notifyChanged_elsewhere r logged.airs (elsewhere.grows logged.grows) _ _)
    · exact logged

/-- Forcing some weather takes the follower to it, unless it is the present weather anyway. -/
theorem setWeather_told {w : World γ} (airs : w.Airs s) (kind : WeatherKind) (x : Float)
    {trigger : Bool} (asked : s.follower.Asks trigger) :
    (s.id.setWeather react kind x trigger).Follows s w := by
  rw [Sim.Follows, setWeather, Sim.ends_bind, Sim.ends_cycle, Sim.ends_ite]
  split
  · exact .refl airs
  · have touched : w.Touches (fun _ => False) s.id (w.editCycle s.id (·.withWeather kind x)) :=
      .editCycle w s.id fun _ => ⟨rfl, rfl, rfl⟩
    rw [Sim.ends_bind, Sim.ends_editCycle, Sim.ends_discard]
    exact (broadcast_told r early airs touched asked).mono (fun _ _ h => h.2.1) fun _ _ h => h

theorem setWeather_elsewhere {w : World γ} (airs : w.Airs s) {id : CycleId}
    (elsewhere : w.Elsewhere s id) (kind : WeatherKind) (x : Float) (trigger : Bool) :
    (id.setWeather react kind x trigger).Follows s w := by
  rw [Sim.Follows, setWeather, Sim.ends_bind, Sim.ends_cycle, Sim.ends_ite]
  split
  · exact .refl airs
  · have ne := elsewhere.ne airs
    have edited : w.Follows (w.editCycle id (·.withWeather kind x)) s :=
      .touched airs (.editCycle w id fun _ => ⟨rfl, rfl, rfl⟩) (fun _ => False.elim) (absurd · ne)
        (absurd · ne)
    rw [Sim.ends_bind, Sim.ends_editCycle, Sim.ends_discard]
    exact Sim.Follows.after edited
      (broadcast_elsewhere r early edited.airs (elsewhere.grows edited.grows) trigger)

/-! ### Letting time pass -/

variable [RandomSource γ]

/-- Letting time pass for the weather of the station; its cycle is kept, for somebody is told. -/
theorem update_told {w : World γ} (airs : w.Airs s) (diff : Int) :
    (s.id.update react diff).Ends w (fun kept w' => kept = true ∧ w.Follows w' s)
      fun _ _ => True := by
  have ticked {v : World γ} (h : w.Follows v s) :
      (Hooks.notifyTicked react (some s.id) diff).Ends v
        (fun _ w' => true = true ∧ w.Follows w' s) fun _ _ => True :=
    ((Hooks.notifyTicked_follows r h.airs _ diff).after h).mono (fun _ _ h => ⟨rfl, h⟩)
      fun _ _ h => h
  have made := airs.madeFor
  rw [ends_update made.known]
  dsimp only
  split
  · have ripe : w.Touches Event.IsRoll s.id (w.ripe s.id diff) := w.touches_ripe s.id diff
    have now := World.cycle_ripe made.known diff
    have settled := regenerate_settles (ripe.size.symm ▸ made.known)
      (by rw [now]; exact made.table ▸ made.chances) (by rw [now]; exact airs.unsigned)
    have rolled := (s.id.regenerate_touches (w.ripe s.id diff)).and settled
    rw [now] at rolled
    refine rolled.mono (fun changed w₁ ends => ?_) fun _ _ _ => trivial
    obtain ⟨rolled, packet, unsigned⟩ := ends
    have first := ripe.trans rolled
    cases changed with
    | false =>
      exact ticked (.touched airs first (fun _ => Event.IsRoll.untold)
        (fun _ => unsigned (.inl rfl)) fun _ => packet rfl)
    | true =>
      refine (broadcast_told r early airs first s.follower.asks_true).mono
        (fun told w₂ ends => ?_) fun _ _ _ => trivial
      obtain ⟨reached, follows, _⟩ := ends
      rw [reached]
      exact ticked follows
  · have now : (w.passTime s.id diff).cycle s.id =
        { w.cycle s.id with timer := (w.cycle s.id).timer.pass diff } :=
      w.cycle_editCycle made.known _
    exact ticked (.touched airs (w.touches_passTime s.id diff) (fun _ => False.elim)
      (fun _ => by rw [now]; exact airs.unsigned) fun _ => by rw [now]; rfl)

/-- Letting time pass in another zone. -/
theorem update_elsewhere {w : World γ} (airs : w.Airs s) {id : CycleId}
    (elsewhere : w.Elsewhere s id) (diff : Int) : (id.update react diff).Follows s w := by
  have ne := elsewhere.ne airs
  have ticked {v : World γ} (h : w.Follows v s) :
      (Hooks.notifyTicked react (some id) diff).Ends v (fun _ w' => w.Follows w' s)
        fun _ _ => True :=
    (Hooks.notifyTicked_follows r h.airs _ diff).after h
  rw [Sim.Follows, ends_update elsewhere.known]
  dsimp only
  split
  · refine (id.regenerate_touches (w.ripe id diff)).mono (fun changed w₁ rolled => ?_)
      fun _ _ _ => trivial
    have first : w.Follows w₁ s :=
      .touched airs ((w.touches_ripe id diff).trans rolled) (fun _ => Event.IsRoll.untold)
        (absurd · ne) (absurd · ne)
    cases changed with
    | false => exact ticked first
    | true =>
      have told := broadcast_elsewhere r early first.airs (elsewhere.grows first.grows) true
      refine (told.after first).mono (fun told w₂ follows => ?_) fun _ _ _ => trivial
      cases told with
      | true => exact ticked follows
      | false => exact follows
  · exact ticked (.touched airs (w.touches_passTime id diff) (fun _ => False.elim) (absurd · ne)
      (absurd · ne))

end CycleId

/-! ### Operations of the manager -/

namespace Manager

variable [RandomSource γ]

omit r early in
/-- Starting the weather of another zone. -/
theorem add_follows {w : World γ} (airs : w.Airs s) {zone : Value}
    (elsewhere : zone.sameKey s.zone = false) :
    (add zone).Ends w (fun found w' => w.Follows w' s ∧ ∀ id, found = some id → w'.Elsewhere s id)
      fun _ _ => True := by
  rw [ends_add]
  split
  case isFalse => trivial
  cases chances : w.manager.chances? zone with
  | none => exact ⟨.refl airs, nofun⟩
  | some table =>
    have started := World.Follows.start airs elsewhere chances
    have new : (w.start zone table).Elsewhere s ⟨w.cycles.size⟩ :=
      ⟨by simp [World.start], by rw [World.cycle_start_self]; exact elsewhere⟩
    have ne := new.ne started.airs
    refine (CycleId.regenerate_touches ⟨w.cycles.size⟩ (w.start zone table)).mono
      (fun _ w' rolled => ?_) fun _ _ _ => trivial
    have after := started.trans (.touched started.airs rolled (fun _ => Event.IsRoll.untold)
      (absurd · ne) (absurd · ne))
    refine ⟨after, fun id same => ?_⟩
    obtain rfl := Option.some.inj same
    exact new.grows rolled.grows

omit r early in
/-- Asking for the weather of a zone leaves the follower where they were, for another cycle may be
started only in another zone. -/
theorem getOrCreate_follows {w : World γ} (airs : w.Airs s) (zone : Value) :
    (getOrCreate zone).Ends w
      (fun found w' => w.Follows w' s ∧ (zone.sameKey s.zone = true → found = some s.id) ∧
        (zone.sameKey s.zone = false → ∀ id, found = some id → w'.Elsewhere s id))
      fun _ _ => True := by
  rw [ends_getOrCreate]
  split
  case isFalse => trivial
  cases found : w.manager.find? zone with
  | some id =>
    refine ⟨.refl airs, fun same => found.symm.trans (airs.find? same), fun other id' same => ?_⟩
    exact airs.elsewhere (found.trans same) other
  | none =>
    have other : zone.sameKey s.zone = false := by
      refine Bool.eq_false_iff.2 fun same => ?_
      rw [airs.find? same] at found
      cases found
    refine (add_follows airs other).mono (fun found w' ends => ?_) fun _ _ h => h
    obtain ⟨follows, new⟩ := ends
    exact ⟨follows, by simp [other], fun _ => new⟩

omit [RandomSource γ] r early in
/-- Stopping the weather of another zone. -/
theorem remove_follows {w : World γ} (airs : w.Airs s) {zone : Value}
    (elsewhere : zone.sameKey s.zone = false) : (remove zone).Follows s w := by
  rw [Sim.Follows, remove, Sim.ends_bind, Sim.ends_get, Sim.ends_ite]
  split
  · exact .refl airs
  · rw [Sim.ends_bind, Sim.ends_requireKey]
    split
    · exact .erased airs elsewhere fun _ => rfl
    · trivial

/-- **Forcing the weather of any zone** leaves the follower where they were, or at the present
weather. -/
theorem setZoneWeather_follows {w : World γ} (airs : w.Airs s) (zone : Value) (kind : WeatherKind)
    (x : Float) {trigger : Bool} (asked : s.follower.Asks trigger) :
    (setZoneWeather react zone kind x trigger).Follows s w := by
  rw [Sim.Follows, setZoneWeather, Sim.ends_bind]
  refine (getOrCreate_follows airs zone).mono (fun found w₁ ends => ?_)
    fun _ _ h => h
  obtain ⟨follows, here, elsewhere⟩ := ends
  cases found with
  | none => exact follows
  | some id =>
    rw [Sim.ends_bind]
    refine Sim.Follows.after follows ?_
    cases same : zone.sameKey s.zone with
    | true =>
      obtain rfl := Option.some.inj (here same)
      exact CycleId.setWeather_told r early follows.airs kind x asked
    | false =>
      exact CycleId.setWeather_elsewhere r early follows.airs (elsewhere same id rfl) kind x trigger

/-- **Letting time pass for cycles one after the other**, those of other zones among them. -/
theorem updateEach_follows (diff : Int) (cycles : List (Value × CycleId)) {w : World γ}
    (airs : w.Airs s)
    (each : ∀ e ∈ cycles, e.2 = s.id ∨ w.Elsewhere s e.2 ∧ e.1.sameKey s.zone = false) :
    (updateEach react diff cycles).Follows s w := by
  induction cycles generalizing w with
  | nil => exact .refl airs
  | cons e rest ih =>
    have later {w₁ : World γ} (h : w.Follows w₁ s) :
        (updateEach react diff rest).Ends w₁ (fun _ w' => w.Follows w' s) fun _ _ => True := by
      refine Sim.Follows.after h (ih h.airs fun e mem => ?_)
      exact (each e (by simp [mem])).imp_right fun other => ⟨other.1.grows h.grows, other.2⟩
    rw [Sim.Follows, ends_updateEach_cons]
    rcases each e (by simp) with same | ⟨elsewhere, apart⟩
    · rw [same]
      refine (CycleId.update_told r early airs diff).mono (fun kept w₁ ends => ?_)
        fun _ _ h => h
      obtain ⟨keeps, follows⟩ := ends
      rw [if_pos keeps]
      exact later follows
    · refine (CycleId.update_elsewhere r early airs elsewhere diff).mono (fun kept w₁ follows => ?_)
        fun _ _ h => h
      split
      · exact later follows
      · split
        · have logged := follows.trans (.log follows.airs (.removing e.1))
          exact later (logged.trans (.erased logged.airs apart fun _ => rfl))
        · trivial

theorem update_follows (diff : Int) {w : World γ} (airs : w.Airs s) :
    (update react diff).Follows s w := by
  rw [Sim.Follows, update, Sim.ends_bind, Sim.ends_get]
  refine updateEach_follows r early diff _ airs fun e running => ?_
  obtain ⟨zone, id⟩ := e
  have found := airs.registered.find?_of_mem running
  cases same : zone.sameKey s.zone with
  | true => exact .inl (Option.some.inj (found.symm.trans (airs.find? same)))
  | false => exact .inr ⟨airs.elsewhere found same, rfl⟩

/-- Telling an observer of the weather of the zone where they are. -/
theorem observerEntered_follows {w : World γ} (airs : w.Airs s) {observer : ActorName}
    {zone : Value} (there : observer ∈ w.directory.observers zone) :
    (observerEntered react observer zone).Follows s w := by
  rw [Sim.Follows, observerEntered, Sim.ends_bind]
  refine (getOrCreate_follows airs zone).mono (fun found w₁ ends => ?_)
    fun _ _ h => h
  obtain ⟨follows, here, elsewhere⟩ := ends
  have there : observer ∈ w₁.directory.observers zone := by
    rwa [follows.airs.directory, ← airs.directory]
  cases same : zone.sameKey s.zone with
  | false =>
    -- somebody who is in another zone is not the one who follows the weather of this one
    have call (v : World γ) (h : w.Follows v s) (p : Packet) :
        (react (.packet observer p)).Ends v (fun _ w' => w.Follows w' s) fun _ _ => True := by
      have deaf := early.learns?_packet follows.airs same there p v
      have heard := h.trans (.hear h.airs (.packet observer p) (by simp [deaf]))
      exact (r.follows h.airs).mono (fun _ _ => heard.trans) fun _ _ h => h
    cases found with
    | none => exact call w₁ follows .fine
    | some id =>
      exact call (w₁.dispatch id (.observer observer) (w₁.cycle id).packet)
        (follows.trans (.of_scene follows.airs rfl rfl)) _
  | true =>
    rw [here same]
    have sent : w.Follows (w₁.dispatch s.id (.observer observer) (w₁.cycle s.id).packet) s :=
      follows.trans (.of_scene follows.airs rfl rfl)
    have heard := sent.trans (.hear sent.airs (.packet observer (w₁.cycle s.id).packet)
      fun _ => Follower.eq_of_learns?_packet)
    exact (r.follows sent.airs).mono (fun _ _ => heard.trans) fun _ _ h => h

end Manager

end Broadcasts

end Calls

/-! ### Actors who force weather -/

section Actors

variable [RandomSource γ] {s : Station}

/-- Forcing some weather, if its time has come. -/
theorem Action.take_follows {quiet : Call → Prop} {react : Reaction γ} (r : react.Attends s quiet)
    (early : s.InTime quiet) (stage : Stage) (inTick : Bool) {w : World γ} (airs : w.Airs s)
    {action : Action γ} {zone : Value} {kind : WeatherKind} {x : Float} {trigger : Bool}
    (forces : action.command = .manager (.setWeather zone kind x trigger))
    (asked : s.follower.Asks trigger) : (action.take stage react inTick).Follows s w := by
  have required (part : Part) {v : World γ} (airs : v.Airs s) :
      (stage.require part : Sim γ Unit).Follows s v := by
    rw [Stage.require]
    split
    · trivial
    · exact .refl airs
  have due : (action.isDue stage).Follows s w := by
    rw [Action.isDue]
    cases action.tick with
    | none => exact .refl airs
    | some n => exact (required _ airs).bind fun _ _ h => .refl h.airs
  refine due.bind fun taken w' h => ?_
  cases taken with
  | false => exact .refl h.airs
  | true =>
    rw [if_pos rfl, Sim.Follows, Sim.ends_discard, forces]
    refine Sim.Follows.bind (required _ h.airs) fun _ w'' h => ?_
    exact (Manager.setZoneWeather_follows r early h.airs zone kind x asked).bind
      fun _ _ h => .refl h.airs

/-- **Actors who force some weather only attend to a station** in which the follower is told in
time, to whatever depth they call each other. -/
theorem Stage.react_attends (stage : Stage) {behaviour : Behaviour γ}
    (early : s.InTime behaviour.Quiet) (overrides : behaviour.Overrides s.follower) (depth : Nat) :
    (stage.react behaviour depth).Attends s behaviour.Quiet := by
  induction depth with
  | zero => exact ⟨fun _ => trivial, fun _ => trivial⟩
  | succ depth ih =>
    refine ⟨fun {w call} airs => ?_, fun {w call} quiet => ?_⟩
    · refine Sim.Follows.of_keeps (w := w.hear call) (.forM _ fun action mem => ?_)
        (airs.of_scene rfl)
      obtain ⟨zone, kind, x, trigger, forces, asked⟩ := overrides _ _ action mem
      exact Sim.Follows.keeps fun v airs =>
        Action.take_follows ih early stage call.isTick airs forces asked
    · rw [Stage.react, Sim.ends_bind, Sim.ends_note, Sim.ends_bind, Sim.ends_get, quiet]
      rfl

end Actors

/-! ### Operations from outside -/

/-- **What may be asked of the manager** while somebody follows the weather of a zone: anything but
starting that weather anew or stopping it. Whoever follows it must not be passed over, and observers
are told of the weather of the zone where they are. -/
def ManagerCommand.Attended (s : Station) : ManagerCommand → Prop
  | add zone | remove zone => zone.sameKey s.zone = false
  | observerEntered observer zone => observer ∈ s.directory.observers zone
  | setWeather _ _ _ trigger => s.follower.Asks trigger
  | _ => True

section Operations

variable [RandomSource γ] {s : Station}

/-- **Every operation leaves the follower where they were, or at the present weather**, if the
actors attend to the station. -/
theorem ManagerCommand.perform_follows {quiet : Call → Prop} {react : Reaction γ}
    (r : react.Attends s quiet) (early : s.InTime quiet) {w : World γ} (airs : w.Airs s)
    {command : ManagerCommand} (attended : command.Attended s) :
    (command.perform react).Follows s w := by
  have shown {x : Sim γ (Option CycleId)} (hx : x.Follows s w) :
      (do CycleId.show (← x) : Sim γ Reply).Follows s w := by
    refine Sim.Follows.bind hx fun found w' h => ?_
    cases found <;> exact .refl h.airs
  have key (zone : Value) : (Sim.requireKey zone).Follows s w := by
    rw [Sim.Follows, Sim.ends_requireKey]
    split
    · exact .refl airs
    · trivial
  cases command with
  | chances zone =>
    exact .bind (.bind (key zone) fun _ _ h => .refl h.airs) fun _ _ h => .refl h.airs
  | find zone => exact shown (Sim.Follows.bind (key zone) fun _ _ h => .refl h.airs)
  | add zone =>
    exact shown ((Manager.add_follows airs attended).mono (fun _ _ h => h.1) fun _ _ h => h)
  | getOrCreate zone =>
    exact shown ((Manager.getOrCreate_follows airs zone).mono (fun _ _ h => h.1) fun _ _ h => h)
  | remove zone => exact (Manager.remove_follows airs attended).bind fun _ _ h => .refl h.airs
  | update diff => exact (Manager.update_follows r early diff airs).bind fun _ _ h => .refl h.airs
  | observerEntered observer zone =>
    rw [Attended, ← airs.directory] at attended
    exact (Manager.observerEntered_follows r early airs attended).bind fun _ _ h => .refl h.airs
  | setWeather zone kind x trigger =>
    exact (Manager.setZoneWeather_follows r early airs zone kind x attended).bind
      fun _ _ h => .refl h.airs
  | config => exact .refl airs

/-- **Whoever is told in time is not overtaken.** Actors may answer to any call by forcing some
weather, and so may those who are called then, to any depth. When an operation returns, the same
cycle runs in the zone and the surroundings are as before; and a follower who was told before all
who respond has learned last how the weather is now, unless nothing has come of the operation for
them. -/
theorem ManagerCommand.perform_inTime (stage : Stage) (depth : Nat) {behaviour : Behaviour γ}
    {w w' : World γ} (airs : w.Airs s) (early : s.InTime behaviour.Quiet)
    (overrides : behaviour.Overrides s.follower) {command : ManagerCommand}
    (attended : command.Attended s) {reply : Reply}
    (run : command.perform (stage.react behaviour depth) w = .ok reply w') :
    w'.Airs s ∧ (w'.Abreast s ∨ w.Still w' s) := by
  have attends := stage.react_attends early overrides depth
  have follows : w.Follows w' s := (perform_follows attends early airs attended).of_ok run
  exact ⟨follows.airs, follows.serves.symm⟩

/-- **Whoever is abreast of the weather stays so** through any operations, one after the other, if
they are told in time. -/
theorem ManagerCommand.performAll_abreast (stage : Stage) (depth : Nat) {behaviour : Behaviour γ}
    {w w' : World γ} (airs : w.Airs s) (early : s.InTime behaviour.Quiet)
    (overrides : behaviour.Overrides s.follower) {commands : List ManagerCommand}
    (attended : ∀ command ∈ commands, command.Attended s) (before : w.Abreast s)
    (run : (commands.forM fun command =>
      discard (command.perform (stage.react behaviour depth))) w = .ok () w') :
    w'.Abreast s := by
  have attends := stage.react_attends early overrides depth
  have keeps : (commands.forM fun command =>
      discard (command.perform (stage.react behaviour depth))).Keeps (.following s) :=
    .forM _ fun command mem => .discard <| Sim.Follows.keeps fun v airs =>
      perform_follows attends early airs (attended command mem)
  exact ((Sim.Follows.of_keeps keeps airs).of_ok run).abreast before

end Operations

/-! ### Three observers in one zone -/

namespace TwoZones

/-- The observer who came first. -/
def near : ActorName := "near"

/-- The observer who came after that. -/
def middle : ActorName := "middle"

/-- The observer who came last. -/
def far : ActorName := "far"

/-- The observer in the middle answers heavy rain by asking for some that is less heavy. -/
def lightening : Behaviour Script := fun call _ =>
  match call with
  | .packet name ⟨⟨5⟩, _⟩ =>
    if name = middle then [{ command := .manager (.setWeather (.text "a") .rain 0.5 true) }] else []
  | _ => []

/-- Three observers come into the first zone. -/
def gather : Sim Script Unit :=
  Request.answerAll {} (Stage.react {} .recording 1)
    [.arrive near (.text "a"), .arrive middle (.text "a"), .arrive far (.text "a")]

/-- The three observers are there, in fine weather. -/
def crowd : World Script := gather.worldLeft (idle { integers := [0] })

/-- Heavy rain is asked for. -/
def pour : Sim Script Reply :=
  (ManagerCommand.setWeather (.text "a") .rain 0.9 true).perform (Stage.react {} lightening 3)

/-- The world after that. -/
def lightened : World Script := pour.worldLeft crowd

/-- The weather of the first zone, with somebody who follows it. -/
def followed (f : Follower) : Station := crowd.station (.text "a") ⟨0⟩ f

theorem informs_crowd : crowd.Informs fun _ => False := by
  have start : (idle { integers := [0] } : World Script).Informs fun _ => False :=
    .begin rfl rfl rfl
  have returns : gather.returns (idle { integers := [0] }) = true := by decide +kernel
  obtain ⟨_, run⟩ := Sim.ok_of_returns returns
  exact Request.informs_of_answerAll {} 0 start run

theorem airs_crowd (f : Follower) : crowd.Airs (followed f) := by
  have found : crowd.manager.find? (.text "a") = some ⟨0⟩ := by decide +kernel
  exact informs_crowd.airs found f

theorem members_crowd : crowd.directory.observers (.text "a") = [near, middle, far] := by
  decide +kernel

theorem members_followed (f : Follower) : (followed f).members = [near, middle, far] := by
  rw [Station.members, followed, World.station, members_crowd]

theorem run_pour : ∃ reply, pour crowd = .ok reply lightened := by
  have returns : pour.returns crowd = true := by decide +kernel
  exact Sim.ok_of_returns returns

theorem overrides_lightening (f : Follower) : lightening.Overrides f := by
  intro call w action mem
  unfold lightening at mem
  split at mem
  · split at mem
    · obtain rfl := List.mem_singleton.1 mem
      exact ⟨_, _, _, _, rfl, f.asks_true⟩
    · cases mem
  · cases mem

theorem quiet_near (p : Packet) : lightening.Quiet (.packet near p) := by
  intro w
  unfold lightening
  split
  next name x same =>
    obtain ⟨rfl, -⟩ := Call.packet.inj same
    exact if_neg (by decide)
  · rfl

theorem packet_crowd : (crowd.cycle ⟨0⟩).packet = ⟨⟨0⟩, 0.0⟩ := by decide +kernel

theorem packet_lightened : (lightened.cycle ⟨0⟩).packet = ⟨⟨4⟩, 0.5⟩ := by decide +kernel

theorem received_far : (lightened.received far).getLast? = some ⟨⟨5⟩, 0.9⟩ := by decide +kernel

end TwoZones

/-- The observer in the middle is told before all who respond but themself, and has received the
lighter rain last. -/
theorem ManagerCommand.perform_inTime_middle :
    let s := TwoZones.followed (.member TwoZones.middle)
    TwoZones.crowd.Airs s ∧ s.InTime TwoZones.lightening.Quiet ∧
      TwoZones.lightening.Overrides s.follower ∧
      (∃ reply, TwoZones.pour TwoZones.crowd = .ok reply TwoZones.lightened) ∧
        (TwoZones.lightened.received TwoZones.middle).getLast? = some ⟨⟨4⟩, 0.5⟩ := by
  intro s
  have airs : TwoZones.crowd.Airs s := TwoZones.airs_crowd _
  have early : s.InTime TwoZones.lightening.Quiet := by
    refine ⟨[TwoZones.near], [TwoZones.far], TwoZones.members_followed _, by decide,
      fun other mem p => ?_⟩
    obtain rfl := List.mem_singleton.1 mem
    exact TwoZones.quiet_near p
  have overrides : TwoZones.lightening.Overrides s.follower := TwoZones.overrides_lightening _
  obtain ⟨reply, run⟩ := TwoZones.run_pour
  have attended : (ManagerCommand.setWeather (.text "a") .rain 0.9 true).Attended s := trivial
  obtain ⟨-, abreast | still⟩ := perform_inTime {} 3 airs early overrides attended run
  · have last : (TwoZones.lightened.received TwoZones.middle).getLast? =
        some (TwoZones.lightened.cycle ⟨0⟩).packet := by
      rw [← World.learned_member _ (.text "a")]
      exact abreast
    exact ⟨airs, early, overrides, ⟨reply, run⟩, TwoZones.packet_lightened ▸ last⟩
  · have same : (TwoZones.lightened.cycle ⟨0⟩).packet = (TwoZones.crowd.cycle ⟨0⟩).packet :=
      still.packet
    rw [TwoZones.packet_crowd, TwoZones.packet_lightened] at same
    cases same

/-- **Whoever is told after somebody who responds can be overtaken**: the last of the three
observers has received the heavy rain last, while the rain has become lighter. -/
theorem ManagerCommand.perform_overtaken :
    let s := TwoZones.followed (.member TwoZones.far)
    TwoZones.crowd.Airs s ∧ TwoZones.far ∈ s.members ∧ TwoZones.lightening.Overrides s.follower ∧
      (∃ reply, (ManagerCommand.setWeather (.text "a") .rain 0.9 true).perform
        (Stage.react {} TwoZones.lightening 3) TwoZones.crowd = .ok reply TwoZones.lightened) ∧
      TwoZones.lightened.manager.find? s.zone = some s.id ∧
      (TwoZones.lightened.received TwoZones.far).getLast? = some ⟨⟨5⟩, 0.9⟩ ∧
      (TwoZones.lightened.cycle s.id).packet = ⟨⟨4⟩, 0.5⟩ := by
  intro s
  have here : TwoZones.far ∈ s.members := by
    have members : s.members = _ := TwoZones.members_followed _
    rw [members]
    decide
  have running : TwoZones.lightened.manager.find? s.zone = some s.id := by decide +kernel
  exact ⟨TwoZones.airs_crowd _, here, TwoZones.overrides_lightening _, TwoZones.run_pour, running,
    TwoZones.received_far, TwoZones.packet_lightened⟩

end Microclimate
