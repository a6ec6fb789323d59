import Microclimate.Proofs.Informed

/-!
# Followers of the weather

A zone is told of its weather packet by packet, and listeners are told notification by notification.
Somebody who follows the weather in one of these ways keeps up with it as long as nothing changes
behind their back: what they learned last is the present weather.

This file says what a follower learns, what the surroundings of the weather have to be like, and
what it means that a follower is not left behind. Everything that does not concern the weather that
is followed leaves the follower as they were.

* `Microclimate.Follower`, `Microclimate.World.learned` – followers and what they have learned;
* `Microclimate.Station`, `Microclimate.World.Airs` – the weather of a zone with somebody who
  follows it;
* `Microclimate.World.Follows` – **a follower is not left behind** from one world to the next;
* `Microclimate.Contract.following` – the contract of that.
-/

namespace Microclimate

variable {γ : Type}

/-! ### What a follower learns -/

/-- Somebody who follows the weather of a zone. -/
inductive Follower where
  /-- An observer in the zone, who goes by the packets. -/
  | member (observer : ActorName)
  /-- A listener, who goes by the notifications of changes. -/
  | listener (name : ActorName)

namespace Follower

/-- What a follower of a zone learns from an event: a state and an intensity. -/
def learns? (zone : Value) : Follower → Event → Option Packet
  | member observer, .packet name p => if name = observer then some p else none
  | listener l, .changed name z state intensity =>
    if name = l ∧ z.sameKey zone = true then some ⟨state, intensity⟩ else none
  | _, _ => none

/-- How weather has to be forced for a follower to learn of it: listeners must not be passed over.
-/
def Asks : Follower → Bool → Prop
  | member _, _ => True
  | listener _, trigger => trigger = true

theorem asks_true (f : Follower) : f.Asks true := by
  cases f with
  | member observer => trivial
  | listener name => rfl

end Follower

/-- An event from which no follower of any weather learns. -/
def Event.Untold (e : Event) : Prop := ∀ (zone : Value) (f : Follower), f.learns? zone e = none

theorem Event.untold_logged (r : Record) : (logged r).Untold := by
  rintro zone (observer | name) <;> rfl

theorem Event.IsRoll.untold {e : Event} (h : e.IsRoll) : e.Untold := by
  cases e with
  | packet name p => exact h.elim
  | changed name zone state intensity => exact h.elim
  | _ => rintro zone (observer | name) <;> rfl

/-- What a follower of a zone has learned, oldest first. -/
def World.learned (w : World γ) (zone : Value) (f : Follower) : List Packet :=
  w.history.toList.filterMap (f.learns? zone ·.event)

/-- What an observer in a zone learns are the packets that they receive. -/
theorem World.learned_member (w : World γ) (zone : Value) (observer : ActorName) :
    w.learned zone (.member observer) = w.received observer := by
  rw [learned, received]
  congr 1
  funext m
  cases m.event <;> rfl

theorem World.Adds.learned {w w' : World γ} {ms : List Moment} (h : w.Adds ms w') (zone : Value)
    (f : Follower) :
    w'.learned zone f = w.learned zone f ++ ms.filterMap (f.learns? zone ·.event) := by
  rw [World.learned, h, List.filterMap_append]
  rfl

theorem World.Adds.learned_of_untold {w w' : World γ} {ms : List Moment} (h : w.Adds ms w')
    (untold : ∀ m ∈ ms, m.event.Untold) (zone : Value) (f : Follower) :
    w'.learned zone f = w.learned zone f := by
  rw [h.learned, List.filterMap_eq_nil_iff.2 fun m mem => untold m mem zone f, List.append_nil]

/-- Nothing is learned from the log. -/
theorem World.learned_log (w : World γ) (r : Record) (zone : Value) (f : Follower) :
    (w.emit (.logged r)).learned zone f = w.learned zone f := by
  refine World.Adds.learned_of_untold (.emit w (.logged r)) (fun m mem => ?_) zone f
  obtain rfl := List.mem_singleton.1 mem
  exact Event.untold_logged r

/-- What is learned by hearing a call. -/
theorem World.learned_hear (w : World γ) (call : Call) (zone : Value) (f : Follower) :
    (w.hear call).learned zone f =
      w.learned zone f ++ (f.learns? zone (call.event w)).toList := by
  have adds : w.Adds _ (w.hear call) := w.adds_hearAll [call]
  rw [adds.learned]
  cases h : f.learns? zone (call.event w) <;> simp [h]

/-! ### Stations -/

/-- **The weather of a zone with somebody who follows it**: the cycle, who is where, who listens to
changes, and the follower. -/
structure Station where
  /-- The zone. -/
  zone : Value
  /-- The cycle that runs in the zone. -/
  id : CycleId
  /-- Who is where. -/
  directory : Directory
  /-- Who listens to changes. -/
  listeners : List ActorName
  /-- Who follows the weather of the zone. -/
  follower : Follower

/-- The weather of a zone in some world, with somebody who follows it. -/
def World.station (w : World γ) (zone : Value) (id : CycleId) (f : Follower) : Station :=
  ⟨zone, id, w.directory, w.hooks.changed, f⟩

/-- The observers in the zone. -/
def Station.members (s : Station) : List ActorName := s.directory.observers s.zone

/-- **The surroundings are those of a station**: packets go through the directory, everybody is
where the station has them, and its cycle runs in its zone, at an intensity without a sign. -/
structure World.Airs (w : World γ) (s : Station) : Prop where
  registered : w.Registered
  messenger : w.messenger = .directory
  tidy : s.directory.Tidy
  directory : w.directory = s.directory
  listeners : w.hooks.changed = s.listeners
  running : w.manager.find? s.zone = some s.id
  unsigned : Unsigned (w.cycle s.id).intensity

/-- A cycle belongs to another zone than that of a station. -/
structure World.Elsewhere (w : World γ) (s : Station) (id : CycleId) : Prop where
  known : id.number < w.cycles.size
  zone : (w.cycle id).zone.sameKey s.zone = false

namespace World.Airs

variable {w w' : World γ} {s : Station}

theorem of_scene (h : w.Airs s) (scene : w'.toScene = w.toScene) : w'.Airs s := by
  obtain ⟨registered, messenger, tidy, directory, listeners, running, unsigned⟩ := h
  rw [← scene] at registered messenger directory listeners running unsigned
  exact ⟨registered, messenger, tidy, directory, listeners, running, unsigned⟩

theorem madeFor (h : w.Airs s) : w.MadeFor s.zone s.id := h.registered.madeFor h.running

/-- The observers in the zone are those that the cycle tells. -/
theorem observers (h : w.Airs s) : w.directory.observers (w.cycle s.id).zone = s.members := by
  rw [Directory.observers_congr _ h.madeFor.place, h.directory, Station.members]

/-- While one cycle changes, the surroundings stay. -/
theorem touched {kind : Event → Prop} {id : CycleId} (h : w.Airs s) (touched : w.Touches kind id w')
    (unsigned : id = s.id → Unsigned (w'.cycle s.id).intensity) : w'.Airs s where
  registered := touched.registered h.registered
  messenger := touched.messenger.trans h.messenger
  tidy := h.tidy
  directory := touched.directory.trans h.directory
  listeners := by rw [touched.scene]; exact h.listeners
  running := by rw [touched.manager]; exact h.running
  unsigned := by
    by_cases same : id = s.id
    · exact unsigned same
    · rw [touched.others (Ne.symm same)]
      exact h.unsigned

/-- **What runs in another zone** belongs there. -/
theorem elsewhere (h : w.Airs s) {zone : Value} {id : CycleId}
    (found : w.manager.find? zone = some id) (other : zone.sameKey s.zone = false) :
    w.Elsewhere s id where
  known := (h.registered.madeFor found).known
  zone := by
    rw [Table.sameKey_congr (h.registered.madeFor found).place]
    exact other

/-- The weather of the zone of the station is running, by whatever name the zone is asked for. -/
theorem find? (h : w.Airs s) {zone : Value} (same : zone.sameKey s.zone = true) :
    w.manager.find? zone = some s.id :=
  (w.manager.live.find?_congr same).trans h.running

end World.Airs

/-- Where everybody is informed, but for some, the surroundings of running weather are as they
should be. -/
theorem World.Informs.airs {w : World γ} {late : ActorName → Prop} (h : w.Informs late)
    {zone : Value} {id : CycleId} (found : w.manager.find? zone = some id) (f : Follower) :
    w.Airs (w.station zone id f) where
  registered := h.registered
  messenger := h.directory
  tidy := h.tidy
  directory := rfl
  listeners := rfl
  running := found
  unsigned := by
    obtain ⟨k, entered, -⟩ := Table.mem_of_find? found
    exact h.unsigned entered

namespace World.Elsewhere

variable {w w' : World γ} {s : Station} {id : CycleId}

theorem ne (h : w.Elsewhere s id) (airs : w.Airs s) : id ≠ s.id := by
  rintro rfl
  exact absurd airs.madeFor.place (Bool.eq_false_iff.1 h.zone)

theorem grows (h : w.Elsewhere s id) (grows : Scene.Grows w.toScene w'.toScene) :
    w'.Elsewhere s id where
  known := h.known.trans_le grows.size
  zone := by
    rw [(grows.make h.known).zone]
    exact h.zone

end World.Elsewhere

/-! ### Keeping up -/

/-- A follower is abreast of the weather: what they learned last is how it is now. -/
def World.Abreast (w : World γ) (s : Station) : Prop :=
  (w.learned s.zone s.follower).getLast? = some (w.cycle s.id).packet

/-- Whoever is told of the present weather is abreast of it. -/
theorem World.abreast_hear {w : World γ} {s : Station} {call : Call}
    (told : s.follower.learns? s.zone (call.event w) = some (w.cycle s.id).packet) :
    (w.hear call).Abreast s := by
  rw [Abreast, w.learned_hear, told, Option.toList_some, List.getLast?_concat]
  rfl

/-- Nothing has come of it for a follower: they learned nothing, and the weather is the same. -/
structure World.Still (w w' : World γ) (s : Station) : Prop where
  learned : w'.learned s.zone s.follower = w.learned s.zone s.follower
  packet : (w'.cycle s.id).packet = (w.cycle s.id).packet

/-- **A follower is not left behind**: the surroundings are still those of the station, and either
nothing has come of it for the follower, or they are abreast of the weather. -/
structure World.Follows (w w' : World γ) (s : Station) : Prop where
  airs : w'.Airs s
  grows : Scene.Grows w.toScene w'.toScene
  serves : w.Still w' s ∨ w'.Abreast s

namespace World.Follows

variable {a b c w w' : World γ} {s : Station}

/-- Whoever is abreast of the weather stays so. -/
theorem abreast (h : a.Follows b s) (before : a.Abreast s) : b.Abreast s := by
  rcases h.serves with still | abreast
  · rw [Abreast, still.learned, still.packet]
    exact before
  · exact abreast

theorem trans (h : a.Follows b s) (h' : b.Follows c s) : a.Follows c s where
  airs := h'.airs
  grows := h.grows.trans h'.grows
  serves := by
    rcases h.serves with still | abreast
    · refine h'.serves.imp_left fun still' => ?_
      exact ⟨still'.learned.trans still.learned, still'.packet.trans still.packet⟩
    · exact .inr (h'.abreast abreast)

/-- Nobody is left behind while the scene stays and the follower learns nothing. -/
theorem of_scene (airs : w.Airs s) (scene : w'.toScene = w.toScene)
    (learned : w'.learned s.zone s.follower = w.learned s.zone s.follower) : w.Follows w' s where
  airs := airs.of_scene scene
  grows := scene ▸ .refl _
  serves := .inl ⟨learned, by rw [scene]⟩

theorem refl (airs : w.Airs s) : w.Follows w s := .of_scene airs rfl rfl

/-- Nobody is left behind while a cycle changes in a way that is not to be seen, or another cycle
changes, and nobody is told of anything. -/
theorem touched {kind : Event → Prop} {id : CycleId} (airs : w.Airs s)
    (touched : w.Touches kind id w') (untold : ∀ e, kind e → e.Untold)
    (unsigned : id = s.id → Unsigned (w'.cycle s.id).intensity)
    (packet : id = s.id → (w'.cycle s.id).packet = (w.cycle s.id).packet) : w.Follows w' s where
  airs := airs.touched touched unsigned
  grows := touched.grows
  serves := by
    obtain ⟨ms, adds, all⟩ := touched.moments
    refine .inl ⟨adds.learned_of_untold (fun m mem => untold _ (all m mem)) _ _, ?_⟩
    by_cases same : id = s.id
    · exact packet same
    · rw [touched.others (Ne.symm same)]

theorem log (airs : w.Airs s) (r : Record) : w.Follows (w.emit (.logged r)) s :=
  .of_scene airs rfl (w.learned_log r _ _)

/-- Nobody is left behind by a call from which they can only learn of the present weather. -/
theorem hear (airs : w.Airs s) (call : Call)
    (learns : ∀ p, s.follower.learns? s.zone (call.event w) = some p → p = (w.cycle s.id).packet) :
    w.Follows (w.hear call) s := by
  cases told : s.follower.learns? s.zone (call.event w) with
  | none =>
    refine .of_scene airs rfl ?_
    rw [w.learned_hear, told]
    exact List.append_nil _
  | some p =>
    exact ⟨airs.of_scene rfl, .refl _, .inr (World.abreast_hear (learns p told ▸ told))⟩

/-- **Starting the weather of another zone** leaves nobody behind. -/
theorem start (airs : w.Airs s) {zone : Value} {table : SeasonTable}
    (elsewhere : zone.sameKey s.zone = false) (chances : w.manager.chances? zone = some table) :
    w.Follows (w.start zone table) s := by
  have cycle : (w.start zone table).cycle s.id = w.cycle s.id :=
    World.cycle_start_of_known airs.madeFor.known
  refine ⟨⟨(World.Proceeds.of_start chances airs.registered).1, airs.messenger, airs.tidy,
    airs.directory, airs.listeners, ?_, cycle ▸ airs.unsigned⟩, w.grows_start,
    .inl ⟨?_, by rw [cycle]⟩⟩
  · rw [← airs.running]
    exact (w.manager.live.find?_insert zone _ s.zone).trans (if_neg (by simp [elsewhere]))
  · exact World.learned_log { w with cycles := w.cycles.push _ } _ _ _

/-- **Stopping or dropping the weather of another zone** leaves nobody behind. -/
theorem erased (airs : w.Airs s) {zone : Value} (elsewhere : zone.sameKey s.zone = false) {d : Deed}
    (erases : ∀ live : Table CycleId, d.apply live = live.erase zone) :
    w.Follows (w.carryOut d) s := by
  have grows : Scene.Grows w.toScene (w.carryOut d).toScene := .of_cycles rfl rfl rfl
  refine ⟨⟨airs.registered.erase grows (erases _), airs.messenger, airs.tidy, airs.directory,
    airs.listeners, ?_, airs.unsigned⟩, grows, .inl ⟨rfl, rfl⟩⟩
  rw [← airs.running]
  exact (congrArg (·.find? s.zone) (erases _)).trans (w.manager.live.find?_erase_of_ne elsewhere)

end World.Follows

/-- **The contract of leaving no follower behind**, as long as the surroundings are those of the
station. Nothing is asked of a change that fails. -/
def Contract.following (s : Station) : Contract γ where
  good w w' := w.Airs s → w.Follows w' s
  bad _ _ _ := True
  refl _ := .refl
  trans h h' airs := (h airs).trans (h' (h airs).airs)
  bad_trans _ _ := trivial

/-- A change that returns leaves no follower behind. -/
def Sim.Follows {α : Type} (x : Sim γ α) (s : Station) (w : World γ) : Prop :=
  x.Ends w (fun _ w' => w.Follows w' s) fun _ _ => True

namespace Sim.Follows

variable {α β : Type} {s : Station} {w w' : World γ}

theorem keeps {x : Sim γ α} (h : ∀ w, w.Airs s → x.Follows s w) : x.Keeps (.following s) := by
  intro w
  by_cases airs : w.Airs s
  · exact (h w airs).mono (fun _ _ follows _ => follows) fun _ _ _ => trivial
  · exact (ends_self x w).mono (fun _ _ _ h => absurd h airs) fun _ _ _ => trivial

theorem of_keeps {x : Sim γ α} (h : x.Keeps (.following s)) (airs : w.Airs s) : x.Follows s w :=
  (h w).mono (fun _ _ follows => follows airs) fun _ _ _ => trivial

/-- A follower who was not left behind before is not left behind altogether. -/
theorem after {x : Sim γ α} (h : w.Follows w' s) (hx : x.Follows s w') :
    x.Ends w' (fun _ w'' => w.Follows w'' s) fun _ _ => True :=
  hx.mono (fun _ _ => h.trans) fun _ _ _ => trivial

theorem bind {x : Sim γ α} {f : α → Sim γ β} (hx : x.Follows s w)
    (hf : ∀ a w', w.Follows w' s → (f a).Follows s w') : (x >>= f).Follows s w := by
  rw [Follows, ends_bind]
  exact hx.mono (fun a w' h => (hf a w' h).after h) fun _ _ _ => trivial

end Sim.Follows

end Microclimate
