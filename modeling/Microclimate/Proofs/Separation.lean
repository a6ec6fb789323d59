import Microclimate.Proofs.Pass

/-!
# Zones do not interfere

What is asked of the manager for one zone stays within that zone: in every other zone the same cycle
runs as before and is as it was, everybody stays where they are, and nobody outside the zone
receives anything, unless the request is about them. That is so whether the request returns or
fails.

The same is true of the turns of an update. Each of them stays within the zone of its cycle, and
leaves the register alone altogether.

How far a request or a turn may reach is a scope, and it is shown step by step that what is done
remains within it. The source that all zones share is in every scope.

* `Microclimate.Scope` – how far something may reach, with `Scope.request` and `Scope.turn`;
* `Microclimate.World.Within` – **what is done remains within a scope**;
* `Microclimate.CycleId.update_within`, `Microclimate.Pass.within` – so do turns;
* `Microclimate.World.SparesOthers` – nothing that is of other zones is touched;
* `Microclimate.Manager.zones_apart` – the law, for requests and for updates.
-/

namespace Microclimate

variable {γ : Type}

/-! ### Entries of other keys -/

namespace Table

variable {α : Type}

/-- The entries of all keys but those of some kind. -/
def entriesBut (t : Table α) (p : Value → Bool) : List (Value × α) := t.entries.filter (!p ·.1)

/-- What is not the same key as one that is the same as `z` is not the same as `z`. -/
theorem sameKey_eq_false_of_ne {y z k : Value} (apart : y.sameKey z = false)
    (same : k.sameKey z = true) : y.sameKey k = false := by
  rw [sameKey_comm, sameKey_congr same, sameKey_comm, apart]

/-- A look-up depends on the entries of those keys only that are the same as the one looked up. -/
theorem find?_eq_of_entriesBut {t t' : Table α} {y z : Value}
    (h : t'.entriesBut y.sameKey = t.entriesBut y.sameKey) (apart : y.sameKey z = false) :
    t'.find? z = t.find? z := by
  have others (t : Table α) :
      t.find? z = ((t.entriesBut y.sameKey).find? (·.1.sameKey z)).map (·.2) := by
    rw [find?, entriesBut, List.find?_filter]
    congr 2
    funext e
    cases same : e.1.sameKey z with
    | false => simp
    | true => simp [sameKey_eq_false_of_ne apart same]
  rw [others, h, ← others]

/-- Writing under a key leaves the entries of other keys alone. -/
theorem entriesBut_insert (t : Table α) {z : Value} (self : z.sameKey z = true) (a : α) :
    (t.insert z a).entriesBut z.sameKey = t.entriesBut z.sameKey := by
  obtain ⟨entries⟩ := t
  simp only [entriesBut, insert, insertBy]
  rcases put_eq z a entries with ⟨-, written⟩ | ⟨before, k, b, after, rfl, same, written⟩
  · simp [written, self]
  · simp [written, sameKey_comm z k, same]

/-- Taking out a key leaves the entries of other keys alone. -/
theorem entriesBut_erase (t : Table α) (z : Value) :
    (t.erase z).entriesBut z.sameKey = t.entriesBut z.sameKey := by
  obtain ⟨entries⟩ := t
  simp only [entriesBut, erase]
  induction entries with
  | nil => rfl
  | cons e rest ih =>
    cases same : e.1.sameKey z with
    | true => simp [same, sameKey_comm z]
    | false => simpa [same, sameKey_comm z] using ih

end Table

/-! ### Scopes -/

/-- **How far something may reach.** -/
structure Scope where
  /-- The zones where weather may be started and stopped. -/
  zones : Value → Bool
  /-- The cycles that may be changed. -/
  cycles : CycleId → Prop
  /-- The observers who may receive a packet. -/
  observers : ActorName → Prop

/-- The scope of a request for a zone: what runs there, cycles that are new, those who are in the
zone, and whoever is to be told of it. -/
def Scope.request (w : World γ) (zone : Value) (addressee : Option ActorName) : Scope where
  zones := zone.sameKey
  cycles id := w.manager.find? zone = some id ∨ w.cycles.size ≤ id.number
  observers name := name ∈ w.directory.observers zone ∨ addressee = some name

/-- The scope of the turn of a cycle: that cycle, and those who are in its zone. -/
def Scope.turn (d : Directory) (zone : Value) (id : CycleId) : Scope where
  zones _ := false
  cycles other := other = id
  observers name := name ∈ d.observers zone

/-- A call tells nobody of the weather who is not in a scope. -/
def Call.StaysWithin (s : Scope) : Call → Prop
  | packet name _ => s.observers name
  | _ => True

/-- **What is done remains within a scope.** -/
structure World.Within (s : Scope) (w w' : World γ) : Prop where
  /-- Nothing changes but the cycles, the register, the source, and what is noted of all that
  happens. So everybody stays where they are. -/
  around : w' = { w with
    cycles := w'.cycles
    manager := { w.manager with live := w'.manager.live }
    random := w'.random
    engine := { w.engine with random := w'.engine.random }
    calls := w'.calls
    history := w'.history
    ledger := w'.ledger
    sent := w'.sent }
  /-- Other zones have the entries that they had, in the same order. -/
  entries : w'.manager.live.entriesBut s.zones = w.manager.live.entriesBut s.zones
  /-- Other cycles are as they were. -/
  cycle : ∀ id, ¬s.cycles id → w'.cycle id = w.cycle id
  /-- Others receive nothing. -/
  received : ∀ name, ¬s.observers name → w'.received name = w.received name

namespace World.Within

variable {s : Scope}

theorem refl (w : World γ) : w.Within s w := ⟨rfl, rfl, fun _ _ => rfl, fun _ _ => rfl⟩

theorem trans {a b c : World γ} (h : a.Within s b) (h' : b.Within s c) : a.Within s c where
  around := by
    have first := h.around
    have second := h'.around
    rw [first] at second
    exact second
  entries := h'.entries.trans h.entries
  cycle id out := (h'.cycle id out).trans (h.cycle id out)
  received name out := (h'.received name out).trans (h.received name out)

theorem directory {w w' : World γ} (h : w.Within s w') : w'.directory = w.directory := by
  rw [h.around]

theorem messenger {w w' : World γ} (h : w.Within s w') : w'.messenger = w.messenger := by
  rw [h.around]

/-- What happens and is not received by anybody remains within every scope. -/
theorem emit (w : World γ) {e : Event} (unheard : e.Unheard) : w.Within s (w.emit e) where
  around := rfl
  entries := rfl
  cycle _ _ := rfl
  received name _ := by
    rw [(Adds.emit w e).received]
    simp [unheard name]

theorem dispatch (w : World γ) (id : CycleId) (receiver : Receiver) (packet : Packet) :
    w.Within s (w.dispatch id receiver packet) :=
  ⟨rfl, rfl, fun _ _ => rfl, fun _ _ => rfl⟩

theorem editCycle (w : World γ) {id : CycleId} (mem : s.cycles id) (f : Cycle → Cycle) :
    w.Within s (w.editCycle id f) where
  around := rfl
  entries := rfl
  cycle other out := by
    refine w.cycle_editCycle_of_ne ?_ f
    rintro rfl
    exact out mem
  received _ _ := rfl

theorem setSource (w : World γ) (owner : Owner) (g : γ) : w.Within s (w.setSource owner g) := by
  cases owner <;> exact ⟨rfl, rfl, fun _ _ => rfl, fun _ _ => rfl⟩

theorem hear (w : World γ) {call : Call} (h : call.StaysWithin s) : w.Within s (w.hear call) where
  around := rfl
  entries := rfl
  cycle _ _ := rfl
  received name out := by
    have unheard : (call.event w).packetFor? name = none := by
      cases call with
      | packet other p =>
        refine if_neg ?_
        rintro rfl
        exact out h
      | _ => rfl
    change (w.emit (call.event w)).received name = _
    rw [(Adds.emit w (call.event w)).received]
    simp [unheard]

theorem hearAll (w : World γ) {calls : List Call} (h : ∀ call ∈ calls, call.StaysWithin s) :
    w.Within s (w.hearAll calls) := by
  induction calls generalizing w with
  | nil => exact .refl w
  | cons call rest ih =>
    exact (hear w (h call List.mem_cons_self)).trans
      (ih _ fun call mem => h call (List.mem_cons_of_mem _ mem))

theorem hearTicked (w : World γ) (id : CycleId) (diff : Int) :
    w.Within s (w.hearTicked id diff) := by
  refine hearAll w fun call mem => ?_
  obtain ⟨name, -, rfl⟩ := List.mem_map.1 mem
  trivial

/-- The weather of a zone that has chances is started within the scope of a request for it. -/
theorem started {w : World γ} {zone : Value} {table : SeasonTable}
    (chances : w.manager.chances? zone = some table) (addressee : Option ActorName) :
    w.Within (.request w zone addressee) (w.start zone table) where
  around := rfl
  entries := Table.entriesBut_insert _ (Table.sameKey_self_of_find? chances) _
  cycle id out := w.cycle_start_of_known (Nat.lt_of_not_le fun new => out (.inr new))
  received name _ := by
    rw [(w.adds_start zone table).received]
    simp [Event.packetFor?]

end World.Within

/-! ### Other zones -/

/-- **Nothing that is of other zones is touched** by what is done for one of them: where weather is
running the same cycle is running, and it is as it was; where none is running there is none;
everybody is where they were; and nobody outside the zone receives anything, but for the addressee.
-/
structure World.SparesOthers (zone : Value) (addressee : Option ActorName) (w w' : World γ) :
    Prop where
  found : ∀ other, zone.sameKey other = false → w'.manager.find? other = w.manager.find? other
  cycle : ∀ other id, zone.sameKey other = false → w.manager.find? other = some id →
    w'.cycle id = w.cycle id
  directory : w'.directory = w.directory
  received : ∀ name, name ∉ w.directory.observers zone → addressee ≠ some name →
    w'.received name = w.received name

/-- What is done within the scope of a request for a zone spares all other zones, for no cycle is
running in two zones. -/
theorem World.Within.sparesOthers {w w' : World γ} (h : w.Registered) {zone : Value}
    {addressee : Option ActorName} (within : w.Within (.request w zone addressee) w') :
    w.SparesOthers zone addressee w' where
  found other apart := Table.find?_eq_of_entriesBut within.entries apart
  cycle other id apart running := by
    refine within.cycle id ?_
    rintro (same | new)
    · have here := (h.madeFor same).place
      have there := (h.madeFor running).place
      rw [Table.sameKey_congr here] at there
      simp [apart] at there
    · exact absurd (h.madeFor running).known (Nat.not_lt.2 new)
  directory := within.directory
  received name out unaddressed := within.received name (not_or.2 ⟨out, unaddressed⟩)

/-! ### Telling of the weather of a cycle -/

namespace CycleId

variable {s : Scope} {id : CycleId} {w : World γ}

/-- Telling the zone of a cycle of its weather remains within a scope that has the members of the
zone in it. -/
theorem broadcast_within (mem : s.cycles id) (directory : w.messenger = .directory)
    (members : ∀ name ∈ w.directory.observers (w.cycle id).zone, s.observers name)
    (trigger : Bool) :
    (id.broadcast Call.note trigger).Ends w (fun _ w' => w.Within s w')
      fun _ w' => w.Within s w' := by
  have touched : w.Touches Event.Silent id (w.announce id) := w.touches_announce id
  have place : ((w.announce id).cycle id).zone = (w.cycle id).zone := touched.make.zone
  have announced : w.Within s (w.announce id) :=
    (World.Within.editCycle w mem Cycle.clamp).trans (.dispatch _ _ _ _)
  rw [ends_broadcast directory]
  dsimp only
  rw [place, Sim.ends_forM_note]
  generalize w.announce id = v at announced
  split
  · have told : w.Within s (v.hearAll
        ((w.directory.observers (w.cycle id).zone).map (.packet · (v.cycle id).packet))) := by
      refine announced.trans (.hearAll v fun call called => ?_)
      obtain ⟨name, there, rfl⟩ := List.mem_map.1 called
      exact members name there
    generalize v.hearAll _ = u at told ⊢
    have noted := told.trans (.emit u
      (e := .logged (.changed (w.cycle id).zone (v.cycle id).state)) fun _ => rfl)
    split
    · exact told
    · split
      · rw [Hooks.ends_notifyChanged_note]
        refine noted.trans (.hearAll _ fun call called => ?_)
        obtain ⟨name, -, rfl⟩ := List.mem_map.1 called
        trivial
      · exact noted
  · exact announced

/-- So does forcing some weather. -/
theorem setWeather_within (mem : s.cycles id) (directory : w.messenger = .directory)
    (members : ∀ name ∈ w.directory.observers (w.cycle id).zone, s.observers name)
    (kind : WeatherKind) (intensity : Float) (trigger : Bool) :
    (id.setWeather Call.note kind intensity trigger).Ends w (fun _ w' => w.Within s w')
      fun _ w' => w.Within s w' := by
  rw [setWeather, Sim.ends_bind, Sim.ends_cycle, Sim.ends_ite]
  split
  · exact .refl w
  · have forced : w.Within s (w.editCycle id (·.withWeather kind intensity)) := .editCycle w mem _
    have touched : w.Touches Event.Silent id (w.editCycle id (·.withWeather kind intensity)) :=
      .editCycle w id fun _ => ⟨rfl, rfl, rfl⟩
    rw [Sim.ends_bind, Sim.ends_editCycle, Sim.ends_discard]
    have told := broadcast_within mem (forced.messenger.trans directory)
      (touched.make.zone ▸ members) trigger
    exact told.mono (fun _ _ => forced.trans) fun _ _ => forced.trans

/-- So does telling a single observer who is in the scope. -/
theorem sendTo_within (id : CycleId) {observer : ActorName} (h : s.observers observer) :
    (id.sendTo Call.note observer).Ends w (fun _ w' => w.Within s w')
      fun _ w' => w.Within s w' := by
  rw [sendTo, Sim.ends_bind, Sim.ends_cycle, Sim.ends_bind, Sim.ends_dispatch, Sim.ends_note]
  exact (World.Within.dispatch w id _ _).trans (.hear _ h)

end CycleId

/-! ### Rolling the weather of a cycle -/

/-- The contract of a scope. -/
def Contract.within (s : Scope) : Contract γ := .always (World.Within s) .refl .trans

theorem Sim.draw_within {s : Scope} {α : Type} (owner : Owner) (d : EStateM Fault γ α)
    {event : Option α → Event} (unheard : ∀ a, (event a).Unheard) :
    (Sim.draw owner d event).Keeps (.within s) := by
  intro w
  rw [Sim.ends_draw]
  cases d (w.source owner) with
  | ok a g => exact (World.Within.setSource w owner g).trans (.emit _ (unheard _))
  | error f g => exact (World.Within.setSource w owner g).trans (.emit _ (unheard _))

variable [RandomSource γ]

/-- Within a scope the weather of its cycles may be rolled. -/
theorem Contract.letsRoll_within {s : Scope} {id : CycleId} (mem : s.cycles id) :
    (within s : Contract γ).LetsRoll id := by
  have normal (mean spread : Float) : (Sim.normal mean spread : Sim γ Float).Keeps (.within s) :=
    .bind .get fun _ => Sim.draw_within _ _ fun _ _ => rfl
  refine ⟨fun w f _ => .editCycle w mem f, fun low high _ => ?_, ?_, fun w zone => ?_⟩
  · exact .bind .get fun _ => Sim.draw_within _ _ fun _ _ => rfl
  · exact HalfNormal.draw_keeps normal fun w => .refl w
  · rw [Sim.ends_dayOfYear]
    cases w.clock.dayOfYear with
    | ok day => exact .emit w fun _ => rfl
    | error f => exact .refl w

/-! ### The turn of a cycle -/

namespace CycleId

variable {s : Scope} {id : CycleId} {w : World γ}

theorem regenerate_within (mem : s.cycles id) :
    (id.regenerate : Sim γ Bool).Keeps (.within s) :=
  regenerate_keeps (Contract.letsRoll_within mem)

/-- **The turn of a cycle remains within its scope**, whether it returns or fails. -/
theorem update_within {zone : Value} (made : w.MadeFor zone id)
    (directory : w.messenger = .directory) (diff : Int) :
    (id.update Call.note diff).Ends w (fun _ w' => w.Within (.turn w.directory zone id) w')
      fun _ w' => w.Within (.turn w.directory zone id) w' := by
  have mem : (Scope.turn w.directory zone id).cycles id := rfl
  have passed : w.Within (.turn w.directory zone id) (w.passTime id diff) := .editCycle w mem _
  have ripe : w.Within (.turn w.directory zone id) (w.ripe id diff) :=
    passed.trans (.editCycle _ mem _)
  have ready : w.Touches Event.Silent id (w.ripe id diff) := w.touches_ripe id diff
  rw [ends_update_note made.known]
  split
  · have rolled := ((regenerate_within mem).ends_trans ripe).and
      (id.regenerate_touches (w.ripe id diff))
    refine rolled.mono ?_ fun _ _ failed => failed.1
    rintro changed w₁ ⟨rolled, touched⟩
    split
    · have place : (w₁.cycle id).zone.sameKey zone = true := by
        rw [touched.make.zone, ready.make.zone]
        exact made.place
      have members : w₁.directory.observers (w₁.cycle id).zone = w.directory.observers zone := by
        rw [rolled.directory, Directory.observers_congr _ place]
      have told := broadcast_within mem (rolled.messenger.trans directory)
        (members ▸ fun _ there => there) true
      refine told.mono (fun told w₂ telling => ?_) fun _ _ telling => rolled.trans telling
      split
      · exact (rolled.trans telling).trans (.hearTicked _ _ _)
      · exact rolled.trans telling
    · exact rolled.trans (.hearTicked _ _ _)
  · exact passed.trans (.hearTicked _ _ _)

/-- A turn fails if the weather was to be rolled and that failed. -/
theorem update_eq_error {f : Fault} {w' : World γ} (known : id.number < w.cycles.size) {diff : Int}
    (due : (w.cycle id).isDue diff) (failed : id.regenerate (w.ripe id diff) = .error f w') :
    id.update Call.note diff w = .error f w' := by
  have ends : (id.update Call.note diff).Ends w (fun _ _ => False) fun f' v => f' = f ∧ v = w' := by
    rw [ends_update_note known, if_pos due, Sim.Ends, failed]
    exact ⟨rfl, rfl⟩
  rw [Sim.Ends] at ends
  cases run : id.update Call.note diff w with
  | ok a v =>
    rw [run] at ends
    exact ends.elim
  | error f' v =>
    rw [run] at ends
    rw [ends.1, ends.2]

end CycleId

/-! ### Passes -/

/-- **All turns of a pass remain within their scopes**, if the cycles were made for their zones. By
induction on the pass: a turn leaves everybody where they are, and every cycle of the zone for which
it was made. -/
theorem Pass.within {diff : Int} {w w' : World γ} {turns : List (Turn γ)}
    (pass : Pass Call.note diff w turns w') (directory : w.messenger = .directory)
    (made : ∀ t ∈ turns, w.MadeFor t.zone t.id) :
    (∀ t ∈ turns, t.before.Within (.turn w.directory t.zone t.id) t.after) ∧
      w'.messenger = .directory ∧ w'.directory = w.directory ∧ w.Grows w'.toScene := by
  induction pass with
  | ended w => exact ⟨by simp, directory, rfl, .refl _⟩
  | @turn t turns w' run rest ih =>
    have first := made t List.mem_cons_self
    have within := (t.id.update_within first directory diff).of_ok run
    have touched := ((t.id.update_recording directory first diff).of_ok run).1
    have grows : t.before.Grows t.left.toScene := by
      refine touched.grows.trans ?_
      simp only [Turn.left]
      split
      · exact .refl _
      · exact .of_cycles rfl rfl rfl
    have same : t.left.directory = t.before.directory := t.directory_left.trans within.directory
    obtain ⟨all, messenger, stays, more⟩ :=
      ih (t.messenger_left.trans (within.messenger.trans directory))
        fun u mem => (made u (List.mem_cons_of_mem _ mem)).grows grows
    rw [same] at all stays
    exact ⟨List.forall_mem_cons.2 ⟨within, all⟩, messenger, stays, grows.trans more⟩

/-! ### Requests -/

/-- The zone that a request is about. -/
def ManagerCommand.zone? : ManagerCommand → Option Value
  | chances zone | find zone | add zone | getOrCreate zone | remove zone | observerEntered _ zone
  | setWeather zone .. => some zone
  | update _ | config => none

/-- The observer whom a request is about. -/
def ManagerCommand.addressee? : ManagerCommand → Option ActorName
  | observerEntered observer _ => some observer
  | _ => none

namespace Manager

variable {w : World γ} {zone : Value} {addressee : Option ActorName}

omit [RandomSource γ] in
theorem remove_within :
    (remove zone).Ends w (fun _ w' => w.Within (.request w zone addressee) w')
      fun _ w' => w.Within (.request w zone addressee) w' := by
  rw [remove, Sim.ends_bind, Sim.ends_get, Sim.ends_ite]
  split
  · exact .refl w
  · rw [Sim.ends_bind, Sim.ends_requireKey]
    split
    · exact ⟨rfl, w.manager.live.entriesBut_erase zone, fun _ _ => rfl, fun _ _ => rfl⟩
    · exact .refl w

/-- The weather that is asked for is in the scope, and so are those who are in its zone. -/
def Found (w : World γ) (zone : Value) (addressee : Option ActorName) (found : Option CycleId)
    (w' : World γ) : Prop :=
  w.Within (.request w zone addressee) w' ∧ ∀ id, found = some id →
    (Scope.request w zone addressee).cycles id ∧
      w'.directory.observers (w'.cycle id).zone = w.directory.observers zone

theorem add_within :
    (add zone).Ends w (fun found w' => Found w zone addressee found w')
      fun _ w' => w.Within (.request w zone addressee) w' := by
  rw [ends_add]
  split
  · cases chances : w.manager.chances? zone with
    | none => exact ⟨.refl w, nofun⟩
    | some table =>
      have started := World.Within.started chances addressee
      have mem : (Scope.request w zone addressee).cycles ⟨w.cycles.size⟩ := .inr (Nat.le_refl _)
      have rolled := ((CycleId.regenerate_within mem).ends_trans started).and
        (CycleId.regenerate_touches ⟨w.cycles.size⟩ (w.start zone table))
      refine rolled.mono ?_ fun _ _ failed => failed.1
      rintro changed w' ⟨within, touched⟩
      refine ⟨within, fun id same => ?_⟩
      obtain rfl := Option.some.inj same
      rw [within.directory, touched.make.zone, w.cycle_start_self]
      exact ⟨mem, rfl⟩
  · exact .refl w

theorem getOrCreate_within (h : w.Registered) :
    (getOrCreate zone).Ends w (fun found w' => Found w zone addressee found w')
      fun _ w' => w.Within (.request w zone addressee) w' := by
  rw [ends_getOrCreate]
  split
  · cases found : w.manager.find? zone with
    | none => exact add_within
    | some id =>
      refine ⟨.refl w, fun other same => ?_⟩
      obtain rfl := Option.some.inj same
      exact ⟨.inl found, w.directory.observers_congr (h.madeFor found).place⟩
  · exact .refl w

theorem observerEntered_within (h : w.Registered) (observer : ActorName) :
    (observerEntered Call.note observer zone).Ends w
      (fun _ w' => w.Within (.request w zone (some observer)) w')
      fun _ w' => w.Within (.request w zone (some observer)) w' := by
  rw [observerEntered, Sim.ends_bind]
  refine (getOrCreate_within h).mono (fun found w₁ asked => ?_) fun _ _ failed => failed
  have there : (Scope.request w zone (some observer)).observers observer := .inr rfl
  cases found with
  | none => exact asked.1.trans (.hear w₁ there)
  | some id =>
    exact (id.sendTo_within there).mono (fun _ _ => asked.1.trans) fun _ _ => asked.1.trans

theorem setZoneWeather_within (h : w.Registered) (directory : w.messenger = .directory)
    (kind : WeatherKind) (intensity : Float) (trigger : Bool) :
    (setZoneWeather Call.note zone kind intensity trigger).Ends w
      (fun _ w' => w.Within (.request w zone addressee) w')
      fun _ w' => w.Within (.request w zone addressee) w' := by
  rw [setZoneWeather, Sim.ends_bind]
  refine (getOrCreate_within h).mono (fun found w₁ ⟨within, asked⟩ => ?_) fun _ _ failed => failed
  cases found with
  | none => exact within
  | some id =>
    obtain ⟨mem, members⟩ := asked id rfl
    rw [Sim.ends_bind]
    have forced := CycleId.setWeather_within mem (within.messenger.trans directory)
      (fun name there => .inl (members ▸ there)) kind intensity trigger
    exact forced.mono (fun _ _ => within.trans) fun _ _ => within.trans

end Manager

/-- **A request for a zone remains within its scope**, whether it returns or fails. -/
theorem ManagerCommand.perform_within {w : World γ} (h : w.Registered)
    (directory : w.messenger = .directory) (command : ManagerCommand) {zone : Value}
    (about : command.zone? = some zone) :
    (command.perform Call.note).Ends w
      (fun _ w' => w.Within (.request w zone command.addressee?) w')
      fun _ w' => w.Within (.request w zone command.addressee?) w' := by
  have shown {x : Sim γ (Option CycleId)} {addressee : Option ActorName}
      (asked : x.Ends w (fun _ w' => w.Within (.request w zone addressee) w')
        fun _ w' => w.Within (.request w zone addressee) w') :
      (do CycleId.show (← x) : Sim γ Reply).Ends w
        (fun _ w' => w.Within (.request w zone addressee) w')
        fun _ w' => w.Within (.request w zone addressee) w' := by
    rw [Sim.ends_bind]
    refine asked.mono (fun found w' within => ?_) fun _ _ failed => failed
    exact (CycleId.show_keeps found : Sim.Keeps _ (.within _)).ends_trans within
  cases command with
  | update diff => cases about
  | config => cases about
  | chances zone =>
    simp only [perform, Manager.chances, Sim.ends_bind, Sim.ends_requireKey, Sim.ends_get,
      Sim.ends_pure]
    split <;> exact .refl w
  | find zone =>
    refine shown ?_
    simp only [Manager.find, Sim.ends_bind, Sim.ends_requireKey, Sim.ends_get, Sim.ends_pure]
    split <;> exact .refl w
  | add zone =>
    cases about
    exact shown (Manager.add_within.mono (fun _ _ found => found.1) fun _ _ failed => failed)
  | getOrCreate zone =>
    cases about
    exact shown ((Manager.getOrCreate_within h).mono (fun _ _ found => found.1)
      fun _ _ failed => failed)
  | remove zone =>
    cases about
    rw [perform, Sim.ends_bind]
    exact Manager.remove_within
  | observerEntered observer zone =>
    cases about
    rw [perform, Sim.ends_bind]
    exact Manager.observerEntered_within h observer
  | setWeather zone kind intensity trigger =>
    cases about
    rw [perform, Sim.ends_bind]
    exact Manager.setZoneWeather_within h directory kind intensity trigger

/-- **Zones do not interfere.** With actors who only take note, and packets delivered through the
directory, a request for a zone touches nothing that is of other zones, whether it returns or fails;
nothing else changes but the source of the weather. In an update, the turn of every cycle – also of
the last one, if the update fails there – touches nothing but that cycle and the source, and nobody
receives anything who is not in its zone. -/
theorem Manager.zones_apart (stage : Stage) (depth : Nat) {w : World γ} (h : Reachable w)
    (directory : w.messenger = .directory) :
    (∀ (command : ManagerCommand) (zone : Value), command.zone? = some zone →
      (command.perform (stage.react .recording (depth + 1))).Ends w
        (fun _ w' => w.SparesOthers zone command.addressee? w' ∧
          w.Within (.request w zone command.addressee?) w')
        fun _ w' => w.SparesOthers zone command.addressee? w' ∧
          w.Within (.request w zone command.addressee?) w') ∧
    ∀ diff, (update (stage.react .recording (depth + 1)) diff).Ends w
      (fun _ w' => ∃ turns, w.manager.live.entries = turns.map Turn.entry ∧
        Pass (stage.react .recording (depth + 1)) diff w turns w' ∧
        ∀ t ∈ turns, t.before.Within (.turn w.directory t.zone t.id) t.after)
      fun f w' => ∃ turns zone id rest v,
        w.manager.live.entries = turns.map Turn.entry ++ (zone, id) :: rest ∧
        Pass (stage.react .recording (depth + 1)) diff w turns v ∧
        (∀ t ∈ turns, t.before.Within (.turn w.directory t.zone t.id) t.after) ∧
        id.update (stage.react .recording (depth + 1)) diff v = .error f w' ∧
        v.Within (.turn w.directory zone id) w' := by
  have registered := h.registered
  rw [Stage.react_recording]
  refine ⟨fun command zone about => ?_, fun diff => ?_⟩
  · have within := command.perform_within registered directory about
    exact within.mono (fun _ _ within => ⟨within.sparesOthers registered, within⟩)
      fun _ _ within => ⟨within.sparesOthers registered, within⟩
  · have made {turns : List (Turn γ)} {rest : List (Value × CycleId)}
        (live : w.manager.live.entries = turns.map Turn.entry ++ rest) :
        ∀ t ∈ turns, w.MadeFor t.zone t.id := fun t mem =>
      registered.made (live ▸ List.mem_append_left _ (List.mem_map_of_mem mem))
    rw [update, Sim.ends_bind, Sim.ends_get]
    refine (updateEach_pass diff w.manager.live.entries [] directory registered rfl).mono ?_ ?_
    · rintro _ w' ⟨turns, live, account, -⟩
      have passed := account.pass.within directory (made (by rw [live, List.append_nil]))
      exact ⟨turns, live, account.pass, passed.1⟩
    · rintro f w' ⟨turns, zone, id, rest, v, live, account, -, -, due, failed⟩
      obtain ⟨within, messenger, stays, grows⟩ := account.pass.within directory (made live)
      have entered : w.MadeFor zone id := registered.made (by simp [live])
      have waiting := entered.grows grows
      have run := CycleId.update_eq_error waiting.known due failed
      have last := id.update_within waiting messenger diff
      rw [Sim.Ends, run, stays] at last
      exact ⟨turns, zone, id, rest, v, live, account.pass, within, run, last⟩

namespace TwoZones

/-- The weather is running in both zones, and somebody is in each. -/
def settled : World Script :=
  (idle { integers := [0, 0] }).afterAll {} .recording 1
    [.directory (.enter "near" (.text "a")), .directory (.enter "far" (.text "b")),
      .manager (.getOrCreate (.text "a")), .manager (.getOrCreate (.text "b"))]

theorem reachable_settled : Reachable settled := .afterAll (.start rfl) _ _ _ _

/-- Somebody asks for a storm in the first zone. -/
def storm : ManagerCommand := .setWeather (.text "a") .storm 0.75 true

/-- The world in which there is one. -/
def stormy : World Script := (storm.perform (Stage.react {} .recording 1)).worldLeft settled

theorem received_stormy :
    ["near", "far"].map (fun name => (stormy.received name).length) = [1, 0] := by
  decide +kernel

end TwoZones

/-- Whoever is in the first zone is told, and nothing else happens. -/
theorem Manager.zones_apart_settled :
    Reachable TwoZones.settled ∧ TwoZones.settled.messenger = .directory ∧
      TwoZones.storm.zone? = some (.text "a") ∧
      TwoZones.settled.SparesOthers (.text "a") none TwoZones.stormy ∧
      ["near", "far"].map (fun name => (TwoZones.stormy.received name).length) = [1, 0] := by
  have reachable := TwoZones.reachable_settled
  have apart := (zones_apart {} 0 reachable rfl).1 TwoZones.storm (.text "a") rfl
  exact ⟨reachable, rfl, rfl, (Sim.Ends.worldLeft apart).1, TwoZones.received_stormy⟩

end Microclimate
