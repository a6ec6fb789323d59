import Microclimate.Proofs.Courses
import Microclimate.Proofs.Departures

/-!
# The directory in step

Observers may move at any time, also while they are being told about the weather, and the moves of
one may come in between those of another. Some of them try to go into what is no key; they leave
their zone all the same. Through all of this the two parts of the directory stay in step, and a zone
lists those who are in it **in the order in which they came**. So nobody ever fails to leave.

The order is that of the moves, which the world remembers: somebody is in a zone if they came into
it and have not moved since. What one course of moves makes of a directory and what another one
makes of the result can be put together, and that is what is kept by every command. It is not enough
that the order agrees with what is remembered, for a move could be left out of both. So it is also
said which moves it takes to go into a zone: **whoever goes in comes last**, even if they were there
before.

* `Microclimate.Move.present` – who is in a zone after some moves;
* `Microclimate.Directory.InStep` – **the two parts are in step**, after some moves;
* `Microclimate.Directory.Obeys` – and so they are once more when somebody goes in or out;
* `Microclimate.World.Treads` – from one world to another, with `Microclimate.Contract.treading`;
* `Microclimate.World.Course.inStep` – **a directory that was empty once is in step at every
  moment**, and obeys at every moment.
-/

namespace Microclimate

variable {γ : Type}

/-! ### Moves -/

/-- Nobody of that name moves. -/
def Move.Still (moves : List Move) (observer : ActorName) : Prop :=
  ∀ m ∈ moves, m.observer ≠ observer

instance (moves : List Move) (observer : ActorName) : Decidable (Move.Still moves observer) :=
  inferInstanceAs (Decidable (∀ m ∈ moves, m.observer ≠ observer))

/-- **Who is in a zone after some moves**, in the order in which they came: whoever came into the
zone and has not moved since. -/
def Move.present (zone : Value) : List Move → List ActorName
  | [] => []
  | out _ :: later => present zone later
  | into observer z :: later =>
    if z.sameKey zone = true ∧ Still later observer then observer :: present zone later
    else present zone later

namespace Move

theorem still_append {ms ns : List Move} {observer : ActorName} :
    Still (ms ++ ns) observer ↔ Still ms observer ∧ Still ns observer :=
  List.forall_mem_append

/-- Who is present after further moves: those who were and did not move, and those who came. -/
theorem present_append (zone : Value) (ms ns : List Move) :
    present zone (ms ++ ns) = (present zone ms).filter (Still ns) ++ present zone ns := by
  induction ms with
  | nil => rfl
  | cons m later ih =>
    cases m with
    | out observer => exact ih
    | into observer z =>
      simp only [List.cons_append, present, still_append, ih]
      by_cases here : z.sameKey zone = true ∧ Still later observer
      · rw [if_pos here, List.filter_cons]
        by_cases stays : Still ns observer
        · rw [if_pos ⟨here.1, here.2, stays⟩, if_pos (by simpa using stays)]
          rfl
        · rw [if_neg fun h => stays h.2.2, if_neg (by simpa using stays)]
      · rw [if_neg here, if_neg fun h => here ⟨h.1, h.2.1⟩]

end Move

/-- One directory comes from another by some moves, as far as the members of all zones go: those who
did not move are where they were, and after them come those who have come. -/
def Directory.Follows (d : Directory) (ms : List Move) (d' : Directory) : Prop :=
  ∀ zone, d'.observers zone = (d.observers zone).filter (Move.Still ms) ++ Move.present zone ms

namespace Directory

theorem Follows.refl (d : Directory) : d.Follows [] d := by
  intro zone
  have all : (d.observers zone).filter (Move.Still []) = d.observers zone :=
    List.filter_eq_self.2 fun _ _ => by simp [Move.Still]
  rw [all, Move.present, List.append_nil]

theorem Follows.trans {d d' d'' : Directory} {ms ns : List Move} (h : d.Follows ms d')
    (h' : d'.Follows ns d'') : d.Follows (ms ++ ns) d'' := by
  intro zone
  rw [h' zone, h zone, Move.present_append, List.filter_append, List.filter_filter,
    List.append_assoc]
  refine congrArg (· ++ _) (List.filter_congr fun observer _ => ?_)
  simp [Move.still_append, Bool.and_comm]

/-- After some moves in an empty directory, the zones list who is present by these moves. -/
theorem Follows.observers_eq {empty d : Directory} (nobody : empty.members = .empty)
    {moves : List Move} (h : empty.Follows moves d) (zone : Value) :
    d.observers zone = Move.present zone moves := by
  rw [h zone, observers, nobody]
  rfl

/-- Leaving has the effect that moves have. -/
theorem Tidy.follows_without {d : Directory} (h : d.Tidy) (observer : ActorName) :
    d.Follows [.out observer] (d.without observer) := by
  intro zone
  rw [h.observers_without, Move.present, Move.present, List.append_nil]
  exact List.filter_congr fun other _ => by simp [Move.Still, Move.observer, eq_comm]

/-- So has coming into a zone for somebody who is nowhere. -/
theorem Tidy.follows_add {d : Directory} (h : d.Tidy) {observer : ActorName}
    (nowhere : d.zoneOf? observer = none) (z : Value) :
    d.Follows [.into observer z] (d.add observer z) := by
  intro zone
  have others : (d.observers zone).filter (Move.Still [.into observer z]) = d.observers zone := by
    refine List.filter_eq_self.2 fun other there => ?_
    obtain ⟨place, somewhere, -⟩ := h.mem_observers_iff.1 there
    have ne : observer ≠ other := by
      rintro rfl
      rw [nowhere] at somewhere
      cases somewhere
    simpa [Move.Still, Move.observer] using ne
  rw [observers_add, others, Move.present, Move.present]
  cases z.sameKey zone <;> simp [Move.Still]

/-- **A move that is made in a tidy directory** succeeds, leaves a tidy directory, and has the
effect that moves have. -/
theorem Tidy.make_eq {d : Directory} (h : d.Tidy) {m : Move} (allowed : m.Allowed d) :
    ∃ d', m.make d = .ok () d' ∧ d'.Tidy ∧ d.Follows [m] d' := by
  cases m with
  | out observer =>
    exact ⟨_, h.leave_eq observer, h.without observer, h.follows_without observer⟩
  | into observer z =>
    obtain ⟨-, nowhere⟩ := allowed
    exact ⟨_, rfl, h.add nowhere z, h.follows_add nowhere z⟩

/-- **The two parts of a directory are in step**, and the zones list those who are in them in the
order in which they came by some moves. -/
structure InStep (d : Directory) (moves : List Move) : Prop where
  /-- Whoever has a place is listed in that zone, and whoever is listed has a place there. -/
  agree : ∀ {observer zone}, observer ∈ d.observers zone ↔
    ∃ place, d.zoneOf? observer = some place ∧ place.sameKey zone = true
  /-- Nobody is listed twice in a zone. -/
  once : ∀ zone, (d.observers zone).Nodup
  /-- Nobody is listed in two zones. -/
  only : ∀ {observer zone other}, observer ∈ d.observers zone → observer ∈ d.observers other →
    zone.sameKey other = true
  /-- What is kept under a zone is what is listed there. -/
  kept : ∀ {zone names}, (zone, names) ∈ d.members.lists.entries → zone.sameKey zone = true →
    d.observers zone = names
  /-- Nobody keeps a list without names. -/
  occupied : ∀ {zone names}, (zone, names) ∈ d.members.lists.entries → names ≠ []
  /-- The order is that in which they came. -/
  order : ∀ zone, d.observers zone = Move.present zone moves
  /-- Nobody fails to leave. -/
  leaves : ∀ observer, ∃ d', leave observer d = .ok () d'

/-- A tidy directory that comes from an empty one is in step. -/
theorem Tidy.inStep_of_follows {d empty : Directory} (h : d.Tidy) (nobody : empty.members = .empty)
    {moves : List Move} (follows : empty.Follows moves d) : d.InStep moves where
  agree := h.mem_observers_iff
  once := h.nodup_observers
  only := h.sameKey_of_mem
  kept entry self := by rw [observers, h.distinct.find?_of_mem entry self, Option.getD_some]
  occupied := h.occupied
  order := follows.observers_eq nobody
  leaves observer := ⟨_, h.leave_eq observer⟩

end Directory

/-! ### Going in and out -/

/-- Somebody moves after some moves: the world remembers what is done now, and the directory is in
step with all of it. -/
structure World.MovesOn (w : World γ) (moves now : List Move) (w' : World γ) : Prop where
  /-- The new moves were tried, and they succeeded. -/
  attempts : w'.attempts.toList = w.attempts.toList ++ now.map (⟨·, none⟩)
  /-- They come after the old ones. -/
  inStep : w'.directory.InStep (moves ++ now)

/-- **A directory obeys whoever goes in and out**, and is in step, after some moves. This is about
every world that has the directory. -/
structure Directory.Obeys (γ : Type) (d : Directory) (moves : List Move) : Prop
    extends d.InStep moves where
  /-- Whoever goes into a zone moves out of where they are and comes in, into the same zone too. -/
  enters : ∀ {w : World γ}, w.directory = d → ∀ observer zone, zone.isKey = true →
    ∃ w', enter observer zone w = .ok () w' ∧
      w.MovesOn moves [.out observer, .into observer zone] w'
  /-- Whoever tries to go into what is no key fails, and has left then. -/
  refuses : ∀ {w : World γ}, w.directory = d → ∀ observer zone, zone.isKey = false →
    ∃ w', enter observer zone w = .error (.notAKey zone) w' ∧ w.MovesOn moves [.out observer] w'
  /-- Whoever leaves has left then. -/
  departs : ∀ {w : World γ}, w.directory = d → ∀ observer,
    ∃ w', (Move.out observer).carryOut w = .ok () w' ∧ w.MovesOn moves [.out observer] w'

namespace Directory

/-- The world once somebody has left. -/
def left (w : World γ) (observer : ActorName) : World γ :=
  { w with
    directory := w.directory.without observer
    attempts := w.attempts.push ⟨.out observer, none⟩ }

/-- The world once somebody who is nowhere has come into a zone. -/
def joined (w : World γ) (observer : ActorName) (zone : Value) : World γ :=
  { w with
    directory := w.directory.add observer zone
    attempts := w.attempts.push ⟨.into observer zone, none⟩ }

theorem Tidy.carryOut_out {w : World γ} (h : w.directory.Tidy) (observer : ActorName) :
    (Move.out observer).carryOut w = .ok () (left w observer) := by
  rw [Move.carryOut, Move.make, h.leave_eq]
  rfl

/-- **Going into a zone of a tidy directory, step by step**: the observer has left, and comes if the
zone is a key. -/
theorem Tidy.enter_eq {w : World γ} (h : w.directory.Tidy) (observer : ActorName) (zone : Value) :
    enter observer zone w =
      if zone.isKey then .ok () (joined (left w observer) observer zone)
      else .error (.notAKey zone) (left w observer) := by
  rw [enter, Sim.bind_of_ok (h.carryOut_out observer), Sim.requireKey]
  split <;> rfl

/-- A tidy directory that comes from an empty one obeys. -/
theorem Tidy.obeys_of_follows {d empty : Directory} (h : d.Tidy) (nobody : empty.members = .empty)
    {moves : List Move} (follows : empty.Follows moves d) : d.Obeys γ moves where
  toInStep := h.inStep_of_follows nobody follows
  enters := by
    rintro w rfl observer zone key
    have nowhere := w.directory.zoneOf?_without observer
    have came := (h.follows_without observer).trans
      ((h.without observer).follows_add nowhere zone)
    refine ⟨_, (h.enter_eq observer zone).trans (if_pos key), by simp [left, joined], ?_⟩
    exact ((h.without observer).add nowhere zone).inStep_of_follows nobody (follows.trans came)
  refuses := by
    rintro w rfl observer zone noKey
    refine ⟨_, (h.enter_eq observer zone).trans (if_neg (by simp [noKey])), by simp [left], ?_⟩
    exact (h.without observer).inStep_of_follows nobody
      (follows.trans (h.follows_without observer))
  departs := by
    rintro w rfl observer
    refine ⟨_, h.carryOut_out observer, by simp [left], ?_⟩
    exact (h.without observer).inStep_of_follows nobody
      (follows.trans (h.follows_without observer))

end Directory

/-! ### From one world to another -/

/-- **How the directory of a world comes to be that of another world** by some moves, if it was
tidy: it is tidy at every moment, and everything that was tried succeeded. -/
structure World.Treads (w : World γ) (ms : List Move) (w' : World γ) : Prop where
  tidy : w'.directory.Tidy
  attempts : w'.attempts.toList = w.attempts.toList ++ ms.map (⟨·, none⟩)
  follows : w.directory.Follows ms w'.directory
  moments : ∃ news, w.Adds news w' ∧ ∀ m ∈ news,
    m.scene.directory.Tidy ∧ ∃ done, done <+: ms ∧ w.directory.Follows done m.scene.directory

namespace World.Treads

/-- Nobody moves. -/
theorem stay {w w' : World γ} (tidy : w.directory.Tidy) (directory : w'.directory = w.directory)
    (attempts : w'.attempts = w.attempts) {news : List Moment} (adds : w.Adds news w')
    (scenes : ∀ m ∈ news, m.scene.directory = w.directory) : w.Treads [] w' where
  tidy := directory ▸ tidy
  attempts := by simp [attempts]
  follows := directory ▸ .refl _
  moments := ⟨news, adds, fun m mem =>
    ⟨scenes m mem ▸ tidy, [], List.prefix_rfl, scenes m mem ▸ .refl _⟩⟩

theorem trans {a b c : World γ} {ms ns : List Move} (h : a.Treads ms b) (h' : b.Treads ns c) :
    a.Treads (ms ++ ns) c where
  tidy := h'.tidy
  attempts := by rw [h'.attempts, h.attempts, List.map_append, List.append_assoc]
  follows := h.follows.trans h'.follows
  moments := by
    obtain ⟨early, first, before⟩ := h.moments
    obtain ⟨late, second, after⟩ := h'.moments
    refine ⟨early ++ late, first.trans second, fun m mem => ?_⟩
    rcases List.mem_append.1 mem with mem | mem
    · obtain ⟨tidy, done, part, follows⟩ := before m mem
      exact ⟨tidy, done, part.trans (List.prefix_append ms ns), follows⟩
    · obtain ⟨tidy, done, part, follows⟩ := after m mem
      exact ⟨tidy, ms ++ done, (List.prefix_append_right_inj ms).2 part, h.follows.trans follows⟩

/-- **A small step** makes one move or none. -/
theorem of_step {w w' : World γ} (step : w.Step w') (tidy : w.directory.Tidy) :
    ∃ ms, w.Treads ms w' := by
  cases step with
  | happened e => exact ⟨[], .stay tidy rfl rfl (.emit w e) (by simp)⟩
  | surroundings messenger hooks clock engine random calls goes =>
    exact ⟨[], .stay tidy rfl rfl (.nothing rfl) (by simp)⟩
  | edited id f make => exact ⟨[], .stay tidy rfl rfl (.nothing rfl) (by simp)⟩
  | dispatched id receiver packet => exact ⟨[], .stay tidy rfl rfl (.nothing rfl) (by simp)⟩
  | started zone table chances =>
    exact ⟨[], .stay tidy rfl rfl (w.adds_start zone table) (by simp)⟩
  | stopped zone => exact ⟨[], .stay tidy rfl rfl (.nothing rfl) (by simp)⟩
  | moved m allowed =>
    obtain ⟨d, made, after, follows⟩ := tidy.make_eq allowed
    have left : m.carryOut.worldLeft w =
        { w with directory := d, attempts := w.attempts.push ⟨m, none⟩ } := by
      rw [Sim.worldLeft, Move.carryOut, made]
    rw [left]
    exact ⟨[m], after, by simp, follows, [], .nothing rfl, by simp⟩

end World.Treads

/-- A directory that is tidy in one world comes to be that of another world by some moves. -/
def World.StaysTidy (w w' : World γ) : Prop := w.directory.Tidy → ∃ ms, w.Treads ms w'

namespace World.StaysTidy

theorem refl (w : World γ) : w.StaysTidy w :=
  fun tidy => ⟨[], .stay tidy rfl rfl (.nothing rfl) (by simp)⟩

theorem trans {a b c : World γ} (h : a.StaysTidy b) (h' : b.StaysTidy c) : a.StaysTidy c := by
  intro tidy
  obtain ⟨ms, first⟩ := h tidy
  obtain ⟨ns, second⟩ := h' first.tidy
  exact ⟨ms ++ ns, first.trans second⟩

end World.StaysTidy

/-- **The contract of the directory**: it stays tidy, move by move. -/
def Contract.treading : Contract γ := .always World.StaysTidy .refl .trans

theorem Contract.admits_treading : (treading : Contract γ).Admits where
  step := World.Treads.of_step
  fail _ w := .refl w
  discard w zone _ tidy := ⟨[], .stay tidy rfl rfl (.emit w (.logged (.removing zone))) (by simp)⟩

variable [RandomSource γ]

/-- A directory that was empty once has become what it is by some moves. -/
theorem World.Course.treads {start w : World γ} (course : start.Course w)
    (nobody : start.directory.members = .empty) : ∃ moves, start.Treads moves w :=
  course.keeps Contract.admits_treading (Directory.tidy_of_empty nobody)

/-- And it is tidy. -/
theorem World.Course.tidy {start w : World γ} (course : start.Course w)
    (nobody : start.directory.members = .empty) : w.directory.Tidy :=
  (course.treads nobody).choose_spec.tidy

/-- **The two parts of a directory stay in step.** In every course of events that starts when nobody
is anywhere, the directory is in step at the end and at every moment in between, after so many of
the moves as were made by then. At the end and at every such moment it obeys: whoever goes into a
zone moves out of theirs and comes in, whoever leaves moves out, and nobody ever fails to move; only
whoever tries to go into what is no key fails, and has left their zone then. -/
theorem World.Course.inStep {start w : World γ} (course : start.Course w)
    (nobody : start.directory.members = .empty) (unmoved : start.attempts = #[]) :
    ∃ moves : List Move, w.attempts.toList = moves.map (⟨·, none⟩) ∧ w.directory.Obeys γ moves ∧
      ∃ news, start.Adds news w ∧ ∀ m ∈ news, ∃ done, done <+: moves ∧
        m.scene.directory.Obeys γ done := by
  obtain ⟨moves, treads⟩ := course.treads nobody
  obtain ⟨news, adds, scenes⟩ := treads.moments
  refine ⟨moves, ?_, treads.tidy.obeys_of_follows nobody treads.follows, news, adds,
    fun m mem => ?_⟩
  · rw [treads.attempts, unmoved]
    rfl
  · obtain ⟨tidy, done, part, follows⟩ := scenes m mem
    exact ⟨done, part, tidy.obeys_of_follows nobody follows⟩

namespace TwoZones

/-- An observer who does not stay. -/
def rover : ActorName := "rover"

/-- An observer who stays. -/
def settler : ActorName := "settler"

/-- When told about the weather, the rover goes into another zone and comes back, naming the zone in
another way. -/
def roving : Behaviour Script := fun call _ =>
  match call with
  | .packet name _ =>
    if name = rover then
      [{ command := .directory (.enter rover (.int 2)) },
        { command := .directory (.enter rover (.bool true)) }]
    else []
  | _ => []

/-- Both come into a zone, and a packet is sent there. -/
def roved : World Script :=
  (idle {} : World Script).afterAll {} roving 2
    [.directory (.enter rover (.int 1)), .directory (.enter settler (.float 1.0)),
      .messenger (.send (.int 1) .fine)]

theorem observers_roved : roved.directory.observers (.int 1) = [settler, rover] := by
  decide +kernel

end TwoZones

/-- The rover is listed last, for they came back while they were told about the weather. If the
settler now goes into the zone again, the settler is the last one. -/
theorem World.Course.inStep_roved :
    (TwoZones.idle {} : World Script).Course TwoZones.roved ∧
      (TwoZones.idle {} : World Script).directory.members = .empty ∧
      (TwoZones.idle {} : World Script).attempts = #[] ∧
      TwoZones.roved.directory.observers (.int 1) = [TwoZones.settler, TwoZones.rover] ∧
      ∃ moves, TwoZones.roved.directory.InStep moves ∧
        ∃ w, Directory.enter TwoZones.settler (.int 1) TwoZones.roved = .ok () w ∧
          w.directory.InStep (moves ++
            [.out TwoZones.settler, .into TwoZones.settler (.int 1)]) ∧
          w.directory.observers (.int 1) = [TwoZones.rover, TwoZones.settler] := by
  have course : (TwoZones.idle {} : World Script).Course TwoZones.roved := .afterAll ..
  obtain ⟨moves, -, obeys, -⟩ := course.inStep rfl rfl
  obtain ⟨w, entered, moved⟩ := obeys.enters rfl TwoZones.settler (.int 1) rfl
  refine ⟨course, rfl, rfl, TwoZones.observers_roved, moves, obeys.toInStep, w, entered,
    moved.inStep, ?_⟩
  rw [moved.inStep.order, Move.present_append, ← obeys.order, TwoZones.observers_roved]
  decide +kernel

end Microclimate
