import Microclimate.Proofs.Departures
import Microclimate.Proofs.Upkeep
import Microclimate.Random.Twister

/-!
# Weather comes by chance

As long as no weather is forced, a zone never has weather to which its table gives no chance. That
is less plain than it sounds, for a cycle keeps its weather through the seasons, through getting
better and worse, and through operations that fail half-way. So weather cannot be said to have a
chance in the **present** season, only in some season of the table.

Tables may say what they like: chances may be negative, and they may add up to more than a hundred.
What is asked for is that the random source keeps to the ranges that it is given, as the seeded
generator does.

* `Microclimate.RandomSource.Honest`, `Microclimate.Twister.honest` – keeping to the ranges;
* `Microclimate.Chances.select_cases` – no roll selects weather that has no chance;
* `Microclimate.Climate.byChance` – weather by chance as a climate;
* `Microclimate.Run.byChance` – **what runs, and what is told of it, came by chance**.
-/

namespace Microclimate

variable {γ : Type}

/-! ### Honest sources -/

/-- Integers that are drawn lie in the range that was asked for. -/
def RandomSource.Honest (γ : Type) [RandomSource γ] : Prop :=
  ∀ (low high : Int) (g g' : γ) (n : Int), integer low high g = .ok n g' → low ≤ n ∧ n ≤ high

namespace Twister

/-- Numbers are drawn until one is small enough. -/
theorem below_lt {n tries r : Nat} {t t' : Twister} (drawn : below n tries t = .ok r t') :
    r < n := by
  induction tries generalizing t with
  | zero => cases drawn
  | succ tries ih =>
    simp only [below, bind, EStateM.bind, modifyGet, MonadStateOf.modifyGet,
      EStateM.modifyGet] at drawn
    split at drawn
    next small =>
      obtain ⟨rfl, -⟩ : _ = r ∧ _ = t' := by simpa [pure, EStateM.pure] using drawn
      exact small
    next => exact ih drawn

/-- **The seeded generator is honest.** -/
theorem honest : RandomSource.Honest Twister := by
  intro low high t t' n drawn
  change integer low high t = .ok n t' at drawn
  rw [integer] at drawn
  split at drawn
  next => cases drawn
  next some =>
    simp only [bind, EStateM.bind] at drawn
    cases first : below (high - low + 1).toNat patience t with
    | error f t'' => simp [first] at drawn
    | ok r t'' =>
      have small := below_lt first
      obtain ⟨rfl, -⟩ : low + r = n ∧ t'' = t' := by simpa [first, pure, EStateM.pure] using drawn
      omega

end Twister

/-! ### Selecting a kind -/

theorem Family.kind_ne_fine (f : Family) : f.kind ≠ .fine := by
  cases f <;> decide

/-- **No roll selects weather that has no chance**, whatever the chances are. -/
theorem Chances.select_cases (c : Chances) (n : Int) :
    c.select n = .fine ∨ ∃ f : Family, c.select n = f.kind ∧ (1 ≤ n → 0 < c.of f) := by
  rw [select]
  split
  next rain => exact .inr ⟨.rain, rfl, fun least => show 0 < c.rain by omega⟩
  next dry =>
    split
    next snow => exact .inr ⟨.snow, rfl, fun _ => show 0 < c.snow by omega⟩
    next clear =>
      split
      next storm => exact .inr ⟨.storm, rfl, fun _ => show 0 < c.storm by omega⟩
      next => exact .inl rfl

/-! ### The climate -/

/-- A table gives a family a chance in some season. -/
def SeasonTable.Allows (table : SeasonTable) (f : Family) : Prop :=
  ∃ season, 0 < (table.chances season).of f

/-- **The weather of a cycle came by chance**: it belongs to a family that the table of the cycle
allows, or it is fine, and then its intensity is the one of a clear sky, as it is or brought into
the range that is broadcast. -/
inductive Cycle.ByChance (c : Cycle) : Prop
  /-- Fine weather. -/
  | fine (kind : c.kind = .fine) (intensity : c.intensity = 0.0 ∨ c.intensity = minIntensity)
  /-- Weather of a family. -/
  | family (f : Family) (kind : c.kind = f.kind) {table : SeasonTable} (own : c.table = some table)
      (allowed : table.Allows f)

namespace Cycle.ByChance

variable {c : Cycle}

/-- Weather that is not fine belongs to a family whatever its intensity. -/
theorem withIntensity (h : c.ByChance) (unclear : c.kind ≠ .fine) (x : Float) :
    (c.withWeather c.kind x).ByChance := by
  cases h with
  | fine kind => exact absurd kind unclear
  | family f kind own allowed => exact .family f kind own allowed

theorem clamp (h : c.ByChance) : c.clamp.ByChance := by
  cases h with
  | fine kind intensity =>
    refine .fine kind (.inr ?_)
    rcases intensity with zero | least
    · rw [Cycle.clamp, zero]
      rfl
    · rw [Cycle.clamp, least]
      rfl
  | family f kind own allowed => exact .family f kind own allowed

/-- Fine weather gives way to weather that has a chance. -/
theorem select (h : c.ByChance) (clear : c.kind = .fine) {table : SeasonTable}
    (own : c.table = some table) (season : Season) {n : Int} (roll : 1 ≤ n) :
    ({ c with kind := (table.chances season).select n } : Cycle).ByChance := by
  rcases (table.chances season).select_cases n with selected | ⟨f, selected, chance⟩
  · cases h with
    | fine _ intensity => exact .fine selected intensity
    | family f kind => exact absurd (kind.symm.trans clear) f.kind_ne_fine
  · exact .family f selected own ⟨season, chance roll⟩

end Cycle.ByChance

/-- **All weather comes by chance**, and none may be forced. -/
def Climate.byChance : Climate where
  Admits := Cycle.ByChance
  Forced _ _ := False
  Rolled n := 1 ≤ n
  timer _ h := by
    cases h with
    | fine kind intensity => exact .fine kind intensity
    | family f kind own allowed => exact .family f kind own allowed
  fresh _ _ _ := .fine rfl (.inl rfl)
  clears _ := .fine rfl (.inl rfl)
  clamps h := h.clamp
  selects season h clear own roll := h.select clear own season roll
  settles h unclear _ := h.withIntensity unclear _
  changes h unclear _ := (h.withIntensity unclear _).clamp
  forces _ forced := forced.elim

theorem Climate.fed_byChance [RandomSource γ] (honest : RandomSource.Honest γ) : byChance.Fed γ :=
  fun g g' n drawn => (honest 1 100 g g' n drawn).1

/-! ### What is told -/

/-- Fog. No weather has this state. -/
def WeatherState.fog : WeatherState := ⟨1⟩

/-- A state that weather of some kind may have: that of fine weather, or one of its own family. -/
def WeatherState.Suits (s : WeatherState) (kind : WeatherKind) : Prop :=
  s = .fine ∨ ∃ (f : Family) (severity : Severity), kind = f.kind ∧ s = f.state severity

theorem Family.ofKind?_kind (f : Family) : ofKind? f.kind = some f := by
  cases f <;> decide

/-- Weather of a family is told by its state, unless there is little of it. -/
theorem classify_family (f : Family) (x : Float) :
    classify f.kind x = if x < fineBelow then .fine else f.state (.ofIntensity x) := by
  have plain : f.kind ≠ .blackrain ∧ f.kind ≠ .thunders := by cases f <;> decide
  rw [classify, if_neg plain.1, if_neg plain.2, f.ofKind?_kind]

/-- Weather that came by chance is told as what it is. -/
theorem Cycle.ByChance.suits {c : Cycle} (h : c.ByChance) : c.state.Suits c.kind := by
  rw [Cycle.state]
  cases h with
  | fine kind =>
    rw [kind]
    exact .inl (ite_self _)
  | family f kind =>
    rw [kind, classify_family]
    split
    · exact .inl rfl
    · exact .inr ⟨f, _, rfl, rfl⟩

/-- Such a state is none of those that no weather by chance has. -/
theorem WeatherState.Suits.ne {s : WeatherState} {kind : WeatherKind} (h : s.Suits kind) :
    s ≠ .fog ∧ s ≠ .thunders ∧ s ≠ .blackrain := by
  rcases h with rfl | ⟨f, severity, -, rfl⟩
  · decide
  · cases f <;> cases severity <;> decide

/-- The packet that an observer receives, or that is handed over. -/
def Event.packet? : Event → Option Packet
  | packet _ p | handed _ p _ => some p
  | _ => none

/-- Whatever holds of a clear sky and of all that was sent holds of all that is received. -/
theorem Event.ComesFrom.packet {ds : List Dispatch} {e : Event} (h : e.ComesFrom ds)
    {P : Packet → Prop} (fine : P .fine) (sent : ∀ d ∈ ds, P d.packet) {p : Packet}
    (told : e.packet? = some p) : P p := by
  cases e with
  | packet observer p' =>
    obtain rfl := Option.some.inj told
    rcases h with rfl | ⟨d, mem, rfl, -⟩
    · exact fine
    · exact sent d mem
  | handed zone p' reached =>
    obtain rfl := Option.some.inj told
    obtain ⟨d, mem, rfl, -⟩ := h
    exact sent d mem
  | _ => cases told

/-! ### Every run -/

/-- **What runs came by chance**, by the table of the very zone under which it runs. -/
def Scene.ByChance (s : Scene) : Prop :=
  ∀ e ∈ s.running,
    (e.2.kind = .fine ∧ (e.2.intensity = 0.0 ∨ e.2.intensity = Cycle.minIntensity)) ∨
      ∃ (f : Family) (table : SeasonTable),
        e.2.kind = f.kind ∧ s.manager.chances? e.1 = some table ∧ table.Allows f

theorem Scene.Under.allByChance {s : Scene} {first : Nat} (h : s.Under .byChance first) :
    s.ByChance := by
  intro e mem
  obtain ⟨⟨zone, id⟩, entered, rfl⟩ := List.mem_map.1 mem
  obtain ⟨new, made⟩ := h.live entered
  have came : (s.cycle id).ByChance := h.weather new made.known
  cases came with
  | fine kind intensity => exact .inl ⟨kind, intensity⟩
  | family f kind own allowed => exact .inr ⟨f, _, kind, made.table.symm.trans own, allowed⟩

/-- **Weather comes by chance, at every moment of every run** in which none is forced: whatever runs
is fine at the intensity of a clear sky, or belongs to a family to which the table of its zone gives
a chance in some season. What a cycle sends tells of fine weather or of a state of that family. So
nobody is told of fog, thunder or black rain. -/
theorem Run.byChance [RandomSource γ] (honest : RandomSource.Honest γ) {start w : World γ}
    (run : Run .byChance start w) (idle : start.manager.live = .empty) :
    ∃ ms ds, start.Adds ms w ∧ start.Sends ds w ∧ w.ByChance ∧
      (∀ m ∈ ms, m.scene.ByChance ∧ m.event.ComesFrom ds ∧ ∀ p, m.event.packet? = some p →
        p.state ≠ .fog ∧ p.state ≠ .thunders ∧ p.state ≠ .blackrain) ∧
      ∀ d ∈ ds, d.packet.state.Suits (d.scene.cycle d.sender).kind := by
  have prevails := run.prevails (Climate.fed_byChance honest) idle
  obtain ⟨ms, ds, adds, sends, moments, proper⟩ := prevails.record
  have suits : ∀ d ∈ ds, d.packet.state.Suits (d.scene.cycle d.sender).kind := by
    intro d mem
    have sent := proper d mem
    have came : (d.scene.cycle d.sender).ByChance := sent.under.weather sent.new sent.known
    rw [sent.packet]
    exact came.suits
  refine ⟨ms, ds, adds, sends, prevails.under.allByChance, fun m mem => ?_, suits⟩
  obtain ⟨under, comes⟩ := moments m mem
  refine ⟨under.allByChance, comes, fun p told => ?_⟩
  exact comes.packet (P := fun p => p.state ≠ .fog ∧ p.state ≠ .thunders ∧ p.state ≠ .blackrain)
    (by decide) (fun d sent => (suits d sent).ne) told

/-! ### A rainy zone -/

/-- A source that gives the integers that it was told to give, as long as they are in range, and one
half whenever a double is drawn. -/
structure Careful where
  /-- The integers that are left. -/
  integers : List Int

instance : RandomSource Careful where
  integer low high s :=
    match s.integers with
    | [] => .error .drawsExhausted s
    | n :: rest => if low ≤ n ∧ n ≤ high then .ok n ⟨rest⟩ else .error .drawsExhausted ⟨rest⟩
  normal _ _ := pure 0.5
  patience _ := 1

theorem honest_careful : RandomSource.Honest Careful := by
  intro low high s s' n drawn
  obtain ⟨integers⟩ := s
  cases integers with
  | nil => cases drawn
  | cons first rest =>
    simp only [RandomSource.integer] at drawn
    split at drawn
    next within =>
      obtain ⟨rfl, -⟩ : first = n ∧ _ = s' := by simpa using drawn
      exact within
    next => cases drawn

namespace TwoZones

/-- The weather of a zone will change radically as soon as it is started. -/
def dry : World Careful := idle ⟨[95, 100, 0]⟩

/-- Whoever is told of the weather stops that of the first zone. -/
def stoppingAtOnce {γ : Type} : Behaviour γ := fun call _ =>
  match call with
  | .packet .. => [{ command := .manager (.remove (.text "a")) }]
  | _ => []

/-- The world once somebody came into the second zone. -/
def wet : World Careful :=
  (Command.perform {} (Stage.react {} stoppingAtOnce 2) false
    (.manager (.observerEntered "walker" (.text "b")))).worldLeft dry

theorem run_wet : Run .byChance dry wet := by
  refine .command .nothing {} stoppingAtOnce ?_ 2 false trivial
  intro call w action mem
  cases call with
  | packet observer p =>
    obtain rfl := List.mem_singleton.1 mem
    trivial
  | _ => cases mem

theorem kinds_wet : wet.running.map (fun e => e.2.kind) = [.rain] := by decide +kernel

theorem states_wet : wet.sent.toList.map (fun d => d.packet.state) = [⟨4⟩] := by decide +kernel

end TwoZones

/-- Somebody comes into a zone where it may rain, and rain is what they are told of. -/
theorem Run.byChance_wet :
    RandomSource.Honest Careful ∧ Run .byChance TwoZones.dry TwoZones.wet ∧
      TwoZones.dry.manager.live = .empty ∧ TwoZones.wet.ByChance ∧
      TwoZones.wet.running.map (fun e => e.2.kind) = [.rain] ∧
      ∃ ds : List Dispatch, ds.map (·.packet.state) = [⟨4⟩] ∧
        ∀ d ∈ ds, d.packet.state.Suits (d.scene.cycle d.sender).kind := by
  have idle : TwoZones.dry.manager.live = .empty := rfl
  obtain ⟨ms, ds, -, sends, came, -, suits⟩ := Run.byChance honest_careful TwoZones.run_wet idle
  have sent : TwoZones.wet.sent.toList = ds := sends
  exact ⟨honest_careful, TwoZones.run_wet, idle, came, TwoZones.kinds_wet, ds,
    sent ▸ TwoZones.states_wet, suits⟩

end Microclimate
