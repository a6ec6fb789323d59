import Microclimate.Proofs.Intensities
import Microclimate.Proofs.Rolling
import Microclimate.Random.Script

/-!
# The decision table of the weather

What a roll of the weather makes of a cycle can be read off a table, and so can the numbers that are
drawn for it. A first number decides whether anything is tried. From there on the present weather is
**altered**: it keeps its kind at another intensity, or it has to go. For weather that has to go new
weather is **selected** by the chances of the season.

The program gets there in another way. It sets the weather to fine while it is still deciding, and
what it asks later on depends on what was set. None of that is left in the table.

* `Microclimate.HalfNormal.Drawn` – doubles that are drawn until one is accepted;
* `Microclimate.Cycle.Alters` – what becomes of the present weather;
* `Microclimate.Chances.Selects` – the selection of new weather;
* `Microclimate.Cycle.Decides` – **the table**, with the events that lead to each row, and
  `Microclimate.Cycle.Decides.unique`;
* `Microclimate.World.Rolls` – how far a roll has got;
* `Microclimate.CycleId.regenerate_decides` – every roll goes by the table.
-/

namespace Microclimate

variable {γ : Type}

/-! ### The table -/

/-- **An intensity is drawn**: normally distributed doubles are drawn until one lies less than 1
from zero, and its distance from zero is the intensity. -/
inductive HalfNormal.Drawn (o : Owner) : List Event → Float → Prop
  /-- A double is accepted. -/
  | accepted {x : Float} (near : x.abs < 1.0) : Drawn o [.normalDrawn o 0.0 spread (some x)] x.abs
  /-- A double is rejected. -/
  | rejected {x y : Float} {es : List Event} (far : ¬x.abs < 1.0) (rest : Drawn o es y) :
      Drawn o (.normalDrawn o 0.0 spread (some x) :: es) y

/-- **What becomes of the present weather** once a first number `u` of at least 30 was drawn: its
kind has another intensity, or, with `none`, it has to go. -/
inductive Cycle.Alters (c : Cycle) (o : Owner) (u : Int) : List Event → Option Float → Prop
  /-- Fine weather gives way. -/
  | gives (fine : c.kind = .fine) : Alters c o u [] none
  /-- Light weather clears up. -/
  | clears (wet : c.kind ≠ .fine) (better : u < 60) (light : c.intensity < third) :
      Alters c o u [] none
  /-- Other weather improves. -/
  | improves (wet : c.kind ≠ .fine) (better : u < 60) (enough : third ≤ c.intensity) :
      Alters c o u [] (some (c.intensity - third))
  /-- Weather gets worse. -/
  | worsens (wet : c.kind ≠ .fine) (worse : 60 ≤ u ∧ u < 90) :
      Alters c o u [] (some (c.intensity + third))
  /-- Light weather becomes as heavy as can be. -/
  | peaks (wet : c.kind ≠ .fine) (radical : 90 ≤ u) (light : c.intensity < third) :
      Alters c o u [] (some Cycle.maxIntensity)
  /-- Medium weather breaks up. -/
  | breaks (wet : c.kind ≠ .fine) (radical : 90 ≤ u)
      (medium : third ≤ c.intensity ∧ c.intensity ≤ twoThirds) : Alters c o u [] none
  /-- Heavy weather becomes light if a second number is less than 50. -/
  | eases (wet : c.kind ≠ .fine) (radical : 90 ≤ u) (heavy : twoThirds < c.intensity) {h : Int}
      (half : h < 50) :
      Alters c o u [.integerDrawn o 0 99 (some h)] (some (c.intensity - twoThirds))
  /-- Otherwise it has to go. -/
  | ends (wet : c.kind ≠ .fine) (radical : 90 ≤ u) (heavy : twoThirds < c.intensity) {h : Int}
      (half : 50 ≤ h) : Alters c o u [.integerDrawn o 0 99 (some h)] none

/-- **The intensity of new weather** lies in the lowest third, or in one of the two others if the
first number was at least 90. -/
inductive HalfNormal.Graded (o : Owner) (u : Int) : List Event → Float → Prop
  /-- It lies in the lowest third. -/
  | light {x : Float} {es : List Event} (mild : u < 90) (drawn : Drawn o es x) :
      Graded o u es (x * third)
  /-- It lies in the middle third. -/
  | medium {v : Int} {x : Float} {es : List Event} (radical : 90 ≤ u) (half : v < 50)
      (drawn : Drawn o es x) :
      Graded o u (.integerDrawn o 0 99 (some v) :: es) (x * third + third)
  /-- It lies in the highest third. -/
  | heavy {v : Int} {x : Float} {es : List Event} (radical : 90 ≤ u) (half : 50 ≤ v)
      (drawn : Drawn o es x) :
      Graded o u (.integerDrawn o 0 99 (some v) :: es) (x * third + twoThirds)

/-- **New weather is selected** by a number from 1 to 100. -/
inductive Chances.Selects (chances : Chances) (o : Owner) (u : Int) :
    List Event → WeatherKind → Float → Prop
  /-- It is fine. -/
  | fine {r : Int} (fine : chances.select r = .fine) :
      Selects chances o u [.integerDrawn o 1 100 (some r)] .fine 0.0
  /-- It has an intensity. -/
  | wet {r : Int} {x : Float} {es : List Event} (wet : chances.select r ≠ .fine)
      (graded : HalfNormal.Graded o u es x) :
      Selects chances o u (.integerDrawn o 1 100 (some r) :: es) (chances.select r) x

/-- **The decision table**: by what is drawn, the kind and the intensity that a cycle has after a
roll of the weather, and what the roll reports. The season is that of the day that the clock shows.
-/
inductive Cycle.Decides (c : Cycle) (table : SeasonTable) (clock : Clock) (o : Owner) :
    List Event → WeatherKind → Float → Bool → Prop
  /-- Nothing is tried. -/
  | stays {u : Int} (calm : u < 30) :
      Decides c table clock o [.integerDrawn o 0 99 (some u)] c.kind c.intensity false
  /-- The kind of weather has another intensity. -/
  | alters {u day : Int} {es : List Event} {x : Float} (stirred : 30 ≤ u)
      (reads : clock.dayOfYear = .ok day) (altered : c.Alters o u es (some x)) :
      Decides c table clock o
        (.integerDrawn o 0 99 (some u) :: .logged (.generating (.ofDay day) c.zone) :: es)
        c.kind x true
  /-- There is new weather. -/
  | renews {u day : Int} {es fs : List Event} {kind : WeatherKind} {x : Float} (stirred : 30 ≤ u)
      (reads : clock.dayOfYear = .ok day) (gone : c.Alters o u es none)
      (selected : (table.chances (.ofDay day)).Selects o u fs kind x) :
      Decides c table clock o
        (.integerDrawn o 0 99 (some u) :: .logged (.generating (.ofDay day) c.zone) :: (es ++ fs))
        kind x (kind ≠ c.kind || x != c.intensity)

/-! ### The table leaves no choice -/

theorem HalfNormal.Drawn.unique {o : Owner} {es : List Event} {x y : Float} (h : Drawn o es x)
    (h' : Drawn o es y) : x = y := by
  induction h generalizing y with
  | accepted near =>
    cases h' with
    | accepted => rfl
    | rejected far rest => exact absurd near far
  | rejected far rest ih =>
    cases h' with
    | accepted near => exact absurd near far
    | rejected _ rest' => exact ih rest'

/-- Light weather is not heavy. -/
theorem not_twoThirds_lt {x : Float} (light : x < third) : ¬twoThirds < x := by
  intro heavy
  exact absurd (float_lt_trans heavy light) (by decide)

/-- A second number is asked for: heavy weather is to change radically. -/
def Cycle.AsksAgain (c : Cycle) (u : Int) : Prop :=
  c.kind ≠ .fine ∧ 90 ≤ u ∧ twoThirds < c.intensity

/-- The new intensity if no second number is asked for. -/
def Cycle.altered (c : Cycle) (u : Int) : Option Float :=
  if c.kind = .fine then none
  else if u < 60 then
    if c.intensity < third then none else some (c.intensity - third)
  else if u < 90 then some (c.intensity + third)
  else if c.intensity < third then some Cycle.maxIntensity else none

/-- The weather is altered at once or by a second number, and which of the two is no matter of
choice. -/
theorem Cycle.Alters.once_or_again {c : Cycle} {o : Owner} {u : Int} {es : List Event}
    {a : Option Float} (h : c.Alters o u es a) :
    (¬c.AsksAgain u ∧ es = [] ∧ a = c.altered u) ∨
      (c.AsksAgain u ∧ ∃ n, es = [.integerDrawn o 0 99 (some n)] ∧
        a = if n < 50 then some (c.intensity - twoThirds) else none) := by
  have calm {v : Int} (low : v < 90) : ¬c.AsksAgain v := fun again => by
    have radical := again.2.1
    omega
  cases h with
  | gives fine => exact .inl ⟨fun again => again.1 fine, rfl, (if_pos fine).symm⟩
  | clears wet better light =>
    exact .inl ⟨calm (by omega), rfl, by rw [altered, if_neg wet, if_pos better, if_pos light]⟩
  | improves wet better enough =>
    have notLight : ¬c.intensity < third := fun light => float_not_le_of_lt light enough
    exact .inl ⟨calm (by omega), rfl, by rw [altered, if_neg wet, if_pos better, if_neg notLight]⟩
  | worsens wet worse =>
    refine .inl ⟨calm worse.2, rfl, ?_⟩
    rw [altered, if_neg wet, if_neg (by omega), if_pos worse.2]
  | peaks wet radical light =>
    refine .inl ⟨fun again => not_twoThirds_lt light again.2.2, rfl, ?_⟩
    rw [altered, if_neg wet, if_neg (by omega), if_neg (by omega), if_pos light]
  | breaks wet radical medium =>
    have notLight : ¬c.intensity < third := fun light => float_not_le_of_lt light medium.1
    refine .inl ⟨fun again => float_not_le_of_lt again.2.2 medium.2, rfl, ?_⟩
    rw [altered, if_neg wet, if_neg (by omega), if_neg (by omega), if_neg notLight]
  | eases wet radical heavy half =>
    exact .inr ⟨⟨wet, radical, heavy⟩, _, rfl, (if_pos half).symm⟩
  | ends wet radical heavy half =>
    exact .inr ⟨⟨wet, radical, heavy⟩, _, rfl, (if_neg (Int.not_lt.2 half)).symm⟩

/-- The present weather and a first number leave one way only to alter the weather, up to a second
number. -/
theorem Cycle.Alters.unique {c : Cycle} {o : Owner} {u : Int} {es fs : List Event}
    {a b : Option Float} (h : c.Alters o u es a) (h' : c.Alters o u fs b) :
    es.length = fs.length ∧ (es = fs → a = b) := by
  rcases h.once_or_again with ⟨once, rfl, rfl⟩ | ⟨again, n, rfl, rfl⟩ <;>
    rcases h'.once_or_again with ⟨once', rfl, rfl⟩ | ⟨again', m, rfl, rfl⟩
  · exact ⟨rfl, fun _ => rfl⟩
  · exact absurd again' once
  · exact absurd again once'
  · refine ⟨rfl, fun same => ?_⟩
    obtain rfl : n = m := by simpa using same
    rfl

theorem HalfNormal.Graded.unique {o : Owner} {u : Int} {es : List Event} {x y : Float}
    (h : Graded o u es x) (h' : Graded o u es y) : x = y := by
  cases h with
  | light mild drawn =>
    cases h' with
    | light _ drawn' => rw [drawn.unique drawn']
    | medium radical | heavy radical => omega
  | medium radical half drawn =>
    cases h' with
    | light mild => omega
    | medium _ _ drawn' => rw [drawn.unique drawn']
    | heavy _ half' => omega
  | heavy radical half drawn =>
    cases h' with
    | light mild => omega
    | medium _ half' => omega
    | heavy _ _ drawn' => rw [drawn.unique drawn']

theorem Chances.Selects.unique {chances : Chances} {o : Owner} {u : Int} {es : List Event}
    {kind kind' : WeatherKind} {x x' : Float} (h : chances.Selects o u es kind x)
    (h' : chances.Selects o u es kind' x') : kind = kind' ∧ x = x' := by
  cases h with
  | fine fine =>
    cases h' with
    | fine => exact ⟨rfl, rfl⟩
    | wet wet => exact absurd fine wet
  | wet wet graded =>
    cases h' with
    | fine fine => exact absurd fine wet
    | wet _ graded' => exact ⟨rfl, graded.unique graded'⟩

theorem Chances.Selects.ne_nil {chances : Chances} {o : Owner} {u : Int} {es : List Event}
    {kind : WeatherKind} {x : Float} (h : chances.Selects o u es kind x) : es ≠ [] := by
  cases h <;> exact List.cons_ne_nil _ _

/-- Altering the weather and selecting new weather after it has gone take different draws. -/
theorem Cycle.Alters.not_renewed {c : Cycle} {o : Owner} {u : Int} {es fs gs : List Event}
    {chances : Chances} {a : Option Float} {kind : WeatherKind} {x : Float}
    (h : c.Alters o u es a) (gone : c.Alters o u fs none)
    (selected : chances.Selects o u gs kind x) : es ≠ fs ++ gs := by
  rintro rfl
  have length := (h.unique gone).1
  rw [List.length_append, Nat.add_eq_left, List.length_eq_zero_iff] at length
  exact selected.ne_nil length

/-- **The table leaves no choice**: what is drawn, and on which day, settles the weather and the
report. -/
theorem Cycle.Decides.unique {c : Cycle} {table : SeasonTable} {clock : Clock} {o : Owner}
    {es fs : List Event} {kind kind' : WeatherKind} {x x' : Float} {b b' : Bool}
    (h : c.Decides table clock o es kind x b) (h' : c.Decides table clock o fs kind' x' b')
    (same : es = fs) : kind = kind' ∧ x = x' ∧ b = b' := by
  cases h with
  | stays calm =>
    cases h' with
    | stays => exact ⟨rfl, rfl, rfl⟩
    | alters | renews => simp at same
  | alters stirred reads altered =>
    cases h' with
    | stays => simp at same
    | alters _ _ altered' =>
      simp only [List.cons.injEq, Event.integerDrawn.injEq, Option.some.injEq, true_and] at same
      obtain ⟨rfl, -, same⟩ := same
      obtain rfl := Option.some.inj ((altered.unique altered').2 same)
      exact ⟨rfl, rfl, rfl⟩
    | renews _ _ gone selected =>
      simp only [List.cons.injEq, Event.integerDrawn.injEq, Option.some.injEq, true_and] at same
      obtain ⟨rfl, -, same⟩ := same
      exact absurd same (altered.not_renewed gone selected)
  | renews stirred reads gone selected =>
    cases h' with
    | stays => simp at same
    | alters _ _ altered =>
      simp only [List.cons.injEq, Event.integerDrawn.injEq, Option.some.injEq, true_and] at same
      obtain ⟨rfl, -, same⟩ := same
      exact absurd same.symm (altered.not_renewed gone selected)
    | renews _ reads' gone' selected' =>
      simp only [List.cons.injEq, Event.integerDrawn.injEq, Option.some.injEq, true_and] at same
      obtain ⟨rfl, -, same⟩ := same
      obtain rfl := Except.ok.inj (reads.symm.trans reads')
      obtain ⟨-, same⟩ := List.append_inj same (gone.unique gone').1
      obtain ⟨rfl, rfl⟩ := selected.unique (same ▸ selected')
      exact ⟨rfl, rfl, rfl⟩

/-! ### How far a roll has got -/

/-- **A roll of the weather of a cycle has got from one world to another**, by some events, and the
cycle is now `c`. -/
structure World.Rolls (id : CycleId) (w : World γ) (es : List Event) (c : Cycle) (w' : World γ) :
    Prop where
  events : w'.events.toList = w.events.toList ++ es
  owner : w'.weatherOwner = w.weatherOwner
  clock : w'.clock = w.clock
  known : id.number < w'.cycles.size
  cycle : w'.cycle id = c

namespace World.Rolls

variable {id : CycleId} {w w' : World γ} {c : Cycle} {es : List Event}

theorem start (known : id.number < w.cycles.size) : w.Rolls id [] (w.cycle id) w :=
  ⟨by simp, rfl, rfl, known, rfl⟩

theorem trans {a b v : World γ} {fs : List Event} {d : Cycle} (h : a.Rolls id es c b)
    (h' : b.Rolls id fs d v) : a.Rolls id (es ++ fs) d v where
  events := by rw [h'.events, h.events, List.append_assoc]
  owner := h'.owner.trans h.owner
  clock := h'.clock.trans h.clock
  known := h'.known
  cycle := h'.cycle

theorem emit (h : w.Rolls id es c w') (e : Event) : w.Rolls id (es ++ [e]) c (w'.emit e) where
  events := by
    rw [← List.append_assoc, ← h.events]
    simp [World.events]
  owner := h.owner
  clock := h.clock
  known := h.known
  cycle := h.cycle

theorem edit (h : w.Rolls id es c w') (f : Cycle → Cycle) :
    w.Rolls id es (f c) (w'.editCycle id f) where
  events := h.events
  owner := h.owner
  clock := h.clock
  known := by simpa using h.known
  cycle := by rw [w'.cycle_editCycle h.known, h.cycle]

/-- Kind and intensity are set. -/
theorem become (h : w.Rolls id es c w') (kind : WeatherKind) (x : Float) :
    w.Rolls id es (c.withWeather kind x) (w'.editCycle id (·.withWeather kind x)) :=
  h.edit (·.withWeather kind x)

/-- The source is replaced when something is drawn. -/
theorem setSource (known : id.number < w.cycles.size) (owner : Owner) (g : γ) :
    w.Rolls id [] (w.cycle id) (w.setSource owner g) := by
  cases owner <;> exact ⟨by simp [World.events], rfl, rfl, known, rfl⟩

end World.Rolls

/-- **A drawing of an intensity fails**: the source refuses a double, or all that may be rejected
are. -/
inductive HalfNormal.Fails (o : Owner) : Nat → List Event → Fault → Prop
  /-- No more doubles may be rejected. -/
  | unending : Fails o 0 [] .drawsUnending
  /-- A double is refused. -/
  | refused {tries : Nat} {f : Fault} : Fails o (tries + 1) [.normalDrawn o 0.0 spread none] f
  /-- A double is rejected. -/
  | rejected {tries : Nat} {x : Float} {es : List Event} {f : Fault} (far : ¬x.abs < 1.0)
      (rest : Fails o tries es f) :
      Fails o (tries + 1) (.normalDrawn o 0.0 spread (some x) :: es) f

variable [RandomSource γ]

/-- **A roll stops short at a draw**: the source refuses a number, or the drawing of an intensity
fails. -/
def World.StopsShort (w w' : World γ) (f : Fault) : Prop :=
  ∃ before late, w'.events.toList = w.events.toList ++ (before ++ late) ∧
    ((∃ low high, late = [.integerDrawn w.weatherOwner low high none]) ∨
      ∃ g : γ, HalfNormal.Fails w.weatherOwner (RandomSource.patience g) late f)

theorem World.Rolls.stopsShort {id : CycleId} {a b v : World γ} {es : List Event} {c : Cycle}
    {f : Fault} (h : a.Rolls id es c b) (short : b.StopsShort v f) : a.StopsShort v f := by
  obtain ⟨before, late, events, fails⟩ := short
  refine ⟨es ++ before, late, ?_, h.owner ▸ fails⟩
  rw [events, h.events, List.append_assoc, List.append_assoc]

/-! ### Draws -/

section Draws

variable {id : CycleId} {w : World γ}

omit [RandomSource γ] in
theorem Sim.draw_rolls (known : id.number < w.cycles.size) {α : Type} (owner : Owner)
    (d : EStateM Fault γ α) (event : Option α → Event) :
    (draw owner d event).Ends w (fun a w' => w.Rolls id [event (some a)] (w.cycle id) w')
      fun _ w' => w.Rolls id [event none] (w.cycle id) w' := by
  rw [ends_draw]
  cases d (w.source owner) with
  | ok a g => exact (World.Rolls.setSource known owner g).emit _
  | error f g => exact (World.Rolls.setSource known owner g).emit _

theorem Sim.integer_rolls (known : id.number < w.cycles.size) (low high : Int) :
    (integer low high).Ends w
      (fun n w' => w.Rolls id [.integerDrawn w.weatherOwner low high (some n)] (w.cycle id) w')
      fun f w' => w.StopsShort w' f := by
  rw [integer, ends_bind, ends_get]
  refine (draw_rolls known _ _ _).mono (fun _ _ drawn => drawn) fun f w' refused => ?_
  exact ⟨[], _, refused.events, .inl ⟨low, high, rfl⟩⟩

theorem HalfNormal.drawWithin_rolls (tries : Nat) (known : id.number < w.cycles.size) :
    (drawWithin tries).Ends w
      (fun x w' => ∃ es, Drawn w.weatherOwner es x ∧ w.Rolls id es (w.cycle id) w')
      fun f w' => ∃ es, Fails w.weatherOwner tries es f ∧ w.Rolls id es (w.cycle id) w' := by
  induction tries generalizing w with
  | zero => exact ⟨[], .unending, .start known⟩
  | succ tries ih =>
    rw [drawWithin, Sim.ends_bind, Sim.normal, Sim.ends_bind, Sim.ends_get]
    refine (Sim.draw_rolls known _ _ _).mono (fun x w₁ drawn => ?_) fun f w' refused =>
      ⟨_, .refused, refused⟩
    rw [Sim.ends_ite]
    split
    next near => exact ⟨_, .accepted near, drawn⟩
    next far =>
      have more := ih drawn.known
      rw [drawn.owner, drawn.cycle] at more
      refine more.mono ?_ ?_
      · rintro y w' ⟨es, rest, rolls⟩
        exact ⟨_, .rejected far rest, drawn.trans rolls⟩
      · rintro f w' ⟨es, rest, rolls⟩
        exact ⟨_, .rejected far rest, drawn.trans rolls⟩

theorem HalfNormal.draw_rolls (known : id.number < w.cycles.size) :
    draw.Ends w (fun x w' => ∃ es, Drawn w.weatherOwner es x ∧ w.Rolls id es (w.cycle id) w')
      fun f w' => w.StopsShort w' f := by
  rw [draw, Sim.ends_bind, Sim.patience, Sim.ends_bind, Sim.ends_get, Sim.ends_pure]
  refine (drawWithin_rolls _ known).mono (fun _ _ drawn => drawn) ?_
  rintro f w' ⟨es, fails, rolls⟩
  exact ⟨[], es, rolls.events, .inr ⟨_, fails⟩⟩

end Draws

/-! ### Every roll goes by the table -/

namespace CycleId

variable {id : CycleId} {w : World γ}

theorem newIntensity_graded (known : id.number < w.cycles.size) (u : Int) :
    (newIntensity (90 ≤ u)).Ends w
      (fun x w' => ∃ es, HalfNormal.Graded w.weatherOwner u es x ∧ w.Rolls id es (w.cycle id) w')
      fun f w' => w.StopsShort w' f := by
  rw [newIntensity, Sim.ends_ite]
  split
  next mild =>
    rw [Sim.ends_bind]
    refine (HalfNormal.draw_rolls known).mono ?_ fun _ _ short => short
    rintro x w' ⟨es, drawn, rolls⟩
    exact ⟨es, .light (by simpa using mild) drawn, rolls⟩
  next radical =>
    replace radical : 90 ≤ u := by simpa using radical
    rw [Sim.ends_bind]
    refine (Sim.integer_rolls known 0 99).mono (fun v w₁ rolled => ?_) fun _ _ short => short
    have drawing := HalfNormal.draw_rolls rolled.known
    rw [rolled.owner, rolled.cycle] at drawing
    rw [Sim.ends_ite, Sim.ends_bind, Sim.ends_bind]
    split
    next half =>
      refine drawing.mono ?_ fun _ _ => rolled.stopsShort
      rintro x w' ⟨es, drawn, rolls⟩
      exact ⟨_, .medium radical half drawn, rolled.trans rolls⟩
    next half =>
      refine drawing.mono ?_ fun _ _ => rolled.stopsShort
      rintro x w' ⟨es, drawn, rolls⟩
      exact ⟨_, .heavy radical (Int.not_lt.1 half) drawn, rolled.trans rolls⟩

theorem selectWeather_goes (known : id.number < w.cycles.size) (chances : Chances) (u : Int) :
    (id.selectWeather chances (90 ≤ u)).Ends w
      (fun _ w' => ∃ es kind x, chances.Selects w.weatherOwner u es kind x ∧
        w.Rolls id es ((w.cycle id).withWeather kind x) w')
      fun f w' => w.StopsShort w' f := by
  rw [selectWeather, Sim.ends_bind]
  refine (Sim.integer_rolls known 1 100).mono (fun r w₁ rolled => ?_) fun _ _ short => short
  have noted := rolled.edit fun c => { c with kind := chances.select r }
  rw [Sim.ends_bind, Sim.ends_editCycle, Sim.ends_ite]
  generalize w₁.editCycle id (fun c => { c with kind := chances.select r }) = w₂ at noted ⊢
  split
  next fine =>
    rw [become, Sim.ends_editCycle, fine]
    exact ⟨_, _, _, .fine fine, noted.become _ _⟩
  next wet =>
    have grading := newIntensity_graded noted.known u
    rw [noted.owner, noted.cycle] at grading
    rw [Sim.ends_bind]
    refine grading.mono ?_ fun _ _ => noted.stopsShort
    rintro x w' ⟨es, graded, rolls⟩
    rw [become, Sim.ends_editCycle]
    exact ⟨_, _, _, .wet wet graded, (noted.trans rolls).become _ _⟩

/-- How far a roll has got once the present weather is altered: it has another intensity, or it has
to go, and then it may have been set to fine. -/
def Altered (id : CycleId) (w : World γ) (u : Int) (done : Bool) (w' : World γ) : Prop :=
  ∃ es, if done then
      ∃ x, (w.cycle id).Alters w.weatherOwner u es (some x) ∧
        w.Rolls id es ((w.cycle id).withWeather (w.cycle id).kind x) w'
    else
      (w.cycle id).Alters w.weatherOwner u es none ∧
        ∃ kind x, w.Rolls id es ((w.cycle id).withWeather kind x) w'

theorem changeRadically_alters (known : id.number < w.cycles.size)
    (wet : (w.cycle id).kind ≠ .fine) (number : IsNumber (w.cycle id).intensity) {u : Int}
    (radical : 90 ≤ u) :
    (id.changeRadically (w.cycle id)).Ends w (id.Altered w u) fun f w' => w.StopsShort w' f := by
  have now := World.Rolls.start known
  rw [changeRadically, Sim.ends_ite, Sim.ends_ite]
  split
  next light =>
    rw [Sim.ends_bind, become, Sim.ends_editCycle]
    exact ⟨[], _, .peaks wet radical light, now.become _ _⟩
  next notLight =>
    split
    next heavy =>
      rw [Sim.ends_bind]
      refine (Sim.integer_rolls known 0 99).mono (fun h w₁ rolled => ?_) fun _ _ short => short
      rw [Sim.ends_ite]
      split
      next half =>
        rw [Sim.ends_bind, become, Sim.ends_editCycle]
        exact ⟨_, _, .eases wet radical heavy half, rolled.become _ _⟩
      next half => exact ⟨_, .ends wet radical heavy (Int.not_lt.1 half), _, _, rolled⟩
    next notHeavy =>
      have medium := And.intro ((number.not_lt_iff_le value_third.1.isNumber).1 notLight)
        ((value_twoThirds.1.isNumber.not_lt_iff_le number).1 notHeavy)
      exact ⟨[], .breaks wet radical medium, _, _, now⟩

theorem changeWeather_alters (known : id.number < w.cycles.size)
    (number : IsNumber (w.cycle id).intensity) (u : Int) :
    (id.changeWeather u).Ends w (id.Altered w u) fun f w' => w.StopsShort w' f := by
  have now := World.Rolls.start known
  rw [changeWeather, Sim.ends_bind, Sim.ends_cycle, Sim.ends_ite]
  split
  next clearing =>
    obtain ⟨better, light⟩ : u < 60 ∧ (w.cycle id).intensity < third := by simpa using clearing
    have set := now.become .fine 0.0
    rw [Sim.ends_bind, become, Sim.ends_editCycle, Sim.ends_bind, Sim.ends_cycle, set.cycle]
    change id.Altered w u false _
    by_cases fine : (w.cycle id).kind = .fine
    · exact ⟨[], .gives fine, _, _, set⟩
    · exact ⟨[], .clears fine better light, _, _, set⟩
  next notClearing =>
    rw [Sim.ends_bind, Sim.ends_cycle, Sim.ends_ite, Sim.ends_ite, Sim.ends_ite]
    split
    next fine => exact ⟨[], .gives fine, _, _, now⟩
    next wet =>
    split
    next better =>
      have enough : ¬(w.cycle id).intensity < third := by simpa [better] using notClearing
      rw [Sim.ends_bind, become, Sim.ends_editCycle]
      replace enough := (number.not_lt_iff_le value_third.1.isNumber).1 enough
      exact ⟨[], _, .improves wet better enough, now.become _ _⟩
    next notBetter =>
    split
    next worse =>
      rw [Sim.ends_bind, become, Sim.ends_editCycle]
      exact ⟨[], _, .worsens wet ⟨Int.not_lt.1 notBetter, worse⟩, now.become _ _⟩
    next radical =>
      rw [Sim.ends_bind]
      refine (changeRadically_alters known wet number (Int.not_lt.1 radical)).mono
        (fun done w₁ altered => ?_) fun _ _ short => short
      cases done with
      | true => exact altered
      | false =>
        obtain ⟨es, gone, kind, x, rolls⟩ := altered
        rw [if_neg Bool.false_ne_true, Sim.ends_bind, become, Sim.ends_editCycle]
        exact ⟨es, gone, _, _, rolls.become _ _⟩

/-- **Every roll of the weather goes by the table**, and so does what it reports. -/
theorem regenerate_goes (known : id.number < w.cycles.size) {table : SeasonTable}
    (chances : (w.cycle id).table = some table) (number : IsNumber (w.cycle id).intensity) :
    id.regenerate.Ends w
      (fun changed w' => ∃ es kind x,
        (w.cycle id).Decides table w.clock w.weatherOwner es kind x changed ∧
          w.Rolls id es ((w.cycle id).withWeather kind x) w')
      fun f w' => w.clock.dayOfYear = .error f ∨ w.StopsShort w' f := by
  rw [ends_regenerate chances]
  refine (Sim.integer_rolls known 0 99).mono (fun u w₁ rolled => ?_) fun _ _ => .inr
  split
  next calm => exact ⟨_, _, _, .stays calm, rolled⟩
  next stirred =>
    rw [Sim.ends_dayOfYear, rolled.clock]
    cases reads : w.clock.dayOfYear with
    | error f => exact .inl rfl
    | ok day =>
      have noted := rolled.emit (.logged (.generating (.ofDay day) (w.cycle id).zone))
      dsimp only
      generalize w₁.emit _ = w₂ at noted ⊢
      have altering := changeWeather_alters noted.known (noted.cycle ▸ number) u
      refine altering.mono ?_ fun _ _ short => .inr (noted.stopsShort short)
      rintro done w₃ ⟨es, altered⟩
      rw [noted.owner, noted.cycle] at altered
      replace stirred := Int.not_lt.1 stirred
      cases done with
      | true =>
        obtain ⟨x, altered, rolls⟩ := altered
        exact ⟨_, _, _, .alters stirred reads altered, noted.trans rolls⟩
      | false =>
        obtain ⟨gone, kind, x, rolls⟩ := altered
        replace rolls := noted.trans rolls
        rw [if_neg Bool.false_ne_true]
        have selecting := selectWeather_goes rolls.known (table.chances (.ofDay day)) u
        rw [rolls.owner, rolls.cycle] at selecting
        refine selecting.mono ?_ fun _ _ short => .inr (rolls.stopsShort short)
        rintro _ w' ⟨fs, kind', x', selected, rolls'⟩
        replace rolls' := rolls.trans rolls'
        change w.Rolls id _ ((w.cycle id).withWeather kind' x') w' at rolls'
        rw [rolls'.cycle, Cycle.not_hasWeather_eq]
        refine ⟨_, kind', x', .renews stirred reads gone selected, ?_⟩
        simpa using rolls'

/-- **A roll of the weather is the decision table.** For every cycle that has chances and whose
intensity is a number, whatever is drawn: what happens is what leads to some row of the table, no
more and no less, and leads to no other one. The cycle has the weather of that row, the roll reports
what the row says, and nothing else is touched. It fails only if the clock shows no day, or at a
draw. -/
theorem regenerate_decides (known : id.number < w.cycles.size) {table : SeasonTable}
    (chances : (w.cycle id).table = some table) (number : IsNumber (w.cycle id).intensity) :
    id.regenerate.Ends w
      (fun changed w' => ∃ es kind x,
        (w.cycle id).Decides table w.clock w.weatherOwner es kind x changed ∧
          w'.events.toList = w.events.toList ++ es ∧
          (∀ kind' x' changed',
            (w.cycle id).Decides table w.clock w.weatherOwner es kind' x' changed' →
              kind' = kind ∧ x' = x ∧ changed' = changed) ∧
          w'.cycle id = (w.cycle id).withWeather kind x ∧ w.Touches Event.IsRoll id w')
      fun f w' => w.clock.dayOfYear = .error f ∨ w.StopsShort w' f := by
  refine ((regenerate_goes known chances number).and (id.regenerate_touches w)).mono ?_
    fun _ _ failed => failed.1
  rintro changed w' ⟨⟨es, kind, x, decided, rolls⟩, touched⟩
  exact ⟨es, kind, x, decided, rolls.events, fun _ _ _ other => other.unique decided rfl,
    rolls.cycle, touched⟩

end CycleId

namespace HeavyStorm

/-- It rains all year round. -/
def rainy : SeasonTable := ⟨{ rain := 100 }, { rain := 100 }, { rain := 100 }, { rain := 100 }⟩

/-- The storm has to go, and the first double that is drawn for the rain is too far from zero. -/
def source : Script := { integers := [95, 70, 1, 20], normals := [1.5, 0.5] }

/-- There is a heavy storm. -/
def before : World Script :=
  { random := source
    engine := { tps_pos := standardTps_pos, random := source }
    clock := .fixed 100
    cycles := #[{ zone := .text "a", table := some rainy, timer := { interval := 600000 },
                  kind := .storm, intensity := 0.75 }] }

/-- The world once the weather was rolled. -/
def after : World Script := (CycleId.regenerate ⟨0⟩).worldLeft before

theorem returns : (CycleId.regenerate ⟨0⟩).returns before = true := by decide

theorem after_eq : (CycleId.regenerate ⟨0⟩).worldLeft before = after := rfl

theorem size_before : before.events.size = 0 := by simp [World.events, before]

theorem size_after : after.events.size = 7 := by
  rw [World.events, Array.size_map]
  decide

theorem kind_after : (after.cycle ⟨0⟩).kind = .rain := by decide

end HeavyStorm

/-- The storm gives way to rain, after six draws. -/
theorem CycleId.regenerate_decides_storm :
    (0 < HeavyStorm.before.cycles.size ∧
      (HeavyStorm.before.cycle ⟨0⟩).table = some HeavyStorm.rainy ∧
      IsNumber (HeavyStorm.before.cycle ⟨0⟩).intensity) ∧
    ∃ es x changed, (HeavyStorm.before.cycle ⟨0⟩).Decides HeavyStorm.rainy (.fixed 100) .weather es
      .rain x changed ∧ es.length = 7 := by
  have number : IsNumber (HeavyStorm.before.cycle ⟨0⟩).intensity := by decide
  have decides := @regenerate_decides Script _ ⟨0⟩ HeavyStorm.before (by decide) _ rfl number
  obtain ⟨changed, run⟩ := Sim.ok_of_returns HeavyStorm.returns
  obtain ⟨es, kind, x, decided, events, -, cycle, -⟩ := decides.of_ok run
  obtain rfl : kind = .rain := (congrArg Cycle.kind cycle).symm.trans HeavyStorm.kind_after
  refine ⟨⟨by decide, rfl, number⟩, es, x, changed, decided, ?_⟩
  have length := congrArg List.length events
  rw [HeavyStorm.after_eq, List.length_append, Array.length_toList, Array.length_toList,
    HeavyStorm.size_after, HeavyStorm.size_before, Nat.zero_add] at length
  exact length.symm

end Microclimate
