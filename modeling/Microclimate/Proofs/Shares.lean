import Mathlib.Data.Int.Interval
import Microclimate.Proofs.Percentages
import Microclimate.Proofs.Selecting

/-!
# The share of each kind of weather

New weather is selected by one roll from 1 to 100, which is compared with the running sums of the
chances of rain, snow and storm. Nothing keeps the chances of a cycle from being negative, or from
adding up to more than a hundred, so the sums may run backwards or beyond the last roll. Then a kind
of weather gets what is left over by the kinds before it, which may be nothing.

The number of rolls that select a kind is counted here for **all** chances. Chances that were read
from rows are percentages, and with these every kind gets its chance, as far as the ones before it
leave any.

* `Microclimate.share_between` – how many rolls lie between two bounds;
* `Microclimate.Chances.counts` – **how many rolls select each kind**, whatever the chances are, and
  `Microclimate.Chances.ArePercent.counts`, if they are percentages;
* `Microclimate.CycleId.SelectsBy` – a roll of the weather comes to the selection, as fine weather
  does by `Microclimate.CycleId.selectsBy_of_fine`;
* `Microclimate.CycleId.regenerate_selects` – and leaves the kind that is selected;
* `Microclimate.CycleId.regenerate_shares` – **the share of each kind of weather.**
-/

namespace Microclimate

variable {γ : Type}

/-! ### Counting rolls -/

/-- A number brought into the range from 0 to 100. -/
def percent (n : Int) : Int := max 0 (min n 100)

@[simp] theorem percent_zero : percent 0 = 0 := rfl

@[simp] theorem percent_hundred : percent 100 = 100 := rfl

theorem percent_nonneg (n : Int) : 0 ≤ percent n := le_max_left ..

theorem percent_le (n : Int) : percent n ≤ 100 := max_le (by decide) (min_le_right ..)

theorem percent_max (m n : Int) : percent (max m n) = max (percent m) (percent n) := by
  unfold percent
  omega

/-- How many of the rolls from 1 to 100 have some property. -/
noncomputable def share (p : Int → Prop) [DecidablePred p] : Int :=
  ({r ∈ Finset.Icc (1 : Int) 100 | p r}).card

theorem share_congr {p q : Int → Prop} [DecidablePred p] [DecidablePred q]
    (same : ∀ r, 1 ≤ r → r ≤ 100 → (p r ↔ q r)) : share p = share q := by
  refine congrArg (fun s : Finset Int => (s.card : Int)) (Finset.filter_congr fun r mem => ?_)
  obtain ⟨least, most⟩ := Finset.mem_Icc.1 mem
  exact same r least most

/-- **How many rolls lie above one bound and not above another one.** -/
theorem share_between (low high : Int) :
    (share fun r => low < r ∧ r ≤ high) = max 0 (percent high - percent low) := by
  have interval : {r ∈ Finset.Icc (1 : Int) 100 | low < r ∧ r ≤ high} =
      Finset.Ioc (percent low) (percent high) := by
    ext r
    simp only [Finset.mem_filter, Finset.mem_Icc, Finset.mem_Ioc, percent]
    omega
  rw [share, interval, Int.card_Ioc, Int.toNat_eq_max, max_comm]

namespace Chances

variable (c : Chances)

/-- **Which rolls select a kind of weather.** -/
theorem select_eq_iff (r : Int) :
    (c.select r = .rain ↔ r ≤ c.rain) ∧
      (c.select r = .snow ↔ c.rain < r ∧ r ≤ c.rain + c.snow) ∧
      (c.select r = .storm ↔
        max c.rain (c.rain + c.snow) < r ∧ r ≤ c.rain + c.snow + c.storm) ∧
      (c.select r = .fine ↔
        max (max c.rain (c.rain + c.snow)) (c.rain + c.snow + c.storm) < r) := by
  rw [select]
  split_ifs <;>
    simp_all [WeatherKind.rain, WeatherKind.snow, WeatherKind.storm, WeatherKind.fine]

/-- How many of the rolls from 1 to 100 select a kind of weather. -/
noncomputable def count (kind : WeatherKind) : Int := share fun r => c.select r = kind

/-- The rolls between two bounds are those that select a kind. -/
theorem count_eq {kind : WeatherKind} {low high : Int}
    (between : ∀ r, 1 ≤ r → r ≤ 100 → (c.select r = kind ↔ low < r ∧ r ≤ high)) :
    c.count kind = max 0 (percent high - percent low) :=
  (share_congr between).trans (share_between low high)

/-- **How many rolls select each kind of weather**, whatever the chances are. -/
theorem counts :
    c.count .rain = percent c.rain ∧
      c.count .snow = max 0 (percent (c.rain + c.snow) - percent c.rain) ∧
      c.count .storm = max 0 (percent (c.rain + c.snow + c.storm) -
        max (percent c.rain) (percent (c.rain + c.snow))) ∧
      c.count .fine = 100 - (c.count .rain + c.count .snow + c.count .storm) := by
  have rain : c.count .rain = percent c.rain := by
    have between : c.count .rain = max 0 (_ - percent 0) := c.count_eq fun r least _ => by
      rw [(c.select_eq_iff r).1, and_iff_right (Int.lt_of_lt_of_le Int.one_pos least)]
    rw [between, percent_zero, sub_zero, max_eq_right (percent_nonneg _)]
  have snow := c.count_eq fun r _ _ => (c.select_eq_iff r).2.1
  have storm := c.count_eq fun r _ _ => (c.select_eq_iff r).2.2.1
  rw [percent_max] at storm
  refine ⟨rain, snow, storm, ?_⟩
  have fine : c.count .fine = max 0 (percent 100 - _) := c.count_eq fun r _ most => by
    rw [(c.select_eq_iff r).2.2.2, and_iff_left most]
  rw [fine, rain, snow, storm, percent_max, percent_max, percent_hundred]
  have := percent_nonneg c.rain
  have := percent_le c.rain
  have := percent_le (c.rain + c.snow)
  have := percent_le (c.rain + c.snow + c.storm)
  omega

end Chances

/-- **With percentages every kind gets its chance**, as far as those before it leave any. -/
theorem Chances.ArePercent.counts {c : Chances} (h : c.ArePercent) :
    c.count .rain = c.rain ∧ c.count .snow = min c.snow (100 - c.rain) ∧
      c.count .storm = min c.storm (max 0 (100 - c.rain - c.snow)) ∧
      (c.rain + c.snow + c.storm ≤ 100 → c.count .snow = c.snow ∧ c.count .storm = c.storm ∧
        c.count .fine = 100 - (c.rain + c.snow + c.storm)) := by
  obtain ⟨rain, snow, storm, fine⟩ := c.counts
  obtain ⟨⟨_, _⟩, ⟨_, _⟩, ⟨_, _⟩⟩ := h
  rw [fine, rain, snow, storm]
  simp only [percent]
  omega

/-! ### The share of each kind -/

variable [RandomSource γ]

namespace CycleId

variable {id : CycleId} {w : World γ}

/-- **A roll of the weather comes to the selection**: by the day, the chances are some given ones,
and some number from 1 to 100 is drawn. What happens later, and whether the roll returns, is left
open. -/
structure SelectsBy (id : CycleId) (w : World γ) (c : Chances) (r : Int) : Prop where
  known : id.number < w.cycles.size
  row : ∃ table day, (w.cycle id).table = some table ∧ w.clock.dayOfYear = .ok day ∧
    table.chances (.ofDay day) = c
  drawn : w.Draws 1 100 r (id.regenerate.worldLeft w)

/-- **The cycle is left with the kind that the number selects.** -/
theorem regenerate_selects {c : Chances} {r : Int} (h : id.SelectsBy w c r) :
    ((id.regenerate.worldLeft w).cycle id).kind = c.select r := by
  obtain ⟨table, day, made, clock, rfl⟩ := h.row
  obtain ⟨ms, adds, m, mem, drawn⟩ := h.drawn
  obtain ⟨ns, adds', picked⟩ := (regenerate_picks h.known made clock).worldLeft
  obtain rfl : ns = ms := List.append_cancel_left (adds'.symm.trans adds)
  exact picked m mem _ r drawn

/-- A selection draws the next number of the source. -/
theorem selectWeather_draws {r : Int} {g : γ}
    (next : RandomSource.integer 1 100 (w.source w.weatherOwner) = .ok r g) (chances : Chances)
    (radical : Bool) :
    (id.selectWeather chances radical).Ends w (fun _ w' => w.Draws 1 100 r w')
      fun _ w' => w.Draws 1 100 r w' := by
  have letsRoll := Contract.letsRoll_touching (γ := γ) id
  have become := become_keeps letsRoll
  have selected (n : Int) : (Sim.editCycle id fun c => { c with kind := chances.select n }).Keeps
      (.touching (γ := γ) Event.IsRoll id) := fun w => .editCycle w id fun _ => ⟨rfl, rfl, rfl⟩
  rw [selectWeather, Sim.ends_bind]
  refine (Sim.integer_of next).mono ?_ fun _ _ never => never.elim
  rintro n w₁ ⟨-, -, -, -, draws⟩
  refine (Sim.Keeps.bind (selected n) (fun _ => .ite (become _ _)
    (.bind (newIntensity_keeps letsRoll radical) fun _ => become _ _)) w₁).mono ?_ ?_
  · exact fun _ _ touched => draws.later (touched.moments.imp fun _ h => h.1)
  · exact fun _ _ touched => draws.later (touched.moments.imp fun _ h => h.1)

/-- **Fine weather comes to the selection** if the first number drawn is not too low, by the number
that the source gives next. -/
theorem selectsBy_of_fine (known : id.number < w.cycles.size) (fine : (w.cycle id).kind = .fine)
    {table : SeasonTable} {day : Int} (made : (w.cycle id).table = some table)
    (clock : w.clock.dayOfYear = .ok day) {roll r : Int} {g g' : γ}
    (first : RandomSource.integer 0 99 (w.source w.weatherOwner) = .ok roll g) (enough : 30 ≤ roll)
    (second : RandomSource.integer 1 100 g = .ok r g') :
    id.SelectsBy w (table.chances (.ofDay day)) r := by
  have rolling : id.regenerate.Ends w (fun _ w' => w.Draws 1 100 r w')
      fun _ w' => w.Draws 1 100 r w' := by
    rw [ends_regenerate made]
    refine (Sim.integer_of first).mono ?_ fun _ _ never => never.elim
    rintro _ w₁ ⟨rfl, scene, owner, source, ms, adds, -⟩
    rw [if_neg (Int.not_lt.2 enough), Sim.ends_dayOfYear, scene, clock]
    have noted := adds.trans (.emit w₁ (.logged (.generating (.ofDay day) (w.cycle id).zone)))
    refine (changeWeather_fine (w := w₁.emit _) (scene ▸ known) (scene ▸ fine) _).mono ?_
      fun _ _ never => never.elim
    rintro _ w₂ ⟨rfl, same⟩
    rw [if_neg Bool.false_ne_true]
    -- nothing has been drawn between the two numbers
    have still : w₂.source w₂.weatherOwner = w₁.source w₁.weatherOwner := by
      rcases same with rfl | rfl <;> rfl
    have shared : w₂.weatherOwner = w.weatherOwner := by
      rw [← owner]
      rcases same with rfl | rfl <;> rfl
    have begun := noted.trans (.nothing (show w₂.history = _ by rcases same with rfl | rfl <;> rfl))
    rw [owner, source] at still
    exact (selectWeather_draws (still ▸ second) _ _).mono
      (fun _ _ draws => draws.earlier begun shared) fun _ _ draws => draws.earlier begun shared
  exact ⟨known, ⟨table, day, made, clock, rfl⟩, rolling.worldLeft⟩

/-- How many of the rolls from 1 to 100 leave a cycle with some kind of weather, where for each roll
the weather changes in a world of its own. -/
noncomputable def tally (id : CycleId) (worlds : Int → World γ) (kind : WeatherKind) : Int :=
  share fun r => ((id.regenerate.worldLeft (worlds r)).cycle id).kind = kind

theorem tally_eq {worlds : Int → World γ} {c : Chances}
    (reached : ∀ r, 1 ≤ r → r ≤ 100 → id.SelectsBy (worlds r) c r) (kind : WeatherKind) :
    id.tally worlds kind = c.count kind :=
  share_congr fun r least most => by rw [regenerate_selects (reached r least most)]

/-- **The share of each kind of weather.** Let a cycle come to the selection by the same chances
whatever number from 1 to 100 is drawn for it. The chances need not be percentages. Then rain is
left by as many numbers as its chance says, brought into the range from 0 to 100; snow and storm by
as many as their chances add to what was given away before, and fine weather by the others. With
chances that were read, each kind gets its chance as far as those before it leave any, which is
exactly its chance if they do not add up to more than a hundred. -/
theorem regenerate_shares {worlds : Int → World γ} {c : Chances}
    (reached : ∀ r, 1 ≤ r → r ≤ 100 → id.SelectsBy (worlds r) c r) :
    (id.tally worlds .rain = percent c.rain ∧
      id.tally worlds .snow = max 0 (percent (c.rain + c.snow) - percent c.rain) ∧
      id.tally worlds .storm = max 0 (percent (c.rain + c.snow + c.storm) -
        max (percent c.rain) (percent (c.rain + c.snow))) ∧
      id.tally worlds .fine =
        100 - (id.tally worlds .rain + id.tally worlds .snow + id.tally worlds .storm)) ∧
    ∀ (table : SeasonTable) (s : Season), table.IsRead → table.chances s = c →
      c.ArePercent ∧ id.tally worlds .rain = c.rain ∧
      id.tally worlds .snow = min c.snow (100 - c.rain) ∧
      id.tally worlds .storm = min c.storm (max 0 (100 - c.rain - c.snow)) ∧
      (c.rain + c.snow + c.storm ≤ 100 →
        id.tally worlds .snow = c.snow ∧ id.tally worlds .storm = c.storm ∧
          id.tally worlds .fine = 100 - (c.rain + c.snow + c.storm)) := by
  simp only [tally_eq reached]
  refine ⟨c.counts, ?_⟩
  rintro table s read rfl
  exact ⟨read.arePercent s, (read.arePercent s).counts⟩

end CycleId

/-! ### A zone with too many chances -/

namespace Sodden

/-- Chances that add up to more than a hundred. -/
def chances : Chances := ⟨60, 70, 20⟩

/-- These chances all the year round, in a row. -/
def row : Value :=
  .dict ((.text "zone", .text "a") :: Season.all.flatMap fun s =>
    [(.text (Column.mk s .rain).name, .int 60), (.text (Column.mk s .snow).name, .int 70),
      (.text (Column.mk s .storm).name, .int 20)])

/-- The chances that are read from the row. -/
def table : SeasonTable := ⟨chances, chances, chances, chances⟩

theorem isRead_table : table.IsRead :=
  @SeasonTable.IsRead.row table row #[] #[] rfl

/-- Fine weather that is rolled by a script: the weather is to get better, so that new weather is
selected by some number. -/
def before (r : Int) : World Script :=
  { random := { integers := [40, r], normals := [0.5] }
    engine := { tps_pos := standardTps_pos, random := {} }
    clock := .fixed 100
    cycles := #[{ zone := .text "a", table := some table, timer := { interval := 600000 } }] }

theorem selectsBy (r : Int) : CycleId.SelectsBy ⟨0⟩ (before r) chances r :=
  @CycleId.selectsBy_of_fine Script _ ⟨0⟩ (before r) Nat.one_pos rfl table 100 rfl rfl 40 r _ _ rfl
    (by decide) rfl

end Sodden

/-- It rains for sixty numbers and snows for all others, so that nothing is left for a storm. -/
theorem CycleId.regenerate_shares_sodden :
    (∀ r, 1 ≤ r → r ≤ 100 → SelectsBy ⟨0⟩ (Sodden.before r) Sodden.chances r) ∧
      Sodden.table.IsRead ∧ Sodden.table.chances .spring = Sodden.chances ∧
      tally ⟨0⟩ Sodden.before .rain = 60 ∧ tally ⟨0⟩ Sodden.before .snow = 40 ∧
      tally ⟨0⟩ Sodden.before .storm = 0 ∧ tally ⟨0⟩ Sodden.before .fine = 0 := by
  have reached : ∀ r, 1 ≤ r → r ≤ 100 → SelectsBy ⟨0⟩ (Sodden.before r) Sodden.chances r :=
    fun r _ _ => Sodden.selectsBy r
  obtain ⟨⟨-, -, -, fine⟩, read⟩ := regenerate_shares reached
  obtain ⟨-, rain, snow, storm, -⟩ := read Sodden.table .spring Sodden.isRead_table rfl
  rw [rain, snow, storm] at fine
  exact ⟨reached, Sodden.isRead_table, rfl, rain, snow, storm, fine⟩

end Microclimate
