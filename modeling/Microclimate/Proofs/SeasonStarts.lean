import Microclimate.Command.Perform
import Microclimate.Proofs.Dates
import Microclimate.Proofs.Outcome
import Microclimate.Random.Script

/-!
# Seasons start a day early

Spring is meant to start on the 20th of March, which is day number 78 of a common year; summer and
fall follow it after 91 days each, and the rest of the year is winter. The season of a day is found
by counting from the start of spring in the year before, taken to be 365 days earlier, in fours of
91 days. But four times 91 days are 364 days, and so **every season is entered one day early**:
spring on the 19th of March, day number 77.

A game clock is read here at any moment of any year that it can show, before and after 1970.

* `Microclimate.Season.intended` – the season that a day is meant to be in;
* `Microclimate.Season.ofDay_eq_intended` – **a day is in the season of the day after**;
* `Microclimate.Clock.dayOfSeconds_eq` – the day of the year at a moment;
* `Microclimate.ClockCommand.perform_season_early` – **the seasons by a game clock**, and the four
  days on which they are not those intended.
-/

namespace Microclimate

variable {γ : Type}

/-! ### The season of a day -/

namespace Season

/-- The season that a day of the year is meant to be in: spring from its start day on, then summer
and fall, each of the full length, and winter in the rest of the year. -/
def intended (day : Int) : Season :=
  if day < springStart then winter
  else if day < springStart + length then spring
  else if day < springStart + 2 * length then summer
  else if day < springStart + 3 * length then fall
  else winter

theorem intended_eq_iff (day : Int) :
    (intended day = spring ↔ 78 ≤ day ∧ day < 169) ∧
      (intended day = summer ↔ 169 ≤ day ∧ day < 260) ∧
      (intended day = fall ↔ 260 ≤ day ∧ day < 351) ∧
      (intended day = winter ↔ day < 78 ∨ 351 ≤ day) := by
  grind [intended, springStart, length]

/-- The days on which the season of the day after is another one. -/
theorem intended_succ_eq_iff (day : Int) :
    intended (day + 1) = intended day ↔ day ≠ 77 ∧ day ≠ 168 ∧ day ≠ 259 ∧ day ≠ 350 := by
  grind [intended, springStart, length]

/-- **A day is in the season that the day after is meant to be in.** -/
theorem ofDay_eq_intended {day : Int} (start : 0 ≤ day) (finish : day ≤ 365) :
    ofDay day = intended (day + 1) := by
  -- the seasons since the start of spring in the year before
  obtain ⟨n, past⟩ : ∃ n, n = (day - springStart + 365) / length := ⟨_, rfl⟩
  rw [ofDay, ← past]
  simp only [springStart, length] at past
  have range : n = 3 ∨ n = 4 ∨ n = 5 ∨ n = 6 ∨ n = 7 := by omega
  obtain ⟨spring, summer, fall, winter⟩ := intended_eq_iff (day + 1)
  rcases range with rfl | rfl | rfl | rfl | rfl
  · exact (winter.2 (by omega)).symm
  · exact (spring.2 (by omega)).symm
  · exact (summer.2 (by omega)).symm
  · exact (fall.2 (by omega)).symm
  · exact (winter.2 (by omega)).symm

end Season

/-! ### Reading a game clock -/

/-- **The day of the year at a moment** of a year that a clock can show. -/
theorem Clock.dayOfSeconds_eq {seconds : Int} {d : Calendar.Date}
    (on : Calendar.date (seconds / secondsPerDay) = d) (range : fits32 (d.year - 1900) = true) :
    dayOfSeconds seconds = .ok d.dayOfYear := by
  have fits : fits64 seconds = true := by
    obtain ⟨least, most, place⟩ := Calendar.date_eq_iff.1 on
    have longest := Calendar.daysIn_le d.year
    simp only [fits32, fits64, Bool.and_eq_true, decide_eq_true_eq, secondsPerDay,
      Calendar.firstDay, Calendar.epoch] at range place ⊢
    omega
  rw [dayOfSeconds, fits, on]
  simp [range]

/-- The day of the year by a clock that shows a moment. -/
theorem Clock.dayOfYear_running {time : Float} {q : Rat} {d : Calendar.Date}
    (exact : Exact.ofFloat time = .real q) (on : Calendar.date (q.floor / secondsPerDay) = d)
    (range : fits32 (d.year - 1900) = true) : (running time).dayOfYear = .ok d.dayOfYear := by
  rw [dayOfYear, exact]
  exact dayOfSeconds_eq on range

/-- A clock from which the day of the year can be read gives it away. -/
theorem Sim.dayOfYear_of_reads {w : World γ} {day : Int} (reads : w.clock.dayOfYear = .ok day) :
    (dayOfYear : Sim γ Int) w = .ok day w := by
  refine (Sim.get_bind _ w).trans ?_
  rw [reads]
  rfl

namespace ClockCommand

theorem time_of_shows {w : World γ} {time : Float} (shows : w.clock = .running time) :
    (perform.time : Sim γ Float) w = .ok time w := by
  refine (Sim.get_bind _ w).trans ?_
  rw [shows]
  rfl

/-- Whether a clock shows a time can be asked for without a change. -/
theorem discard_time {w : World γ} {time : Float} (shows : w.clock = .running time) :
    (discard perform.time : Sim γ PUnit) w = .ok ⟨⟩ w := by
  change EStateM.map _ _ w = _
  rw [EStateM.map, time_of_shows shows]

theorem perform_day_of_reads (now : Float) {w : World γ} {day : Int}
    (reads : w.clock.dayOfYear = .ok day) : perform now .day w = .ok (.number day) w :=
  (Sim.bind_of_ok (Sim.dayOfYear_of_reads reads)).trans rfl

theorem perform_season_of_reads (now : Float) {w : World γ} {time : Float} {day : Int}
    (shows : w.clock = .running time) (reads : w.clock.dayOfYear = .ok day) :
    perform now .season w = .ok (.season (Season.ofDay day)) w := by
  refine (Sim.bind_of_ok (discard_time shows)).trans ?_
  exact (Sim.bind_of_ok (Sim.dayOfYear_of_reads reads)).trans rfl

/-- **The seasons by a game clock** at any moment: each season is entered a day before the day on
which it is meant to start. -/
theorem perform_season_early (now : Float) {w : World γ} {time : Float} {q : Rat}
    {year day second : Int} (shows : w.clock = .running time) (exact : Exact.ofFloat time = .real q)
    (moment : q.floor = (Calendar.firstDay year + day) * Clock.secondsPerDay + second)
    (start : 0 ≤ day) (finish : day < Calendar.daysIn year) (hs : 0 ≤ second)
    (hs' : second < Clock.secondsPerDay) (range : Clock.fits32 (year - 1900) = true) :
    ∃ s, perform now .day w = .ok (.number day) w ∧ perform now .season w = .ok (.season s) w ∧
      (s = .spring ↔ 77 ≤ day ∧ day < 168) ∧ (s = .summer ↔ 168 ≤ day ∧ day < 259) ∧
      (s = .fall ↔ 259 ≤ day ∧ day < 350) ∧ (s = .winter ↔ day < 77 ∨ 350 ≤ day) ∧
      (s = Season.intended day ↔ day ≠ 77 ∧ day ≠ 168 ∧ day ≠ 259 ∧ day ≠ 350) := by
  have on : Calendar.date (q.floor / Clock.secondsPerDay) = ⟨year, day⟩ := by
    refine Calendar.date_eq_iff.2 ⟨start, finish, ?_⟩
    rw [moment]
    simp only [Clock.secondsPerDay] at hs' ⊢
    omega
  have reads : w.clock.dayOfYear = .ok day := by
    rw [shows]
    exact Clock.dayOfYear_running exact on range
  have longest := Calendar.daysIn_le year
  have early := Season.ofDay_eq_intended start (show day ≤ 365 by omega)
  obtain ⟨spring, summer, fall, winter⟩ := Season.intended_eq_iff (day + 1)
  refine ⟨_, perform_day_of_reads now reads, perform_season_of_reads now shows reads, ?_⟩
  rw [early, spring, summer, fall, winter, Season.intended_succ_eq_iff]
  omega

end ClockCommand

/-- A game clock that shows the start of the 19th of March 2023. -/
def World.march : World Script :=
  { random := {}
    engine := { tps_pos := standardTps_pos, random := {} }
    clock := .running 1679184000.0 }

/-- It is spring on the 19th of March already, which is meant to be the last day of winter. -/
theorem ClockCommand.perform_season_early_march :
    perform 0.0 .day World.march = .ok (.number 77) World.march ∧
      perform 0.0 .season World.march = .ok (.season .spring) World.march ∧
      Season.intended 77 = .winter := by
  have exact : Exact.ofFloat 1679184000.0 = .real 1679184000 := by decide +kernel
  obtain ⟨s, day, season, spring, -⟩ :=
    @perform_season_early Script 0.0 World.march _ _ 2023 77 0 rfl exact (by decide +kernel)
      (by decide) (by decide) (by decide) (by decide) (by decide)
  obtain rfl := spring.2 (by decide)
  exact ⟨day, season, rfl⟩

end Microclimate
