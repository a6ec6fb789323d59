import Microclimate.Proofs.SeasonStarts
import Microclimate.Proofs.TickLength

/-!
# Day by day

A game clock can be set to any whole number of seconds of up to 53 bits, which is a double. A day
later it shows the next day of the year, or the first day of the next year; and the season is the
same one, or the one that follows. Nothing is skipped at the end of a year either, though the
seasons are counted in fours of 91 days and years are longer: the days beyond the fourth season are
winter, like the first days of the next year.

* `Microclimate.Season.ofDay_succ`, `Microclimate.Season.ofDay_newYear` – the seasons of two days in
  a row;
* `Microclimate.ClockCommand.Tells` – what a clock tells once it was set;
* `Microclimate.ClockCommand.tells_dayAfter` – **what it tells a day later.**
-/

namespace Microclimate

variable {γ : Type}

namespace Season

/-- Two days in a row are in the same season, or the season of the second one follows. -/
theorem ofDay_succ {day : Int} (start : 0 ≤ day) (finish : day + 1 ≤ 365) :
    ofDay (day + 1) = ofDay day ∨ ofDay (day + 1) = (ofDay day).next := by
  rw [ofDay_eq_intended (by omega) finish, ofDay_eq_intended start (by omega)]
  grind [intended, springStart, length, next]

/-- **The year ends and starts in winter**, however long it is. -/
theorem ofDay_newYear {day : Int} (late : 350 ≤ day) (finish : day ≤ 365) :
    ofDay 0 = ofDay day := by
  rw [ofDay_eq_intended (by omega) finish]
  exact ((intended_eq_iff (day + 1)).2.2.2.2 (by omega)).symm

end Season

namespace ClockCommand

/-- A clock that is set to a time in whole seconds tells a day of the year and a season. -/
structure Tells (now : Float) (w : World γ) (seconds day : Int) (s : Season) : Prop where
  set : perform now (.setTime (Float.ofInt seconds)) w =
    .ok .done { w with clock := .running (Float.ofInt seconds) }
  day : perform now .day { w with clock := .running (Float.ofInt seconds) } =
    .ok (.number day) { w with clock := .running (Float.ofInt seconds) }
  season : perform now .season { w with clock := .running (Float.ofInt seconds) } =
    .ok (.season s) { w with clock := .running (Float.ofInt seconds) }

/-- **A clock can be set to any whole number of seconds of up to 53 bits**, and then it tells the
day of the year and its season. -/
theorem tells (now : Float) {w : World γ} {time : Float} (shows : w.clock = .running time)
    {seconds : Int} (short : seconds.natAbs ≤ 2 ^ 53) {d : Calendar.Date}
    (on : Calendar.date (seconds / Clock.secondsPerDay) = d) :
    Tells now w seconds d.dayOfYear (Season.ofDay d.dayOfYear) := by
  have range : Clock.fits32 (d.year - 1900) = true := by
    obtain ⟨least, most, place⟩ := Calendar.date_eq_iff.1 on
    have longest := Calendar.daysIn_le d.year
    simp only [Clock.fits32, Bool.and_eq_true, decide_eq_true_eq, Clock.secondsPerDay,
      Calendar.firstDay, Calendar.epoch] at place ⊢
    omega
  have reads : (Clock.running (Float.ofInt seconds)).dayOfYear = .ok d.dayOfYear := by
    refine Clock.dayOfYear_running (exact_ofInt short) ?_ range
    rw [Rat.floor_intCast]
    exact on
  refine ⟨?_, perform_day_of_reads now reads, perform_season_of_reads now rfl reads⟩
  exact (Sim.bind_of_ok (discard_time shows)).trans rfl

/-- **A day later** a clock tells the next day of the year, or the first one after the last one, and
the same season or the one that follows. -/
theorem tells_dayAfter (now : Float) {w : World γ} {time : Float} (shows : w.clock = .running time)
    {seconds : Int} (short : |seconds| ≤ 2 ^ 53)
    (short' : |seconds + Clock.secondsPerDay| ≤ 2 ^ 53) :
    ∃ (year day day' : Int) (s s' : Season),
      (0 ≤ day ∧ day < Calendar.daysIn year ∧
        Calendar.firstDay year + day = seconds / Clock.secondsPerDay) ∧
      Tells now w seconds day s ∧ Tells now w (seconds + Clock.secondsPerDay) day' s' ∧
      (day' = if day = (if Calendar.isLeap year then 365 else 364) then 0 else day + 1) ∧
      (s' = s ∨ s' = s.next) := by
  obtain ⟨⟨year, day⟩, on⟩ : ∃ d, Calendar.date (seconds / Clock.secondsPerDay) = d := ⟨_, rfl⟩
  obtain ⟨start, finish, place⟩ := Calendar.date_eq_iff.1 on
  dsimp only at start finish place
  have today := tells now shows (by rw [Int.abs_eq_natAbs] at short; omega) on
  have tomorrow := tells now shows (by rw [Int.abs_eq_natAbs] at short'; omega)
    (rfl : Calendar.date ((seconds + Clock.secondsPerDay) / Clock.secondsPerDay) = _)
  have after : (seconds + Clock.secondsPerDay) / Clock.secondsPerDay =
      seconds / Clock.secondsPerDay + 1 := by
    simp only [Clock.secondsPerDay]
    omega
  rw [after, Calendar.date_succ, on] at tomorrow
  dsimp only at tomorrow
  have last : Calendar.daysIn year = (if Calendar.isLeap year then 365 else 364) + 1 := by
    rw [Calendar.daysIn]
    split <;> rfl
  have shortest := Calendar.le_daysIn year
  have longest := Calendar.daysIn_le year
  split at tomorrow
  next within =>
    refine ⟨year, day, day + 1, _, _, ⟨start, finish, place⟩, today, tomorrow, ?_, ?_⟩
    · rw [if_neg (by omega)]
    · exact Season.ofDay_succ start (by omega)
  next beyond =>
    refine ⟨year, day, 0, _, _, ⟨start, finish, place⟩, today, tomorrow, ?_, .inl ?_⟩
    · rw [if_pos (by omega)]
    · exact @Season.ofDay_newYear day (by omega) (by omega)

/-- The last day of the year 2024 is number 365, and the day after is number 0. -/
theorem tells_dayAfter_leapYear :
    |(1735603200 : Int)| ≤ 2 ^ 53 ∧ |1735603200 + Clock.secondsPerDay| ≤ 2 ^ 53 ∧
      ∃ s s', Tells 0.0 World.march 1735603200 365 s ∧
        Tells 0.0 World.march (1735603200 + Clock.secondsPerDay) 0 s' ∧ (s' = s ∨ s' = s.next) := by
  have short : |(1735603200 : Int)| ≤ 2 ^ 53 := by decide
  have short' : |1735603200 + Clock.secondsPerDay| ≤ 2 ^ 53 := by decide
  obtain ⟨year, day, day', s, s', place, today, tomorrow, next, follows⟩ :=
    tells_dayAfter 0.0 (rfl : World.march.clock = .running 1679184000.0) short short'
  have on : Calendar.date (1735603200 / Clock.secondsPerDay) = ⟨year, day⟩ :=
    Calendar.date_eq_iff.2 place
  obtain ⟨rfl, rfl⟩ : 2024 = year ∧ 365 = day := by
    injection (show (⟨2024, 365⟩ : Calendar.Date) = ⟨year, day⟩ from on) with years days
    exact ⟨years, days⟩
  obtain rfl : day' = 0 := next
  exact ⟨short, short', s, s', today, tomorrow, follows⟩

end ClockCommand

end Microclimate
