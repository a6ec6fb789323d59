import Microclimate.Calendar

/-!
# Dates follow the leap rule

The date of a day is computed by taking cycles, centuries, fours of years and years off the number
of days. What it has to be is said by the leap rule alone: the first days of two years in a row are
as many days apart as the earlier year has, and a day belongs to the year in which it lies. There is
just one such date, so the computation can be forgotten.

* `Microclimate.Calendar.firstDay_succ` – the first days of two years in a row;
* `Microclimate.Calendar.date_eq_iff` – **the date of a day**, for all days before and after 1970;
* `Microclimate.Calendar.date_succ` – the date of the day after.
-/

namespace Microclimate

namespace Calendar

theorem isLeap_iff (year : Int) :
    isLeap year = true ↔ year % 4 = 0 ∧ (year % 100 ≠ 0 ∨ year % 400 = 0) := by
  simp [isLeap]

theorem le_daysIn (year : Int) : 365 ≤ daysIn year := by
  simp only [daysIn]
  split <;> decide

theorem daysIn_le (year : Int) : daysIn year ≤ 366 := by
  simp only [daysIn]
  split <;> decide

/-- **A year has as many days as the leap rule says**: the next one starts after them. -/
theorem firstDay_succ (year : Int) : firstDay (year + 1) = firstDay year + daysIn year := by
  simp only [firstDay, daysIn, isLeap_iff]
  split <;> omega

theorem firstDay_mono {y z : Int} (h : y ≤ z) : firstDay y ≤ firstDay z := by
  simp only [firstDay]
  omega

/-! ### Cycles, centuries, fours and years -/

section Parts

variable {cycle century four year : Int}

/-- The first day of a year that is given by its parts. -/
theorem firstDay_parts (hc : 0 ≤ century ∧ century ≤ 3) (hf : 0 ≤ four ∧ four ≤ 24)
    (hy : 0 ≤ year ∧ year ≤ 3) :
    firstDay (400 * cycle + 100 * century + 4 * four + year + 1) =
      146097 * cycle + 36524 * century + 1461 * four + 365 * year - epoch := by
  simp only [firstDay]
  omega

/-- The last of four years is a leap year, unless it ends one of the first three centuries. -/
theorem daysIn_parts (hc : 0 ≤ century ∧ century ≤ 3) (hf : 0 ≤ four ∧ four ≤ 24)
    (hy : 0 ≤ year ∧ year ≤ 3) :
    daysIn (400 * cycle + 100 * century + 4 * four + year + 1) =
      if year = 3 ∧ (four ≤ 23 ∨ century = 3) then 366 else 365 := by
  simp only [daysIn, isLeap_iff]
  split <;> split <;> omega

end Parts

/-- A day lies in the year of its date, as many days after the start as the date says. -/
theorem date_spec (day : Int) :
    0 ≤ (date day).dayOfYear ∧ (date day).dayOfYear < daysIn (date day).year ∧
      firstDay (date day).year + (date day).dayOfYear = day := by
  simp only [date]
  -- the computation takes off one part after the other; name what is left each time
  obtain ⟨inCycle, left⟩ : ∃ r, r = (day + epoch) % 146097 := ⟨_, rfl⟩
  obtain ⟨century, hcentury⟩ : ∃ r, r = min 3 (inCycle / 36524) := ⟨_, rfl⟩
  obtain ⟨inCentury, left'⟩ : ∃ r, r = inCycle - 36524 * century := ⟨_, rfl⟩
  obtain ⟨year, hyear⟩ : ∃ r, r = min 3 (inCentury % 1461 / 365) := ⟨_, rfl⟩
  rw [← left, ← hcentury, ← left', ← hyear]
  have hc : 0 ≤ century ∧ century ≤ 3 := by omega
  have hf : 0 ≤ inCentury / 1461 ∧ inCentury / 1461 ≤ 24 := by omega
  have hy : 0 ≤ year ∧ year ≤ 3 := by omega
  rw [firstDay_parts hc hf hy, daysIn_parts hc hf hy]
  split <;> omega

/-! ### The one date of a day -/

/-- Two years that a day could lie in are the same. -/
theorem year_unique {y z day : Int} (hy : firstDay y ≤ day) (hy' : day < firstDay y + daysIn y)
    (hz : firstDay z ≤ day) (hz' : day < firstDay z + daysIn z) : y = z := by
  rw [← firstDay_succ] at hy' hz'
  rcases Int.lt_trichotomy y z with before | same | after
  · have := firstDay_mono (Int.add_one_le_of_lt before)
    omega
  · exact same
  · have := firstDay_mono (Int.add_one_le_of_lt after)
    omega

/-- **The date of a day** is the one by which the day lies in the year, at its place. -/
theorem date_eq_iff {day : Int} {d : Date} :
    date day = d ↔ 0 ≤ d.dayOfYear ∧ d.dayOfYear < daysIn d.year ∧
      firstDay d.year + d.dayOfYear = day := by
  constructor
  · rintro rfl
    exact date_spec day
  · rintro ⟨least, most, place⟩
    obtain ⟨least', most', place'⟩ := date_spec day
    have years : (date day).year = d.year := by
      refine @year_unique _ _ day ?_ ?_ ?_ ?_ <;> omega
    have days : (date day).dayOfYear = d.dayOfYear := by
      rw [years] at place'
      omega
    calc date day = ⟨(date day).year, (date day).dayOfYear⟩ := rfl
      _ = d := by rw [years, days]

/-- **The date of the day after**: the next day of the year, or the first one of the next year. -/
theorem date_succ (day : Int) :
    date (day + 1) =
      if (date day).dayOfYear + 1 < daysIn (date day).year then
        ⟨(date day).year, (date day).dayOfYear + 1⟩
      else
        ⟨(date day).year + 1, 0⟩ := by
  obtain ⟨least, most, place⟩ := date_spec day
  rw [date_eq_iff]
  split
  next within =>
    refine ⟨?_, within, ?_⟩ <;> dsimp only <;> omega
  next beyond =>
    have longer := le_daysIn ((date day).year + 1)
    refine ⟨?_, ?_, ?_⟩ <;> simp only [firstDay_succ] <;> omega

end Calendar

end Microclimate
