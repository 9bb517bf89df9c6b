import NodeProvisioning.Time.Timestamp

/-!
# The calendar

Every day has a date, and the date leads back to the day. The calendar repeats after four hundred
years, an era of 146097 days, which falls into centuries, cycles of four years, and years that begin
in March, each of one length but for the last of its kind. `Cycles` is that splitting of the day of
an era. With it the divisions by 1460, 36524 and 146096, which make up for the leap days, come to
the year.

## Main definitions

* `Timestamp.Cycles` — a day of an era as century, cycle, year and day of the year
* `Timestamp.IsDate` — a month that exists and a day that the month has

## Main statements

* `Timestamp.isDate_civilFromDays`, `Timestamp.daysFromCivil_civilFromDays` — dates of days
* `Timestamp.daysFromCivil_lt`, `Timestamp.le_daysFromCivil` — the dates of a year lie within it
-/

namespace NodeProvisioning.Timestamp

theorem isLeapYear_iff {y : Int} :
    isLeapYear y = true ↔ y % 4 = 0 ∧ (y % 100 ≠ 0 ∨ y % 400 = 0) := by
  simp [isLeapYear]

/-! ## Days of an era -/

/-- A day of an era by century, cycle of four years, year and day of the year. -/
structure Cycles (dayOfEra : Int) where
  century : Int
  cycle : Int
  year : Int
  day : Int
  century_mem : 0 ≤ century ∧ century ≤ 3
  cycle_mem : 0 ≤ cycle ∧ cycle ≤ 24
  year_mem : 0 ≤ year ∧ year ≤ 3
  day_mem : 0 ≤ day ∧ day ≤ 365
  /-- The leap day ends the last year of a cycle, and of a century in the last one only. -/
  leap : day = 365 → year = 3 ∧ (cycle = 24 → century = 3)
  sum_eq : 36524 * century + 1461 * cycle + 365 * year + day = dayOfEra

namespace Cycles

/-- The splitting of a day: the leap day stays with the year before it. -/
def ofDay (n : Int) (h : 0 ≤ n ∧ n < 146097) : Cycles n :=
  let century := min (n / 36524) 3
  let n' := n - 36524 * century
  let cycle := n' / 1461
  let n'' := n' - 1461 * cycle
  let year := min (n'' / 365) 3
  { century, cycle, year, day := n'' - 365 * year
    century_mem := by omega
    cycle_mem := by omega
    year_mem := by omega
    day_mem := by omega
    leap := by omega
    sum_eq := by omega }

variable {n : Int} (c : Cycles n)

/-- The year of the era. -/
def yearOfEra : Int := 100 * c.century + 4 * c.cycle + c.year

theorem yearOfEra_mem : 0 ≤ c.yearOfEra ∧ c.yearOfEra ≤ 399 := by
  have := c.century_mem
  have := c.cycle_mem
  have := c.year_mem
  dsimp only [yearOfEra]
  omega

/-- Taking out the leap days leaves years of 365 days. A quotient by 1460 counts one leap day too
many towards the end of a cycle, where the year has a day to spare. -/
theorem yearOfEra_eq : (n - n / 1460 + n / 36524 - n / 146096) / 365 = c.yearOfEra := by
  obtain ⟨century, cycle, year, day, _, _, _, _, _, rfl⟩ := c
  dsimp only [yearOfEra]
  generalize hn : 36524 * century + 1461 * cycle + 365 * year + day = n
  have hcentury : n / 36524 - n / 146096 = century := by
    rcases Int.lt_or_le n 146096 with early | last
    · have : n / 36524 = century := by omega
      omega
    · omega
  have hcycle : n / 1460 = 25 * century + cycle ∧ day ≠ 365 ∨
      n / 1460 = 25 * century + cycle + 1 ∧ 1460 ≤ 24 * century + cycle + 365 * year + day := by
    rcases Int.lt_or_le (24 * century + cycle + 365 * year + day) 1460 with early | late
    · omega
    · omega
  omega

theorem sum_yearOfEra : 365 * c.yearOfEra + c.yearOfEra / 4 - c.yearOfEra / 100 + c.day = n := by
  obtain ⟨century, cycle, year, day, _, _, _, _, _, rfl⟩ := c
  dsimp only [yearOfEra]
  omega

/-- A year with a leap day is followed by the January and February of a leap year. -/
theorem isLeapYear_of_day (h : c.day = 365) (era : Int) :
    isLeapYear (c.yearOfEra + era * 400 + 1) := by
  obtain ⟨century, cycle, year, day, _, _, _, _, hleap, rfl⟩ := c
  obtain ⟨rfl, h100⟩ := hleap h
  simp only [isLeapYear_iff, yearOfEra]
  omega

end Cycles

/-! ## Dates of days -/

/-- A month that exists and a day that the month has. -/
structure IsDate (y : Int) (m d : Nat) : Prop where
  month_mem : 1 ≤ m ∧ m ≤ 12
  day_mem : 1 ≤ d ∧ d ≤ daysInMonth y m

theorem daysInMonth_le (y : Int) (m : Nat) : daysInMonth y m ≤ 31 := by
  unfold daysInMonth
  split <;> split <;> decide

theorem civilFromDays_eq (days : Int) :
    ∃ (era : Int) (c : Cycles (days + 719468 - era * 146097)),
      let month := (5 * c.day + 2) / 153
      let m := if month < 10 then month + 3 else month - 9
      civilFromDays days = (c.yearOfEra + era * 400 + (if m ≤ 2 then 1 else 0), m.toNat,
        (c.day - (153 * month + 2) / 5 + 1).toNat) := by
  let era := (days + 719468) / 146097
  let c : Cycles (days + 719468 - era * 146097) := Cycles.ofDay _ (by omega)
  have hday : days + 719468 - era * 146097 -
      (365 * c.yearOfEra + c.yearOfEra / 4 - c.yearOfEra / 100) = c.day := by
    have := c.sum_yearOfEra
    omega
  refine ⟨era, c, ?_⟩
  simp only [civilFromDays, Int.fdiv_eq_ediv_of_nonneg _ (show (0 : Int) ≤ 146097 by decide)]
  rw [c.yearOfEra_eq, hday]

/-- The date of a day is a date. -/
theorem isDate_civilFromDays (days : Int) :
    IsDate (civilFromDays days).1 (civilFromDays days).2.1 (civilFromDays days).2.2 := by
  obtain ⟨era, c, h⟩ := civilFromDays_eq days
  have hday := c.day_mem
  have hleap : c.day = 365 → isLeapYear (c.yearOfEra + era * 400 + 1) :=
    fun last => c.isLeapYear_of_day last era
  rw [h]
  dsimp only
  generalize hm : (5 * c.day + 2) / 153 = month
  have hmonth : month = 0 ∨ month = 1 ∨ month = 2 ∨ month = 3 ∨ month = 4 ∨ month = 5 ∨ month = 6 ∨
      month = 7 ∨ month = 8 ∨ month = 9 ∨ month = 10 ∨ month = 11 := by omega
  -- Only the length of February, the last month, depends on the year.
  rcases hmonth with rfl | rfl | rfl | rfl | rfl | rfl | rfl | rfl | rfl | rfl | rfl | rfl <;>
    refine ⟨by decide, by omega, ?_⟩ <;> simp [daysInMonth]
  case inr.inr.inr.inr.inr.inr.inr.inr.inr.inr.inr =>
    split
    · omega
    · next common =>
      have : c.day ≠ 365 := fun last => common (hleap last)
      omega
  all_goals omega

/-- The date of a day names that day. -/
theorem daysFromCivil_civilFromDays (days : Int) :
    daysFromCivil (civilFromDays days).1 (civilFromDays days).2.1 (civilFromDays days).2.2 =
      days := by
  obtain ⟨era, c, h⟩ := civilFromDays_eq days
  have hday := c.day_mem
  have hyear := c.yearOfEra_mem
  have hsum := c.sum_yearOfEra
  rw [h]
  dsimp only [daysFromCivil]
  simp only [Int.fdiv_eq_ediv_of_nonneg _ (show (0 : Int) ≤ 400 by decide)]
  generalize c.yearOfEra = y at *
  generalize c.day = d at *
  generalize hm : (5 * d + 2) / 153 = month
  have hera : (y + era * 400) / 400 = era := by omega
  by_cases hlate : month < 10
  · simp only [hlate, if_true]
    rw [if_neg (show ¬ month + 3 ≤ 2 by omega), if_neg (by omega), if_pos (by omega)]
    omega
  · simp only [hlate, if_false]
    rw [if_pos (show month - 9 ≤ 2 by omega), if_pos (by omega), if_neg (by omega)]
    omega

/-! ## Days of a year -/

/-- Days up to the March of a year. -/
def marchDay (y : Int) : Int := 365 * y + y / 4 - y / 100 + y / 400

theorem marchDay_mono {y y' : Int} (h : y ≤ y') : marchDay y ≤ marchDay y' := by
  unfold marchDay
  omega

theorem daysFromCivil_eq (y : Int) (m d : Nat) :
    daysFromCivil y m d =
      if m ≤ 2 then marchDay (y - 1) + (153 * (m + 9) + 2) / 5 + d - 719469
      else marchDay y + (153 * (m - 3) + 2) / 5 + d - 719469 := by
  unfold daysFromCivil marchDay
  simp only [Int.fdiv_eq_ediv_of_nonneg _ (show (0 : Int) ≤ 400 by decide)]
  split
  · rw [if_neg (by omega)]
    omega
  · rw [if_pos (by omega)]
    omega

theorem daysFromCivil_newYear (y : Int) : daysFromCivil y 1 1 = marchDay (y - 1) - 719162 := by
  rw [daysFromCivil_eq, if_pos (by decide)]
  omega

variable {y y' : Int} {m d : Nat}

/-- The dates of a year come before the next year begins. -/
theorem daysFromCivil_lt (h : IsDate y m d) (hy : y < y') :
    daysFromCivil y m d < daysFromCivil y' 1 1 := by
  have hmonth := h.month_mem
  have hday := Nat.le_trans h.day_mem.2 (daysInMonth_le y m)
  have hlast : marchDay (y - 1) ≤ marchDay y - 365 := by
    unfold marchDay
    omega
  have := marchDay_mono (show y ≤ y' - 1 by omega)
  rw [daysFromCivil_newYear, daysFromCivil_eq]
  split <;> omega

/-- The dates of a year do not come before it begins. -/
theorem le_daysFromCivil (h : IsDate y m d) (hy : y' ≤ y) :
    daysFromCivil y' 1 1 ≤ daysFromCivil y m d := by
  have hmonth := h.month_mem
  have hday := h.day_mem.1
  have hlast : marchDay (y - 1) ≤ marchDay y - 365 := by
    unfold marchDay
    omega
  have := marchDay_mono (show y' - 1 ≤ y - 1 by omega)
  rw [daysFromCivil_newYear, daysFromCivil_eq]
  split <;> omega

end NodeProvisioning.Timestamp
