import JobControl.Calendar
import Mathlib.Order.Monotone.Basic
import Mathlib.Tactic.SplitIfs

/-!
# Days of the calendar

The date of a day is worked out from its number alone. That this is the
date to which one comes by counting the days one by one
(`dateOfDay_natCast`) rests on one step: the day after a day has the date
after its date.

Years are taken to begin in March here, as they are where the date is
worked out. A day then lies in the cycle of 400 years, in a year of the
cycle, and in the year itself, and the step is taken in each of them: most
days are followed by one in the same year, the last day of a year by the
first day of March, and a cycle ends with a year. The number of the year
is a quotient in which leap days are only roughly left out; since it grows
with the day, it is enough to look at the first and at the last day of
each year (`yearInCycle_eq`).
-/

namespace JobControl.Calendar

/-! ## Counting -/

/-- The day after. -/
def Date.next (d : Date) : Date :=
  if d.day < daysInMonth d.year d.month then { d with day := d.day + 1 }
  else if d.month < 12 then ⟨d.year, d.month + 1, 1⟩
  else ⟨d.year + 1, 1, 1⟩

section Next

variable {d : Date}

theorem Date.next_in_month (h : d.day < daysInMonth d.year d.month) :
    d.next = ⟨d.year, d.month, d.day + 1⟩ :=
  if_pos h

theorem Date.next_in_year (h : ¬ d.day < daysInMonth d.year d.month) (hmonth : d.month < 12) :
    d.next = ⟨d.year, d.month + 1, 1⟩ :=
  (if_neg h).trans (if_pos hmonth)

theorem Date.next_new_year (h : ¬ d.day < daysInMonth d.year d.month) (hmonth : ¬ d.month < 12) :
    d.next = ⟨d.year + 1, 1, 1⟩ :=
  (if_neg h).trans (if_neg hmonth)

end Next

/-- The date of a day, counted from the first one. -/
def dateAfter : Nat → Date
  | 0 => ⟨1970, 1, 1⟩
  | n + 1 => (dateAfter n).next

theorem Date.year_next (d : Date) : d.year ≤ d.next.year := by
  rw [next]
  split_ifs <;> simp only [] <;> omega

theorem year_dateAfter_mono {m n : Nat} (h : m ≤ n) : (dateAfter m).year ≤ (dateAfter n).year := by
  induction n, h using Nat.le_induction with
  | base => exact Int.le_refl _
  | succ n _ ih => exact Int.le_trans ih (dateAfter n).year_next

/-! ## Years in a cycle -/

/-- The first day of a year in its cycle. -/
def yearStart (year : Nat) : Nat := 365 * year + year / 4 - year / 100 + year / 400

/-- The days of a cycle without the leap days, roughly. -/
def evened (inCycle : Nat) : Nat := inCycle - inCycle / 1460 + inCycle / 36524 - inCycle / 146096

theorem evened_succ {r : Nat} (h : r < 146096) : evened r ≤ evened (r + 1) := by
  simp only [evened]
  omega

theorem evened_mono {r r' : Nat} (hle : r ≤ r') (h : r' < 146097) : evened r ≤ evened r' := by
  induction r', hle using Nat.le_induction with
  | base => exact Nat.le_refl _
  | succ r' hle ih => exact Nat.le_trans (ih (by omega)) (evened_succ (by omega))

theorem evened_yearStart : ∀ year < 400, 365 * year ≤ evened (yearStart year)
    ∧ evened (yearStart (year + 1) - 1) < 365 * (year + 1) := by
  decide +kernel

theorem yearStart_mono : Monotone yearStart := by
  refine monotone_nat_of_le_succ fun year => ?_
  simp only [yearStart]
  omega

/-- The year of a day that lies between the first days of two years. -/
theorem yearInCycle_eq {year r : Nat} (hyear : year < 400) (hstart : yearStart year ≤ r)
    (hend : r < yearStart (year + 1)) : evened r / 365 = year := by
  have hcycle : yearStart (year + 1) ≤ yearStart 400 := yearStart_mono hyear
  have hlast : yearStart 400 = 146097 := rfl
  obtain ⟨hfirst, hnext⟩ := evened_yearStart year hyear
  have hlow := evened_mono hstart (by omega)
  have hhigh : evened r ≤ evened (yearStart (year + 1) - 1) := evened_mono (by omega) (by omega)
  omega

/-- A year has a leap day or not whatever its cycle. -/
theorem isLeapYear_add {year : Nat} {cycle : Int} : isLeapYear (year + cycle * 400) = true
    ↔ 4 ∣ year ∧ (100 ∣ year → 400 ∣ year) := by
  have h4 : (year + cycle * 400) % 4 = (year % 4 : Nat) := by omega
  have h100 : (year + cycle * 400) % 100 = (year % 100 : Nat) := by omega
  have h400 : (year + cycle * 400) % 400 = (year % 400 : Nat) := by omega
  simp only [isLeapYear, h4, h100, h400, Bool.and_eq_true, Bool.or_eq_true, beq_iff_eq, bne_iff_ne]
  omega

/-- The years of a cycle are as long as the calendar has them. A year that
begins in March has the leap day of the year in which it ends. -/
theorem yearStart_succ (year : Nat) (cycle : Int) : yearStart (year + 1)
    = yearStart year + if isLeapYear ((year + 1 : Nat) + cycle * 400) then 366 else 365 := by
  have hhundreds : year / 100 ≤ year / 4 := by omega
  have hfour : 100 ∣ year + 1 → 4 ∣ year + 1 := by omega
  have hhundred : 400 ∣ year + 1 → 100 ∣ year + 1 := by omega
  simp only [isLeapYear_add, yearStart, Nat.succ_div]
  split_ifs <;> omega

theorem exists_year {r : Nat} : ∀ {n : Nat}, r < yearStart n →
    ∃ year < n, yearStart year ≤ r ∧ r < yearStart (year + 1)
  | 0, h => absurd h (Nat.not_lt_zero r)
  | n + 1, h => by
      rcases Nat.lt_or_ge r (yearStart n) with hlt | hge
      · obtain ⟨year, hyear, hin⟩ := exists_year hlt
        exact ⟨year, Nat.lt_succ_of_lt hyear, hin⟩
      · exact ⟨n, Nat.lt_succ_self n, hge, h⟩

/-! ## Days in a year -/

def monthOf (inYear : Nat) : Nat :=
  if (5 * inYear + 2) / 153 < 10 then (5 * inYear + 2) / 153 + 3 else (5 * inYear + 2) / 153 - 9

def dayOf (inYear : Nat) : Nat := inYear - (153 * ((5 * inYear + 2) / 153) + 2) / 5 + 1

/-- The date of a day that is counted from 1 March of a year. -/
def dateInYear (year : Int) (inYear : Nat) : Date :=
  ⟨year + if monthOf inYear ≤ 2 then 1 else 0, monthOf inYear, dayOf inYear⟩

theorem dateOfDay_eq_dateInYear {day : Int} {inCycle year : Nat}
    (hinCycle : inCycle = ((day + 719468) % 146097).toNat) (hyear : year = evened inCycle / 365) :
    dateOfDay day = dateInYear (year + (day + 719468) / 146097 * 400)
      (inCycle - (365 * year + year / 4 - year / 100)) := by
  subst hinCycle hyear
  rfl

/-- The date of a day of a year in a cycle. -/
theorem dateOfDay_eq {cycle : Int} {year inYear : Nat} (hyear : year < 400)
    (hin : yearStart year + inYear < yearStart (year + 1)) :
    dateOfDay (cycle * 146097 + (yearStart year + inYear : Nat) - 719468)
      = dateInYear (year + cycle * 400) inYear := by
  have hend : yearStart (year + 1) ≤ 146097 := yearStart_mono hyear
  have hfound := yearInCycle_eq hyear (Nat.le_add_right _ inYear) hin
  have hcycle : (cycle * 146097 + (yearStart year + inYear : Nat) - 719468 + 719468) / 146097
      = cycle := by omega
  have hrest : yearStart year + inYear - (365 * year + year / 4 - year / 100) = inYear := by
    simp only [yearStart]
    omega
  rw [@dateOfDay_eq_dateInYear _ (yearStart year + inYear) _ (by omega) hfound.symm, hcycle,
    hrest]

/-- Within a year a day is followed by the next one of its month, or by the
first of the next month. How long February is, the year has to say. -/
theorem day_step : ∀ d < 366,
    if monthOf d = 2 then 337 ≤ d ∧ dayOf d = d - 336 ∧ monthOf (d + 1) = 2
      ∧ dayOf (d + 1) = dayOf d + 1
    else if dayOf d < daysInMonth 0 (monthOf d) then
      monthOf (d + 1) = monthOf d ∧ dayOf (d + 1) = dayOf d + 1
    else monthOf (d + 1) = monthOf d % 12 + 1 ∧ dayOf (d + 1) = 1 := by
  decide +kernel

section Step

variable {year : Int} {d : Nat}

theorem monthOf_le (h : d < 366) : 1 ≤ monthOf d ∧ monthOf d ≤ 12 := by
  simp only [monthOf]
  split <;> omega

theorem daysInMonth_of_ne {month : Nat} (h : month ≠ 2) :
    daysInMonth year month = daysInMonth 0 month := by
  simp [daysInMonth, h]

theorem next_dateInYear (h : d + 1 < if isLeapYear (year + 1) then 366 else 365) :
    (dateInYear year d).next = dateInYear year (d + 1) := by
  have hyear : d + 1 < 366 := by split at h <;> omega
  obtain ⟨hlow, hhigh⟩ := monthOf_le (d := d) (by omega)
  have hstep := day_step d (by omega)
  by_cases hfebruary : monthOf d = 2
  · rw [if_pos hfebruary] at hstep
    obtain ⟨hlate, hday, hmonth, hnext⟩ := hstep
    have hin : dayOf d < daysInMonth (year + 1) 2 := by
      rw [daysInMonth, hday]
      split at h <;> simp [*] <;> omega
    rw [Date.next_in_month]
    · simp only [dateInYear, hfebruary, hmonth, hnext]
    · simpa only [dateInYear, hfebruary, Nat.le_refl, if_true] using hin
  · rw [if_neg hfebruary, ← daysInMonth_of_ne hfebruary] at hstep
    split at hstep
    · rename_i hin
      rw [Date.next_in_month hin, dateInYear, dateInYear, hstep.1, hstep.2]
    · rename_i hout
      by_cases hdecember : monthOf d < 12
      · have hsame : (monthOf d ≤ 2) = (monthOf d + 1 ≤ 2) := propext (by omega)
        rw [Date.next_in_year hout hdecember, dateInYear, dateInYear, hstep.1, hstep.2,
          Nat.mod_eq_of_lt hdecember]
        simp only [hsame]
      · have hmonth : monthOf d = 12 := by omega
        rw [Date.next_new_year hout hdecember, dateInYear, dateInYear, hstep.1, hstep.2, hmonth]
        simp

/-- The last day of a year is followed by the first day of March. -/
theorem next_dateInYear_last (h : d + 1 = if isLeapYear (year + 1) then 366 else 365) :
    (dateInYear year d).next = dateInYear (year + 1) 0 := by
  have hlast : monthOf d = 2 ∧ dayOf d = daysInMonth (year + 1) 2 := by
    rw [daysInMonth]
    split at h <;> simp only [*]
    · obtain rfl : d = 365 := by omega
      decide
    · obtain rfl : d = 364 := by omega
      decide
  have hout : ¬ (dateInYear year d).day
      < daysInMonth (dateInYear year d).year (dateInYear year d).month := by
    simp only [dateInYear, hlast, Nat.le_refl, if_true, Nat.lt_irrefl, not_false_eq_true]
  have hmonth : (dateInYear year d).month < 12 := by
    simp only [dateInYear, hlast]
    decide
  rw [Date.next_in_year hout hmonth]
  simp only [dateInYear, hlast, Date.mk.injEq]
  simp [monthOf, dayOf]

end Step

/-! ## The day after -/

/-- **The day after a day has the date after its date.** -/
theorem dateOfDay_succ (day : Int) : dateOfDay (day + 1) = (dateOfDay day).next := by
  have hlast : yearStart 400 = 146097 := rfl
  have hinCycle : ((day + 719468) % 146097).toNat < yearStart 400 := by omega
  obtain ⟨year, hyear, hstart, hend⟩ := exists_year hinCycle
  obtain ⟨d, hd⟩ := Nat.exists_eq_add_of_le hstart
  rw [hd] at hend
  have hday : day = (day + 719468) / 146097 * 146097 + (yearStart year + d : Nat) - 719468 := by
    omega
  generalize (day + 719468) / 146097 = cycle at hday
  subst hday
  rw [dateOfDay_eq hyear hend]
  have hlength := yearStart_succ year cycle
  rw [Int.natCast_succ, Int.add_right_comm] at hlength
  rcases Nat.lt_or_ge (yearStart year + (d + 1)) (yearStart (year + 1)) with hin | hout
  · rw [next_dateInYear (by omega), ← dateOfDay_eq hyear hin]
    exact congrArg dateOfDay (by omega)
  · rw [next_dateInYear_last (by omega)]
    have hnew : year + 1 < 400 ∨ year = 399 := by omega
    rcases hnew with hnext | rfl
    · -- the next year of the cycle
      have hfirst : yearStart (year + 1) + 0 < yearStart (year + 1 + 1) := by
        have := yearStart_succ (year + 1) 0
        split at this <;> omega
      have hdate := @dateOfDay_eq cycle (year + 1) 0 hnext hfirst
      rw [Int.natCast_succ, Int.add_right_comm] at hdate
      rw [← hdate]
      exact congrArg dateOfDay (by omega)
    · -- the first year of the next cycle
      have hdate := @dateOfDay_eq (cycle + 1) 0 0 (by decide) (by decide)
      have hyears : ((0 : Nat) : Int) + (cycle + 1) * 400 = (399 : Nat) + cycle * 400 + 1 := by
        omega
      have hzero : yearStart 0 = 0 := rfl
      have hcycle : yearStart (399 + 1) = 146097 := rfl
      rw [hyears] at hdate
      rw [← hdate]
      exact congrArg dateOfDay (by omega)

/-- **The date of a day is the one to which one comes by counting.** -/
theorem dateOfDay_natCast (n : Nat) : dateOfDay n = dateAfter n := by
  induction n with
  | zero => decide
  | succ n ih => rw [Int.natCast_succ, dateOfDay_succ, ih, dateAfter]

end JobControl.Calendar
