import Verdict.Time.Calendar
import Mathlib.Tactic.Common
import Mathlib.Tactic.IntervalCases

/-!
# Days and dates

Within a cycle of 400 years, counted from March, a day is described by its century, the span of four
years within the century, the year within the span and the day within the year: a `CycleDay`.  The
corrections in the formula for the year make up for the leap days (`CycleDay.year_eq`).
-/

namespace Verdict.Date

/-- A day of a cycle of 400 years. -/
structure CycleDay where
  century : Int
  span : Int
  year : Int
  day : Int
  century_bounds : 0 ≤ century ∧ century ≤ 3
  span_bounds : 0 ≤ span ∧ span ≤ 24
  year_bounds : 0 ≤ year ∧ year ≤ 3
  day_bounds : 0 ≤ day ∧ day ≤ 365
  leap : day = 365 → year = 3 ∧ (span = 24 → century = 3)

namespace CycleDay

def number (c : CycleDay) : Int :=
  36524 * c.century + 1461 * c.span + 365 * c.year + c.day

def years (c : CycleDay) : Int :=
  100 * c.century + 4 * c.span + c.year

theorem exists_number_eq {n : Int} (hlow : 0 ≤ n) (hhigh : n < cycleDays) :
    ∃ c : CycleDay, c.number = n := by
  have hcycle : n ≤ 146096 := by
    rw [cycleDays] at hhigh
    omega
  -- The last day of a cycle belongs to a fifth century by its number, and the last day of a span
  -- to a fifth year.
  obtain ⟨century, hcentury⟩ : ∃ century, century = min (n / 36524) 3 := ⟨_, rfl⟩
  obtain ⟨inCentury, hinCentury⟩ : ∃ rest, rest = n - 36524 * century := ⟨_, rfl⟩
  obtain ⟨year, hyear⟩ : ∃ year, year = min (inCentury % 1461 / 365) 3 := ⟨_, rfl⟩
  refine ⟨⟨century, inCentury / 1461, year, inCentury % 1461 - 365 * year,
    ?_, ?_, ?_, ?_, ?_⟩, ?_⟩
  · omega
  · omega
  · omega
  · omega
  · omega
  · simp only [number]
    omega

theorem number_bounds (c : CycleDay) : 0 ≤ c.number ∧ c.number ≤ 146096 := by
  obtain ⟨century, span, year, day, _, _, _, _, _⟩ := c
  simp only [number]
  omega

/-- The year is found by taking away the leap days that the days before contain. -/
theorem year_eq (c : CycleDay) :
    (c.number - c.number / 1460 + c.number / 36524 - c.number / 146096) / 365 = c.years := by
  obtain ⟨century, span, year, day, hcentury, hspan, hyear, hday, hleap⟩ := c
  obtain ⟨n, hn⟩ : ∃ n, n = 36524 * century + 1461 * span + 365 * year + day := ⟨_, rfl⟩
  simp only [number, years, ← hn]
  by_cases hlast : day = 365 ∧ span = 24
  · obtain ⟨rfl, rfl⟩ := hlast
    obtain ⟨rfl, hfourth⟩ := hleap rfl
    obtain rfl : century = 3 := hfourth rfl
    rw [hn]
    rfl
  · have hcenturies : n / 36524 = century := by omega
    have hcycles : n / 146096 = 0 := by omega
    obtain ⟨rest, hrest⟩ : ∃ rest, rest = 24 * century + span + 365 * year + day := ⟨_, rfl⟩
    have hspans : n / 1460 = 25 * century + span + rest / 1460 := by omega
    have hleapDay : 0 ≤ rest / 1460 ∧ rest / 1460 ≤ 1 ∧ (day = 0 → rest / 1460 = 0) ∧
        (day = 365 → rest / 1460 = 1) := by
      refine ⟨?_, ?_, ?_, ?_⟩
      · omega
      · omega
      · omega
      · omega
    rw [hcenturies, hcycles, hspans]
    omega

theorem day_eq (c : CycleDay) :
    c.number - (365 * c.years + c.years / 4 - c.years / 100) = c.day := by
  obtain ⟨century, span, year, day, hcentury, hspan, hyear, hday, hleap⟩ := c
  simp only [number, years]
  omega

def month (c : CycleDay) : Int :=
  (5 * c.day + 2) / 153

def calendarMonth (c : CycleDay) : Int :=
  if c.month < 10 then c.month + 3 else c.month - 9

def calendarYear (c : CycleDay) (cycle : Int) : Int :=
  c.years + cycle * 400 + if c.calendarMonth ≤ 2 then 1 else 0

theorem month_bounds (c : CycleDay) : 0 ≤ c.month ∧ c.month ≤ 11 := by
  have hday := c.day_bounds
  rw [month]
  omega

theorem day_of_month_bounds (c : CycleDay) :
    daysBeforeMonth c.month ≤ c.day ∧ c.day < daysBeforeMonth (c.month + 1) := by
  simp only [daysBeforeMonth, month]
  omega

theorem ofDayNumber_number (c : CycleDay) (cycle : Int) :
    ofDayNumber (cycle * cycleDays + c.number - epochOffset) =
      ⟨c.calendarYear cycle, c.calendarMonth.toNat,
        (c.day - daysBeforeMonth c.month + 1).toNat⟩ := by
  have hnumber := c.number_bounds
  have hcycle : (cycle * cycleDays + c.number) / cycleDays = cycle := by
    rw [cycleDays]
    omega
  have hrest : (cycle * cycleDays + c.number) % cycleDays = c.number := by
    rw [cycleDays]
    omega
  simp only [ofDayNumber, Int.sub_add_cancel, hcycle, hrest, c.year_eq, c.day_eq]
  rfl

theorem isLeap_of_day_eq {c : CycleDay} (hday : c.day = 365) (cycle : Int) :
    isLeap (c.calendarYear cycle) = true := by
  obtain ⟨hyear, hspan⟩ := c.leap hday
  have hmonth : c.calendarMonth = 2 := by
    rw [calendarMonth, month, hday]
    rfl
  have hcentury := c.century_bounds
  have hspans := c.span_bounds
  rw [calendarYear, hmonth, if_pos (by decide), years, hyear]
  simp only [isLeap, Bool.and_eq_true, Bool.or_eq_true, beq_iff_eq, bne_iff_ne]
  omega

end CycleDay

/-- Every day number is the number of a day in some cycle. -/
theorem exists_cycleDay (n : Int) :
    ∃ (c : CycleDay) (cycle : Int), n = cycle * cycleDays + c.number - epochOffset := by
  have hpos : (0 : Int) < cycleDays := by decide
  obtain ⟨c, hc⟩ := CycleDay.exists_number_eq (Int.emod_nonneg (n + epochOffset) hpos.ne')
    (Int.emod_lt_of_pos (n + epochOffset) hpos)
  refine ⟨c, (n + epochOffset) / cycleDays, ?_⟩
  have hsum := Int.mul_ediv_add_emod (n + epochOffset) cycleDays
  rw [hc, Int.mul_comm, hsum, Int.add_sub_cancel]

theorem valid_ofDayNumber (n : Int) : (ofDayNumber n).Valid := by
  obtain ⟨c, cycle, rfl⟩ := exists_cycleDay n
  obtain ⟨hlow, hhigh⟩ := c.month_bounds
  have hday := c.day_of_month_bounds
  have hbounds := c.day_bounds
  have hleap := fun hlast => CycleDay.isLeap_of_day_eq (c := c) hlast cycle
  rw [c.ofDayNumber_number]
  simp only [Valid, CycleDay.calendarMonth]
  generalize c.calendarYear cycle = year at hleap ⊢
  generalize c.month = month at hlow hhigh hday ⊢
  simp only [daysBeforeMonth] at hday ⊢
  by_cases hyear : isLeap year = true
  · interval_cases month <;> simp [daysInMonth, hyear] <;> omega
  · have hlast : c.day ≠ 365 := fun hlast => hyear (hleap hlast)
    interval_cases month <;> simp [daysInMonth, hyear] <;> omega

/-- The date of a day number leads back to it. -/
theorem dayNumber_ofDayNumber (n : Int) : (ofDayNumber n).dayNumber = n := by
  obtain ⟨c, cycle, rfl⟩ := exists_cycleDay n
  have hmonth := c.month_bounds
  have hday := c.day_of_month_bounds
  obtain ⟨month, hcalendar⟩ : ∃ month : Nat, (month : Int) = c.calendarMonth :=
    ⟨c.calendarMonth.toNat, Int.toNat_of_nonneg (by rw [CycleDay.calendarMonth]; omega)⟩
  have hback : ((month : Int) + 9) % 12 = c.month := by
    rw [hcalendar, CycleDay.calendarMonth]
    omega
  have hyear : (if month ≤ 2 then c.calendarYear cycle - 1 else c.calendarYear cycle) =
      c.years + 400 * cycle := by
    rw [CycleDay.calendarYear, ← hcalendar]
    omega
  have hdate : ((c.day - daysBeforeMonth c.month + 1).toNat : Int) =
      c.day - daysBeforeMonth c.month + 1 := Int.toNat_of_nonneg (by omega)
  have hyears := c.day_eq
  have hcentury := c.century_bounds
  have hspan := c.span_bounds
  have hspanYear := c.year_bounds
  rw [c.ofDayNumber_number, ← hcalendar, Int.toNat_natCast]
  simp only [dayNumber, hback, hyear, hdate, cycleDays]
  have hrange : 0 ≤ c.years ∧ c.years ≤ 399 := by
    rw [CycleDay.years]
    omega
  omega

/-- Years of four digits lie within some 2000 years before and 9000 years after 1970. -/
theorem dayNumber_bounds {date : Date} (valid : date.Valid)
    (hyear : 0 ≤ date.year ∧ date.year ≤ 9999) :
    -1000000 ≤ date.dayNumber ∧ date.dayNumber ≤ 3000000 := by
  obtain ⟨-, -, hday, hlast⟩ := valid
  have hmonthEnd : date.day ≤ 31 := by
    refine hlast.trans ?_
    unfold daysInMonth
    split_ifs
    all_goals decide
  simp only [dayNumber, daysBeforeMonth, epochOffset]
  omega

end Verdict.Date
