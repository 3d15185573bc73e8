/-!
# The Gregorian calendar

Dates are counted in days from 1970-01-01.  Years are counted from March, so that a leap day is the
last day of its year.
-/

namespace Verdict

/-- A day of the Gregorian calendar. -/
structure Date where
  year : Int
  month : Nat
  day : Nat
deriving DecidableEq, Repr

namespace Date

def isLeap (year : Int) : Bool :=
  year % 4 == 0 && (year % 100 != 0 || year % 400 == 0)

def daysInMonth (year : Int) (month : Nat) : Nat :=
  if month = 2 then (if isLeap year then 29 else 28)
  else if month = 4 ∨ month = 6 ∨ month = 9 ∨ month = 11 then 30
  else 31

def Valid (date : Date) : Prop :=
  1 ≤ date.month ∧ date.month ≤ 12 ∧ 1 ≤ date.day ∧ date.day ≤ daysInMonth date.year date.month

instance (date : Date) : Decidable date.Valid :=
  inferInstanceAs (Decidable (_ ∧ _ ∧ _ ∧ _))

def cycleDays : Int := 146097

/-- Days from the first of March of the year 0 to 1970-01-01. -/
def epochOffset : Int := 719468

/-- Days from the first of March to the start of a month, counted from March. -/
def daysBeforeMonth (month : Int) : Int :=
  (153 * month + 2) / 5

def dayNumber (date : Date) : Int :=
  let year := if date.month ≤ 2 then date.year - 1 else date.year
  let month := ((date.month : Int) + 9) % 12
  365 * year + year / 4 - year / 100 + year / 400 + daysBeforeMonth month + date.day - 1
    - epochOffset

def ofDayNumber (number : Int) : Date :=
  let shifted := number + epochOffset
  let cycle := shifted / cycleDays
  let inCycle := shifted % cycleDays
  let year := (inCycle - inCycle / 1460 + inCycle / 36524 - inCycle / 146096) / 365
  let inYear := inCycle - (365 * year + year / 4 - year / 100)
  let month := (5 * inYear + 2) / 153
  let day := inYear - daysBeforeMonth month + 1
  let calendarMonth := if month < 10 then month + 3 else month - 9
  let calendarYear := year + cycle * 400 + (if calendarMonth ≤ 2 then 1 else 0)
  ⟨calendarYear, calendarMonth.toNat, day.toNat⟩

/-- The day of the week, Sunday being 0. -/
def weekday (number : Int) : Nat :=
  ((number + 4) % 7).toNat

example : dayNumber ⟨1970, 1, 1⟩ = 0 := by decide
example : dayNumber ⟨2000, 2, 29⟩ = 11016 := by decide
example : ofDayNumber 11016 = ⟨2000, 2, 29⟩ := by decide
example : ofDayNumber (-719468) = ⟨0, 3, 1⟩ := by decide

end Date
end Verdict
