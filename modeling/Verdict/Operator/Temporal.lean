import Verdict.Operator.Basic
import Verdict.Time.Timestamp

/-!
# Dates

Dates are texts, as `Instant.ofText?` reads them, or whole seconds since the start of 1970.
-/

namespace Verdict

def Instant.ofJson? : Json → Option Instant
  | .string text => Instant.ofText? text
  | .number (.int seconds) => Instant.ofSeconds? seconds
  | _ => none

namespace Operator

def instantsOf (actual : Option Json) (expected : Json) : Option (Instant × Instant) :=
  ((defined actual).bind Instant.ofJson?).bind fun a =>
    (Instant.ofJson? expected).map fun b => (a, b)

def beforeDate : Test := fun actual expected _ =>
  (instantsOf actual expected).any fun (a, b) => a.before b

def afterDate : Test := fun actual expected _ =>
  (instantsOf actual expected).any fun (a, b) => b.before a

def millisPerDay : Float := 86400000

/-- Whether a date is at most so many days from now, before or after. -/
def withinDays : Test := fun actual expected now =>
  match (defined actual).bind Instant.ofJson?, expected.float? with
  | some date, some days =>
    days.isFinite && 0 ≤ days &&
      Float.ofNat (date.millisSince now).natAbs ≤ days * millisPerDay
  | _, _ => false

def weekdays : List String :=
  ["sunday", "monday", "tuesday", "wednesday", "thursday", "friday", "saturday"]

/-- The natural number a text spells, with or without a plus sign. -/
def naturalText? (text : List Char) : Option Nat :=
  let digits := match text with
    | '+' :: rest => rest
    | text => text
  if digits.isEmpty ∨ !digits.all Char.isDigit then none else some (Text.numeral digits)

/-- The day of the week that a text names in full, by its first three letters or by number. -/
def weekdayNamed? (text : String) : Option Nat :=
  let name := (Text.trim text.toList).map Char.toLower
  match naturalText? name with
  | some index => if index < 7 then some index else none
  | none => weekdays.findIdx? fun day => day.toList == name || day.toList.take 3 == name

/-- The day of the week that an operand stands for, Sunday being 0. -/
def weekday? : Json → Option Nat
  | .number (.int index) => if 0 ≤ index ∧ index < 7 then some index.toNat else none
  | .string text => weekdayNamed? text
  | _ => none

def dayOfWeek : Test := fun actual expected _ =>
  match (defined actual).bind Instant.ofJson?, weekday? expected with
  | some date, some wanted => Date.weekday date.dayNumber == wanted
  | _, _ => false

def temporals : List (String × Test) :=
  [("before_date", beforeDate), ("after_date", afterDate), ("within_days", withinDays),
    ("day_of_week", dayOfWeek)]

end Operator
end Verdict
