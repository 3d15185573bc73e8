import Verdict.Time.Calendar
import Verdict.Decimal.Fixed

/-!
# Instants

A point in time is a number of whole seconds since 1970-01-01T00:00:00Z and a fraction of a second
in nanoseconds.  A leap second is a fraction of a whole second or more on the second before it.
-/

namespace Verdict

structure Instant where
  seconds : Int
  nanos : Nat
deriving DecidableEq, Repr

namespace Instant

def secondsPerDay : Int := 86400

def nanosPerSecond : Int := 1000000000

/-- The first second of the year -262143, the earliest instant. -/
def minSeconds : Int := -8334601228800

/-- The last second of the year 262142, the latest instant. -/
def maxSeconds : Int := 8210266876799

/-- The instant so many seconds after the start of 1970, within the range of years. -/
def ofSeconds? (seconds : Int) : Option Instant :=
  if minSeconds ≤ seconds ∧ seconds ≤ maxSeconds then some ⟨seconds, 0⟩ else none

/-- Earlier comes first; a leap second comes behind the second before it. -/
def before (a b : Instant) : Bool :=
  a.seconds < b.seconds || (a.seconds == b.seconds && a.nanos < b.nanos)

def dayNumber (instant : Instant) : Int :=
  instant.seconds / secondsPerDay

def secondOfDay (instant : Instant) : Int :=
  instant.seconds % secondsPerDay

/-- Nanoseconds from `b` to `a`.  A leap second at the earlier time of day counts as passed,
one at the later time of day counts as far as its fraction goes. -/
def nanosSince (a b : Instant) : Int :=
  let seconds := a.seconds - b.seconds
  let leap : Int :=
    if b.secondOfDay < a.secondOfDay ∧ nanosPerSecond ≤ b.nanos then 1
    else if a.secondOfDay < b.secondOfDay ∧ nanosPerSecond ≤ a.nanos then -1
    else 0
  (seconds + leap) * nanosPerSecond + ((a.nanos : Int) - b.nanos)

/-- Milliseconds from `b` to `a`, toward zero. -/
def millisSince (a b : Instant) : Int :=
  (nanosSince a b).tdiv 1000000

/-! ## Text -/

/-- A year of four digits, or with a sign where it has more or is negative. -/
def yearText (year : Int) : String :=
  if 0 ≤ year ∧ year ≤ 9999 then Decimal.padded 4 year.natAbs
  else (if year < 0 then "-" else "+") ++ Decimal.padded 4 year.natAbs

def fractionText (nanos : Nat) : String :=
  if nanos = 0 then ""
  else if nanos % 1000000 = 0 then "." ++ Decimal.padded 3 (nanos / 1000000)
  else if nanos % 1000 = 0 then "." ++ Decimal.padded 6 (nanos / 1000)
  else "." ++ Decimal.padded 9 nanos

/-- The instant as a UTC timestamp, a leap second as the sixtieth second. -/
def text (instant : Instant) : String :=
  let date := Date.ofDayNumber instant.dayNumber
  let second := instant.secondOfDay.toNat
  let leap := if 1000000000 ≤ instant.nanos then 1 else 0
  yearText date.year ++ "-" ++ Decimal.padded 2 date.month ++ "-" ++ Decimal.padded 2 date.day ++
    "T" ++ Decimal.padded 2 (second / 3600) ++ ":" ++ Decimal.padded 2 (second / 60 % 60) ++ ":" ++
    Decimal.padded 2 (second % 60 + leap) ++ fractionText (instant.nanos % 1000000000) ++ "Z"

end Instant
end Verdict
