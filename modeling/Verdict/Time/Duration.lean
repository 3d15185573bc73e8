import Verdict.Text.Blank
import Verdict.Text.Digit
import Verdict.Decimal.Power

/-!
# Durations

`Duration.text` writes a duration as a sum of units from years down to nanoseconds;
`Duration.ofText?` reads such sums.  A year is 365.25 days and a month 30.44 days.
-/

namespace Verdict

structure Duration where
  nanos : Nat
deriving DecidableEq

namespace Duration

def zero : Duration := ⟨0⟩

instance : Add Duration := ⟨fun a b => ⟨a.nanos + b.nanos⟩⟩

def secondNanos : Nat := 1000000000

def ofSeconds (count : Nat) : Duration := ⟨count * secondNanos⟩

def ofMillis (count : Nat) : Duration := ⟨count * 1000000⟩

def seconds (duration : Duration) : Nat := duration.nanos / secondNanos

def subsecondNanos (duration : Duration) : Nat := duration.nanos % secondNanos

/-! ## Writing -/

/-- Units from the longest to the shortest: the name, the nanoseconds, and whether the name has a
plural. -/
def units : List (String × Nat × Bool) :=
  [("year", 31557600 * secondNanos, true), ("month", 2630016 * secondNanos, true),
    ("day", 86400 * secondNanos, true), ("h", 3600 * secondNanos, false),
    ("m", 60 * secondNanos, false), ("s", secondNanos, false), ("ms", 1000000, false),
    ("us", 1000, false), ("ns", 1, false)]

/-- The parts of a number of nanoseconds: as many of each unit as there is room for. -/
def parts (nanos : Nat) : List (String × Nat × Bool) → List String
  | [] => []
  | (name, size, hasPlural) :: rest =>
    let count := nanos / size
    if count = 0 then parts nanos rest
    else
      let ending := if hasPlural && count ≠ 1 then "s" else ""
      (Nat.repr count ++ name ++ ending) :: parts (nanos % size) rest

def text (duration : Duration) : String :=
  if duration.nanos = 0 then "0s" else " ".intercalate (parts duration.nanos units)

/-- A quotient as a decimal without zeros at its end; the divisor is `10 ^ places`. -/
def decimalText (nanos places : Nat) : String :=
  let fraction := nanos % powerOfTen places
  let digits := Nat.toDigits 10 fraction
  let shown := List.replicate (places - digits.length) '0' ++ digits
  let kept := (shown.reverse.dropWhile (· == '0')).reverse
  Nat.repr (nanos / powerOfTen places) ++ (if kept.isEmpty then "" else "." ++ String.ofList kept)

/-- The text of a duration in one unit, the longest of which there is at least one up to a
second. -/
def brief (duration : Duration) : String :=
  if secondNanos ≤ duration.nanos then decimalText duration.nanos 9 ++ "s"
  else if 1000000 ≤ duration.nanos then decimalText duration.nanos 6 ++ "ms"
  else if 1000 ≤ duration.nanos then decimalText duration.nanos 3 ++ "µs"
  else Nat.repr duration.nanos ++ "ns"

/-! ## Reading -/

/-- A unit as it is read.  Seconds and nanoseconds are counted apart, each within 64 bits: a unit
is some of the one or of the other, and its fractions likewise. -/
structure Unit where
  seconds : Nat
  nanos : Nat
  fractionSeconds : Nat
  fractionNanos : Nat

namespace Unit

def ofNanos (count : Nat) : Unit := ⟨0, count, 0, count⟩

def fine (count : Nat) : Unit := ⟨count, 0, 0, count * secondNanos⟩

def coarse (count : Nat) : Unit := ⟨count, 0, count, 0⟩

def ofName? (name : List Char) : Option Unit :=
  match String.ofList name with
  | "nanos" | "nsec" | "ns" => some ⟨0, 1, 0, 0⟩
  | "usec" | "us" | "µs" => some (ofNanos 1000)
  | "millis" | "msec" | "ms" => some (ofNanos 1000000)
  | "seconds" | "second" | "secs" | "sec" | "s" => some (fine 1)
  | "minutes" | "minute" | "min" | "mins" | "m" => some (fine 60)
  | "hours" | "hour" | "hr" | "hrs" | "h" => some (coarse 3600)
  | "days" | "day" | "d" => some (coarse 86400)
  | "weeks" | "week" | "wk" | "wks" | "w" => some (coarse 604800)
  | "months" | "month" | "M" => some (coarse 2630016)
  | "years" | "year" | "yr" | "yrs" | "y" => some (coarse 31557600)
  | _ => none

end Unit

def word? (value : Nat) : Option Nat :=
  if value < powerOfTwo 64 then some value else none

def quotient? (numerator denominator : Nat) : Option Nat :=
  if numerator % denominator = 0 then some (numerator / denominator) else none

def extend? (duration : Duration) (seconds nanos : Nat) : Option Duration := do
  let nanos ← word? (duration.subsecondNanos + nanos)
  let total : Duration := ⟨(duration.seconds + seconds) * secondNanos + nanos⟩
  let _ ← word? total.seconds
  return total

def addWhole? (duration : Duration) (count : Nat) (unit : Unit) : Option Duration := do
  duration.extend? (← word? (count * unit.seconds)) (← word? (count * unit.nanos))

/-- Adds a fraction of a unit, which must come out in seconds or nanoseconds exactly.  A unit that
has no parts has no fractions. -/
def addFraction? (duration : Duration) (numerator denominator : Nat) (unit : Unit) :
    Option Duration := do
  if unit.fractionSeconds = 0 ∧ unit.fractionNanos = 0 then none
  else
    duration.extend? (← quotient? (← word? (numerator * unit.fractionSeconds)) denominator)
      (← quotient? (← word? (numerator * unit.fractionNanos)) denominator)

/-- Whether a character goes on with a number: digits may stand apart. -/
def isNumberChar (c : Char) : Bool := c.isDigit || Text.isBlank c

def isUnitChar (c : Char) : Bool := c.isAlpha || c == 'µ'

def digits (text : List Char) : List Nat × List Char :=
  (((text.takeWhile isNumberChar).filter Char.isDigit).map Text.digitValue,
    text.dropWhile isNumberChar)

def number? (digits : List Nat) : Option Nat :=
  word? (digits.foldl (fun total digit => total * 10 + digit) 0)

def fraction? : List Char → Option (List Nat × List Char)
  | '.' :: text =>
    match digits text with
    | ([], _) => none
    | found => some found
  | text => some ([], text)

/-- Adds what a text says, one number with its unit after another. -/
def sum? (fuel : Nat) (total : Duration) (text : List Char) : Option Duration :=
  match fuel, Text.trimStart text with
  | _, [] => some total
  | 0, _ => none
  | fuel + 1, c :: rest =>
    if c.isDigit then do
      let (whole, rest) := digits (c :: rest)
      let count ← number? whole
      let (fraction, rest) ← fraction? rest
      let denominator ← word? (powerOfTen fraction.length)
      let unit ← Unit.ofName? (rest.takeWhile isUnitChar)
      let total ← total.addWhole? count unit
      let total ← if fraction.isEmpty then some total
        else total.addFraction? (← number? fraction) denominator unit
      sum? fuel total (rest.dropWhile isUnitChar)
    else none

/-- Reads a duration.  A lone zero needs no unit; nothing at all is no duration. -/
def ofText? (text : String) : Option Duration :=
  if text == "0" then some zero
  else if Text.hasInk text.toList then sum? text.length zero text.toList
  else none

end Duration
end Verdict
