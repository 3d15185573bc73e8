import Verdict.Time.Instant
import Verdict.Text.Blank
import Verdict.Text.Digit
import Verdict.Decimal.Power

/-!
# Reading timestamps

A *strict* timestamp has fields of fixed width and an offset; a *local* one has fields of free
width, no offset and is taken as UTC; a *relaxed* one allows blanks between its parts and needs an
offset.
-/

namespace Verdict

namespace Timestamp

/-! ## Parts -/

def number (most : Nat) (text : List Char) : Option (Nat × List Char) :=
  let digits := (text.take most).takeWhile Char.isDigit
  if digits.isEmpty then none else some (Text.numeral digits, text.drop digits.length)

def fixedNumber (width : Nat) (text : List Char) : Option (Nat × List Char) :=
  let digits := (text.take width).takeWhile Char.isDigit
  if digits.length = width then some (Text.numeral digits, text.drop width) else none

def expect (c : Char) : List Char → Option (List Char)
  | [] => none
  | d :: rest => if c = d then some rest else none

/-- The nanoseconds of a fraction behind its point: nine digits count, more are skipped. -/
def fractionDigits (text : List Char) : Option (Nat × List Char) :=
  let digits := text.takeWhile Char.isDigit
  if digits.isEmpty then none
  else
    let kept := digits.take 9
    some (Text.numeral kept * powerOfTen (9 - kept.length), text.drop digits.length)

def fraction : List Char → Option (Nat × List Char)
  | '.' :: rest => fractionDigits rest
  | text => some (0, text)

/-- Hours and minutes ahead of UTC, in seconds.  `separator` reads what stands between them. -/
def offset (separator : List Char → Option (List Char)) (text : List Char) :
    Option (Int × List Char) :=
  let signed (sign : Int) (text : List Char) : Option (Int × List Char) := do
    let (hours, text) ← fixedNumber 2 text
    let text ← separator text
    let (minutes, text) ← fixedNumber 2 text
    if 60 ≤ minutes then none else some (sign * (hours * 3600 + minutes * 60), text)
  match text with
  | 'Z' :: rest | 'z' :: rest => some (0, rest)
  | '+' :: rest => signed 1 rest
  | '-' :: rest | '\u2212' :: rest => signed (-1) rest
  | _ => none

/-! ## Fields -/

structure Written where
  year : Int
  month : Nat
  day : Nat
  hour : Nat := 0
  minute : Nat := 0
  second : Nat := 0
  nanos : Nat := 0

/-- The instant at the written time of day of the written date, so many seconds ahead of UTC.
The second 60 is a leap second. -/
def Written.instant? (written : Written) (ahead : Int) : Option Instant :=
  let date : Date := ⟨written.year, written.month, written.day⟩
  if date.Valid ∧ written.hour < 24 ∧ written.minute < 60 ∧ written.second ≤ 60 then
    let leap := written.second = 60
    let second := if leap then 59 else written.second
    let nanos := if leap then written.nanos + 1000000000 else written.nanos
    let seconds := date.dayNumber * Instant.secondsPerDay
      + (written.hour * 3600 + written.minute * 60 + second : Nat)
    let inRange := Instant.minSeconds ≤ seconds ∧ seconds ≤ Instant.maxSeconds
    if inRange ∧ Instant.minSeconds ≤ seconds - ahead ∧ seconds - ahead ≤ Instant.maxSeconds then
      some ⟨seconds - ahead, nanos⟩
    else none
  else none

/-! ## Strict timestamps -/

/-- Reads `YYYY-MM-DDThh:mm:ss`, a fraction and an offset, and nothing behind them. -/
def strict (text : List Char) : Option Instant := do
  let (year, text) ← fixedNumber 4 text
  let text ← expect '-' text
  let (month, text) ← fixedNumber 2 text
  let text ← expect '-' text
  let (day, text) ← fixedNumber 2 text
  let text ← (match text with
    | 't' :: rest | 'T' :: rest | ' ' :: rest => some rest
    | _ => none)
  let (hour, text) ← fixedNumber 2 text
  let text ← expect ':' text
  let (minute, text) ← fixedNumber 2 text
  let text ← expect ':' text
  let (second, text) ← fixedNumber 2 text
  let (nanos, text) ← fraction text
  let (ahead, text) ← offset (expect ':') text
  let written : Written := ⟨year, month, day, hour, minute, second, nanos⟩
  if text.isEmpty ∧ ahead.natAbs < 86400 then written.instant? ahead else none

/-! ## Local timestamps -/

def looseNumber (most : Nat) (text : List Char) : Option (Nat × List Char) :=
  number most (Text.trimStart text)

/-- A year behind blanks: at most four digits, or any number of digits behind a sign. -/
def looseYear (text : List Char) : Option (Int × List Char) :=
  match Text.trimStart text with
  | '-' :: rest => (number rest.length rest).map fun (year, rest) => (-year, rest)
  | '+' :: rest => (number rest.length rest).map fun (year, rest) => (year, rest)
  | text => (number 4 text).map fun (year, rest) => (year, rest)

/-- Reads `YYYY-MM-DD` with `gap` reading what may stand before a dash. -/
def looseDate (gap : List Char → List Char) (text : List Char) : Option (Written × List Char) := do
  let (year, text) ← looseYear text
  let text ← expect '-' (gap text)
  let (month, text) ← looseNumber 2 text
  let text ← expect '-' (gap text)
  let (day, text) ← looseNumber 2 text
  return ({ year, month, day }, text)

def looseTime (gap : List Char → List Char) (date : Written) (text : List Char) :
    Option (Written × List Char) := do
  let (hour, text) ← looseNumber 2 text
  let text ← expect ':' (gap text)
  let (minute, text) ← looseNumber 2 text
  let text ← expect ':' (gap text)
  let (second, text) ← looseNumber 2 text
  let (nanos, text) ← fraction text
  return ({ date with hour, minute, second, nanos }, text)

/-- Reads a date and a time of day with the letter `T` or blanks between them. -/
def localTime (text : List Char) : Option Instant := do
  let (date, text) ← looseDate id text
  let text := match text with
    | 'T' :: rest => rest
    | text => text
  let (written, text) ← looseTime id date text
  if text.isEmpty then written.instant? 0 else none

/-- Reads a date, which stands for its midnight. -/
def localDate (text : List Char) : Option Instant := do
  let (date, text) ← looseDate id text
  if text.isEmpty then date.instant? 0 else none

/-! ## Relaxed timestamps -/

def skipSeparators (text : List Char) : List Char :=
  text.dropWhile fun c => c == ':' || Text.isBlank c

def relaxedOffset (text : List Char) : Option (Int × List Char) :=
  if (text.take 3).map Char.toLower = ['u', 't', 'c'] then some (0, text.drop 3)
  else offset (fun text => some (skipSeparators text)) text

def relaxed (text : List Char) : Option Instant := do
  let (date, text) ← looseDate Text.trimStart text
  let text ← (match text with
    | 't' :: rest | 'T' :: rest | ' ' :: rest => some rest
    | _ => none)
  let (written, text) ← looseTime Text.trimStart date text
  let (ahead, text) ← relaxedOffset (Text.trimStart text)
  if (Text.trimStart text).isEmpty ∧ ahead.natAbs < 86400 then written.instant? ahead else none

end Timestamp

namespace Instant

/-- The instant that a text spells, strictly, as a local time or as a date.  Blanks around it do
not matter. -/
def ofText? (text : String) : Option Instant :=
  let text := Text.trim text.toList
  (Timestamp.strict text).or ((Timestamp.localTime text).or (Timestamp.localDate text))

def ofRelaxedText? (text : String) : Option Instant :=
  Timestamp.relaxed text.toList

end Instant
end Verdict
