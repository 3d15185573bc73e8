import Verdict.Decimal.Binary

/-!
# Shortest decimal digits

The decimal written for a finite double has the fewest significant digits among the decimals that
round to that double, and among those it is the nearest one.  The double `m · 2 ^ e` is the value of
every real between the midpoints to its two neighbours.
-/

namespace Verdict

/-- The number `digits · 10 ^ exponent`. -/
structure Decimal where
  digits : Nat
  exponent : Int
deriving DecidableEq, Repr

namespace Decimal

/-- The reals that round to a positive double, as numerators over one denominator. -/
structure Interval where
  value : Nat
  low : Nat
  high : Nat
  denominator : Nat
  closed : Bool

/-- The interval of `significand · 2 ^ exponent`.  All numbers are counted in quarters of
`2 ^ exponent`; below a power of two the neighbour is half as far away. -/
def Interval.ofBinary (significand : Nat) (exponent : Int) : Interval :=
  let quarter := exponent - 2
  let scale := powerOfTwo quarter.toNat
  let below :=
    if significand = Binary.leadingBit ∧ Binary.leastExponent < exponent then 1 else 2
  { value := 4 * significand * scale
    low := (4 * significand - below) * scale
    high := (4 * significand + 2) * scale
    denominator := powerOfTwo (-quarter).toNat
    closed := significand % 2 == 0 }

def compareWith (digits : Nat) (exponent : Int) (numerator denominator : Nat) : Ordering :=
  compare (digits * powerOfTen exponent.toNat * denominator)
    (numerator * powerOfTen (-exponent).toNat)

def Interval.holds (interval : Interval) (digits : Nat) (exponent : Int) : Bool :=
  let low := compareWith digits exponent interval.low interval.denominator
  let high := compareWith digits exponent interval.high interval.denominator
  if interval.closed then low != .lt && high != .gt else low == .gt && high == .lt

def leadingZeros (fuel numerator denominator : Nat) : Nat :=
  match fuel with
  | 0 => 0
  | fuel + 1 =>
    if denominator ≤ numerator then 0
    else leadingZeros fuel (numerator * 10) denominator + 1

/-- The place of the first significant digit: the `k` with `10 ^ (k - 1) ≤ value < 10 ^ k`. -/
def magnitude (numerator denominator : Nat) : Int :=
  if denominator ≤ numerator then (Nat.toDigits 10 (numerator / denominator)).length
  else 1 - (leadingZeros 400 numerator denominator : Int)

/-- The decimals with `count` digits next to the value, if one of them lies in the interval. -/
def Interval.nearest? (interval : Interval) (magnitude : Int) (count : Nat) : Option Decimal :=
  let exponent := magnitude - count
  let lower := interval.value * powerOfTen (-exponent).toNat /
    (interval.denominator * powerOfTen exponent.toNat)
  let upper := lower + 1
  match interval.holds lower exponent, interval.holds upper exponent with
  | false, false => none
  | true, false => some ⟨lower, exponent⟩
  | false, true => some ⟨upper, exponent⟩
  | true, true =>
    match compareWith (lower + upper) exponent (2 * interval.value) interval.denominator with
    | .gt => some ⟨lower, exponent⟩
    | .lt => some ⟨upper, exponent⟩
    | .eq => some ⟨if lower % 2 = 0 then lower else upper, exponent⟩

def trim (fuel : Nat) (decimal : Decimal) : Decimal :=
  match fuel with
  | 0 => decimal
  | fuel + 1 =>
    if decimal.digits ≠ 0 ∧ decimal.digits % 10 = 0 then
      trim fuel ⟨decimal.digits / 10, decimal.exponent + 1⟩
    else decimal

/-- The shortest decimal that rounds to `significand · 2 ^ exponent`. -/
def shortest (significand : Nat) (exponent : Int) : Decimal :=
  if significand = 0 then ⟨0, 0⟩
  else
    let interval := Interval.ofBinary significand exponent
    let place := magnitude interval.value interval.denominator
    let counts := (List.range 17).map (· + 1)
    trim 20 ((counts.findSome? (interval.nearest? place)).getD ⟨0, 0⟩)

end Decimal
end Verdict
