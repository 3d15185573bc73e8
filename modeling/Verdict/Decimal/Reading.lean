import Verdict.Decimal.Fixed
import Verdict.Text.Digit

/-!
# Reading decimals

The float nearest to a decimal, a tie going to the even neighbour, and the grammar of decimals.
-/

namespace Verdict.Decimal

def digitCount (value : Nat) : Nat :=
  if value = 0 then 0 else (Nat.toDigits 10 value).length

/-- The `k` with `2 ^ k ≤ numerator / denominator < 2 ^ (k + 1)`, for a positive quotient. -/
def binaryPlace (numerator denominator : Nat) : Int :=
  let guess : Int := (numerator.log2 : Int) - denominator.log2
  if denominator * powerOfTwo guess.toNat ≤ numerator * powerOfTwo (-guess).toNat then guess
  else guess - 1

/-- The float nearest to a positive quotient: of all quotients with its exponent the one with the
nearest significand. -/
def nearestQuotient (numerator denominator : Nat) : Float :=
  let wanted := binaryPlace numerator denominator - 52
  let exponent := if wanted < Binary.leastExponent then Binary.leastExponent else wanted
  let significand := roundHalfEven (numerator * powerOfTwo (-exponent).toNat)
    (denominator * powerOfTwo exponent.toNat)
  Binary.toFloat significand exponent

/-- The float nearest to `digits · 10 ^ exponent`.  Decimals far beyond all floats are told by
their size alone. -/
def nearest (digits : Nat) (exponent : Int) : Float :=
  let place := digitCount digits + exponent
  if digits = 0 || place < -330 then 0
  else if 310 < place then 1.0 / 0.0
  else nearestQuotient (digits * powerOfTen exponent.toNat) (powerOfTen (-exponent).toNat)

def exponent? : List Char → Option Int
  | [] => some 0
  | 'e' :: rest | 'E' :: rest =>
    let (negative, digits) := match rest with
      | '-' :: digits => (true, digits)
      | '+' :: digits => (false, digits)
      | digits => (false, digits)
    if digits.isEmpty || !digits.all Char.isDigit then none
    else
      let value : Int := Text.numeral digits
      some (if negative then -value else value)
  | _ => none

/-- The float of a decimal without a sign: digits with a point before, among or behind them, and an
exponent. -/
def unsigned? (text : List Char) : Option Float := do
  let whole := text.takeWhile Char.isDigit
  let rest := text.dropWhile Char.isDigit
  let (fraction, rest) := match rest with
    | '.' :: rest => (rest.takeWhile Char.isDigit, rest.dropWhile Char.isDigit)
    | rest => ([], rest)
  if whole.isEmpty && fraction.isEmpty then none
  else
    let exponent ← exponent? rest
    return nearest (Text.numeral (whole ++ fraction)) (exponent - fraction.length)

def signed? : List Char → Option Float
  | '-' :: text => (unsigned? text).map fun value => -value
  | '+' :: text => unsigned? text
  | text => unsigned? text

/-- The float of a decimal or of a word for an infinity or for no number, in any case. -/
def word? (text : List Char) : Option Float :=
  let (negative, word) := match text with
    | '-' :: word => (true, word)
    | '+' :: word => (false, word)
    | word => (false, word)
  match String.ofList (word.map Char.toLower) with
  | "inf" | "infinity" => some (if negative then -1.0 / 0.0 else 1.0 / 0.0)
  | "nan" => some (0.0 / 0.0)
  | _ => signed? text

end Verdict.Decimal
