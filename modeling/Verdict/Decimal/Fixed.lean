import Verdict.Decimal.Binary

/-!
# Fixed places

A float with a fixed number of places after the point, correctly rounded from its exact value.
-/

namespace Verdict.Decimal

/-- The quotient rounded to the nearest integer, a half to the even one. -/
def roundHalfEven (numerator denominator : Nat) : Nat :=
  let quotient := numerator / denominator
  let twice := 2 * (numerator % denominator)
  if twice < denominator then quotient
  else if denominator < twice then quotient + 1
  else if quotient % 2 = 0 then quotient
  else quotient + 1

def padded (width value : Nat) : String :=
  let digits := Nat.toDigits 10 value
  String.ofList (List.replicate (width - digits.length) '0' ++ digits)

/-- A float with `places` digits after the point. -/
def fixed (places : Nat) (value : Float) : String :=
  match Binary.ofFloat value with
  | .nan => "NaN"
  | .infinite negative => if negative then "-inf" else "inf"
  | .finite negative significand exponent =>
    let scaled := roundHalfEven (significand * powerOfTen places * powerOfTwo exponent.toNat)
      (powerOfTwo (-exponent).toNat)
    let sign := if negative then "-" else ""
    let whole := padded 1 (scaled / powerOfTen places)
    if places = 0 then sign ++ whole
    else sign ++ whole ++ "." ++ padded places (scaled % powerOfTen places)

theorem roundHalfEven_of_lt {numerator denominator : Nat}
    (h : 2 * (numerator % denominator) < denominator) :
    roundHalfEven numerator denominator = numerator / denominator := by
  simp [roundHalfEven, h]

theorem roundHalfEven_of_gt {numerator denominator : Nat}
    (h : denominator < 2 * (numerator % denominator)) :
    roundHalfEven numerator denominator = numerator / denominator + 1 := by
  simp [roundHalfEven, h, Nat.lt_asymm h]

end Verdict.Decimal
