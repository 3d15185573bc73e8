import Verdict.Operator.Basic

/-!
# Ranges and remainders

The remainder has the sign of the divisor.  It is exact for integers; otherwise all numbers are
floats and it may be off by a small tolerance.
-/

namespace Verdict.Operator

/-- Whether a number lies between two bounds, bounds included. -/
def between : Test := fun actual expected _ =>
  match (defined actual).bind Json.float?, floatPair expected "min" "max" with
  | some value, some (least, greatest) => least ≤ value && value ≤ greatest
  | _, _ => false

/-- The remainder with the sign of the divisor, from remainders with the sign of the dividend. -/
def flooredRemainder (value divisor : Int) : Int :=
  ((value.tmod divisor) + divisor).tmod divisor

/-- The greatest difference at which two float remainders agree. -/
def tolerance : Float := 1e-9

def leavesRemainder (value divisor remainder : Float) : Bool :=
  if divisor == 0 || !divisor.isFinite || !value.isFinite then false
  else (value - divisor * (value / divisor).floor - remainder).abs ≤ tolerance

/-- Whether a number divided by the first operand leaves the second one. -/
def modulo : Test := fun actual expected _ =>
  match defined actual with
  | some (.number value) =>
    match (Json.number value).int?, intPair expected "divisor" "remainder" with
    | some value, some (divisor, remainder) =>
      divisor != 0 && flooredRemainder value divisor == remainder
    | _, _ =>
      match floatPair expected "divisor" "remainder" with
      | some (divisor, remainder) => leavesRemainder value.toFloat divisor remainder
      | none => false
  | _ => false

def numerics : List (String × Test) :=
  [("between", between), ("modulo", modulo)]

end Verdict.Operator
