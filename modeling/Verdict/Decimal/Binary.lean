import Verdict.Decimal.Power

/-!
# Binary floating-point numbers, exactly

A finite double is `± significand · 2 ^ exponent` for natural numbers below `2 ^ 53`.
-/

namespace Verdict

/-- The exact meaning of a 64-bit floating-point number. -/
inductive Binary where
  | finite (negative : Bool) (significand : Nat) (exponent : Int)
  | infinite (negative : Bool)
  | nan
deriving DecidableEq

namespace Binary

def leastExponent : Int := -1074

/-- The significand with which the upper half of every binade above the least one starts. -/
def leadingBit : Nat := powerOfTwo 52

/-- Reads sign, biased exponent and fraction off the 64 bits. -/
def ofBits (bits : Nat) : Binary :=
  let negative := bits / powerOfTwo 63 % 2 == 1
  let biased := bits / leadingBit % 2048
  let fraction := bits % leadingBit
  if biased = 2047 then
    if fraction = 0 then infinite negative else nan
  else if biased = 0 then finite negative fraction leastExponent
  else finite negative (leadingBit + fraction) (leastExponent + (biased - 1 : Nat))

def ofFloat (value : Float) : Binary :=
  ofBits value.toBits.toNat

def infinityBits : Nat := 2047 * leadingBit

/-- The bits of `significand · 2 ^ exponent`, where the significand has all of its bits unless the
exponent is the least one.  One significand too large stands for the next binade. -/
def toBits (significand : Nat) (exponent : Int) : Nat :=
  if significand < leadingBit then significand
  else (exponent - leastExponent + 1).toNat * leadingBit + (significand - leadingBit)

/-- The float `significand · 2 ^ exponent`, infinite beyond the greatest float. -/
def toFloat (significand : Nat) (exponent : Int) : Float :=
  let bits := toBits significand exponent
  Float.ofBits (UInt64.ofNat (if bits < infinityBits then bits else infinityBits))

end Binary
end Verdict
