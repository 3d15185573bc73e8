import Verdict.Decimal.Shortest

/-!
# Notations for floats

Every text of a float shows its shortest digits.  A `FloatNotation` says when they are written
positionally and how an exponent looks.
-/

namespace Verdict

/-- How the digits of a float are laid out. -/
structure FloatNotation where
  /-- The least place of a first digit that is written positionally, if there is a limit. -/
  least : Option Int
  greatest : Option Int
  /-- Whether a whole number is written with a fraction of zero. -/
  keepPoint : Bool
  plusSign : Bool

namespace FloatNotation

/-- Positional from `0.00001` up to below `10 ^ 16`, always with a point. -/
def json : FloatNotation :=
  { least := some (-4), greatest := some 16, keepPoint := true, plusSign := true }

/-- Positional always, a whole number without a point. -/
def plain : FloatNotation :=
  { least := none, greatest := none, keepPoint := false, plusSign := false }

/-- Positional from `0.0001` up to below `10 ^ 16`, always with a point. -/
def precise : FloatNotation :=
  { least := some (-3), greatest := some 16, keepPoint := true, plusSign := false }

def positional (layout : FloatNotation) (digits : List Char) (exponent : Int) : List Char :=
  let place := digits.length + exponent
  if 0 ≤ exponent then
    digits ++ List.replicate exponent.toNat '0' ++ (if layout.keepPoint then ['.', '0'] else [])
  else if 0 < place then
    digits.take place.toNat ++ '.' :: digits.drop place.toNat
  else
    '0' :: '.' :: List.replicate (-place).toNat '0' ++ digits

def scientific (layout : FloatNotation) (digits : List Char) (exponent : Int) : List Char :=
  let power := digits.length + exponent - 1
  let fraction := if digits.length = 1 then [] else '.' :: digits.drop 1
  let sign := if power < 0 then ['-'] else if layout.plusSign then ['+'] else []
  digits.take 1 ++ fraction ++ 'e' :: sign ++ Nat.toDigits 10 power.natAbs

def decimal (layout : FloatNotation) (value : Decimal) : List Char :=
  let digits := Nat.toDigits 10 value.digits
  let place := digits.length + value.exponent
  let tooSmall := value.digits ≠ 0 ∧ layout.least.any (place < ·)
  let tooGreat := layout.greatest.any (· < place)
  if tooSmall ∨ tooGreat then layout.scientific digits value.exponent
  else layout.positional digits value.exponent

def text (layout : FloatNotation) (value : Float) : String :=
  match Binary.ofFloat value with
  | .nan => "NaN"
  | .infinite negative => if negative then "-inf" else "inf"
  | .finite negative significand exponent =>
    let sign := if negative then ['-'] else []
    String.ofList (sign ++ layout.decimal (Decimal.shortest significand exponent))

end FloatNotation
end Verdict
