/-!
# Digits

The values of decimal and hexadecimal digits, and the number that decimal digits write.
-/

namespace Verdict.Text

def digitValue (c : Char) : Nat :=
  c.toNat - '0'.toNat

/-- The number that decimal digits write, zero for no digits. -/
def numeral (digits : List Char) : Nat :=
  digits.foldl (fun total c => total * 10 + digitValue c) 0

def hexDigit? (c : Char) : Option Nat :=
  if c.isDigit then some (digitValue c)
  else if 'a' ≤ c ∧ c ≤ 'f' then some (c.toNat - 'a'.toNat + 10)
  else if 'A' ≤ c ∧ c ≤ 'F' then some (c.toNat - 'A'.toNat + 10)
  else none

def hexNumeral? (digits : List Char) : Option Nat :=
  (digits.mapM hexDigit?).map fun values => values.foldl (fun total value => total * 16 + value) 0

theorem numeral_append_singleton (digits : List Char) (c : Char) :
    numeral (digits ++ [c]) = numeral digits * 10 + digitValue c := by
  simp [numeral]

end Verdict.Text
