/-!
# Powers of two and of ten

The two bases of floating-point notation.
-/

namespace Verdict

def powerOfTwo (exponent : Nat) : Nat :=
  Nat.pow 2 exponent

def powerOfTen (exponent : Nat) : Nat :=
  Nat.pow 10 exponent

end Verdict
