import Verdict.Decimal.Fixed
import Verdict.Text.Digit
import Verdict.Proofs.Text.Blanks
import Mathlib.Algebra.Group.Nat.Defs
import Mathlib.Tactic.Common

/-!
# Numbers in digits

The digits of a number, with zeros in front or without, write that number
(`Decimal.numeral_padded`).
-/

namespace Verdict

namespace Text

def Digits (text : List Char) : Prop :=
  ∀ c ∈ text, c.isDigit = true

theorem numeral_eq_ofDigitChars (digits : List Char) :
    numeral digits = Nat.ofDigitChars 10 digits 0 := by
  simp only [numeral, Nat.ofDigitChars, digitValue, Nat.mul_comm]

theorem numeral_toDigits (n : Nat) : numeral (Nat.toDigits 10 n) = n := by
  rw [numeral_eq_ofDigitChars]
  exact Nat.ofDigitChars_toDigits (by decide) (by decide)

theorem numeral_zeros_append (count : Nat) (digits : List Char) :
    numeral (List.replicate count '0' ++ digits) = numeral digits := by
  induction count with
  | zero => rfl
  | succ count ih =>
      rw [List.replicate_succ, List.cons_append]
      exact ih

theorem takeWhile_isDigit_append {digits rest : List Char} (hdigits : Digits digits)
    (hrest : rest.takeWhile Char.isDigit = []) :
    (digits ++ rest).takeWhile Char.isDigit = digits := by
  rw [List.takeWhile_append_of_pos hdigits, hrest, List.append_nil]

theorem not_isBlank_of_isDigit {c : Char} (h : c.isDigit = true) : isBlank c = false := by
  have hrange : 48 ≤ c.toNat ∧ c.toNat ≤ 57 := by
    simpa [Char.isDigit, UInt32.le_iff_toNat_le] using h
  simp only [isBlank, Bool.or_eq_false_iff, Bool.and_eq_false_iff, decide_eq_false_iff_not,
    beq_eq_false_iff_ne]
  omega

theorem unbroken_of_digits {digits : List Char} (hdigits : Digits digits) (hne : digits ≠ []) :
    Unbroken digits :=
  ⟨hne, fun c hc => not_isBlank_of_isDigit (hdigits c hc)⟩

end Text

namespace Decimal

theorem toList_padded (width value : Nat) :
    (padded width value).toList =
      List.replicate (width - (Nat.toDigits 10 value).length) '0' ++ Nat.toDigits 10 value :=
  String.toList_ofList

theorem digits_padded (width value : Nat) : Text.Digits (padded width value).toList := by
  intro c hc
  rw [toList_padded, List.mem_append] at hc
  rcases hc with hzero | hdigit
  · rw [List.eq_of_mem_replicate hzero]
    rfl
  · exact Nat.isDigit_of_mem_toDigits (by decide) (by decide) hdigit

theorem padded_ne_nil (width value : Nat) : (padded width value).toList ≠ [] := by
  rw [toList_padded]
  exact List.append_ne_nil_of_right_ne_nil _ Nat.toDigits_ne_nil

theorem unbroken_padded (width value : Nat) : Text.Unbroken (padded width value).toList :=
  Text.unbroken_of_digits (digits_padded width value) (padded_ne_nil width value)

theorem numeral_padded (width value : Nat) :
    Text.numeral (padded width value).toList = value := by
  rw [toList_padded, Text.numeral_zeros_append, Text.numeral_toDigits]

theorem length_padded {width value : Nat} (hwidth : 0 < width) (hvalue : value < 10 ^ width) :
    (padded width value).toList.length = width := by
  have hlength := (Nat.length_toDigits_le_iff (by decide) hwidth).mpr hvalue
  rw [toList_padded, List.length_append, List.length_replicate]
  omega

end Decimal
end Verdict
