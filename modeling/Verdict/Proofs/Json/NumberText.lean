import Verdict.Json.Printer
import Verdict.Proofs.Text.Digits
import Mathlib.Tactic.Common

/-!
# The text of a number

A number that stands where a text is wanted is taken as it is written.  That text is never blank
(`Number.text_inked`).
-/

namespace Verdict

/-- A text with a character that is not white space. -/
def Text.Inked (text : List Char) : Prop :=
  ∃ c ∈ text, Text.isBlank c = false

namespace Text

theorem Inked.append_left {text : List Char} (h : Inked text) (before : List Char) :
    Inked (before ++ text) := by
  obtain ⟨c, hc, hink⟩ := h
  exact ⟨c, List.mem_append_right before hc, hink⟩

theorem Inked.append_right {text : List Char} (h : Inked text) (after : List Char) :
    Inked (text ++ after) := by
  obtain ⟨c, hc, hink⟩ := h
  exact ⟨c, List.mem_append_left after hc, hink⟩

theorem inked_of_mem {text : List Char} (c : Char) (hc : c ∈ text) (hink : isBlank c = false) :
    Inked text :=
  ⟨c, hc, hink⟩

theorem inked_toDigits (n : Nat) : Inked (Nat.toDigits 10 n) := by
  obtain ⟨c, hc⟩ := List.exists_mem_of_ne_nil _ (Nat.toDigits_ne_nil (b := 10) (n := n))
  exact ⟨c, hc, not_isBlank_of_isDigit (Nat.isDigit_of_mem_toDigits (by decide) (by decide) hc)⟩

end Text

namespace FloatNotation

open Text

theorem inked_positional (layout : FloatNotation) {digits : List Char} (h : Inked digits)
    (exponent : Int) : Inked (layout.positional digits exponent) := by
  unfold positional
  dsimp only
  split
  · exact (h.append_right _).append_right _
  · split
    · exact inked_of_mem '.' (by simp) (by decide)
    · exact inked_of_mem '0' (by simp) (by decide)

theorem inked_scientific (layout : FloatNotation) (digits : List Char) (exponent : Int) :
    Inked (layout.scientific digits exponent) :=
  inked_of_mem 'e' (by simp [scientific]) (by decide)

theorem inked_decimal (layout : FloatNotation) (value : Decimal) :
    Inked (layout.decimal value) := by
  unfold decimal
  dsimp only
  split
  · exact layout.inked_scientific _ _
  · exact layout.inked_positional (inked_toDigits _) _

theorem inked_text (layout : FloatNotation) (value : Float) :
    Inked (layout.text value).toList := by
  unfold text
  split
  · exact inked_of_mem 'N' (by decide) (by decide)
  · split
    · exact inked_of_mem '-' (by decide) (by decide)
    · exact inked_of_mem 'i' (by decide) (by decide)
  · dsimp only
    rw [String.toList_ofList]
    exact (layout.inked_decimal _).append_left _

end FloatNotation

/-- No number is written as a blank text. -/
theorem Number.text_inked (number : Number) : Text.Inked number.text.toList := by
  cases number with
  | int value =>
      have hdigits : Text.Inked (Nat.repr value.natAbs).toList := by
        rw [Nat.repr, String.toList_ofList]
        exact Text.inked_toDigits _
      rw [Number.text]
      split
      · rw [String.toList_append]
        exact hdigits.append_left _
      · exact hdigits
  | float value => exact FloatNotation.inked_text .json value

end Verdict
