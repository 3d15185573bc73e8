import Verdict.Text.Blank
import Mathlib.Tactic.Common

/-!
# Trimmed texts

A text loses its blanks at both ends, up to a part of it without any.
-/

namespace Verdict.Text

structure Unbroken (text : List Char) : Prop where
  nonempty : text ≠ []
  ink : ∀ c ∈ text, isBlank c = false

theorem Unbroken.trimStart_append {text : List Char} (h : Unbroken text) (rest : List Char) :
    trimStart (text ++ rest) = text ++ rest := by
  cases text with
  | nil => exact absurd rfl h.nonempty
  | cons c text => exact trimStart_cons_of_not_isBlank (h.ink c List.mem_cons_self)

theorem Unbroken.trimEnd_append {text : List Char} (h : Unbroken text) (front : List Char) :
    trimEnd (front ++ text) = front ++ text := by
  have hreverse : Unbroken text.reverse :=
    ⟨mt List.reverse_eq_nil_iff.mp h.nonempty, fun c hc => h.ink c (List.mem_reverse.mp hc)⟩
  rw [trimEnd, List.reverse_append, hreverse.trimStart_append, ← List.reverse_append,
    List.reverse_reverse]

theorem Unbroken.append {text more : List Char} (h : Unbroken text)
    (hmore : ∀ c ∈ more, isBlank c = false) : Unbroken (text ++ more) := by
  refine ⟨List.append_ne_nil_of_left_ne_nil h.nonempty more, fun c hc => ?_⟩
  exact (List.mem_append.mp hc).elim (h.ink c) (hmore c)

theorem unbroken_singleton {c : Char} (h : isBlank c = false) : Unbroken [c] :=
  ⟨List.cons_ne_nil _ _, List.forall_mem_singleton.mpr h⟩

/-- Blanks around a text are lost, and the text is kept if it neither begins nor ends with one. -/
theorem trim_surrounded {before text after : List Char}
    (hbefore : ∀ c ∈ before, isBlank c = true) (hafter : ∀ c ∈ after, isBlank c = true)
    (hstart : ∀ rest, trimStart (text ++ rest) = text ++ rest) (hend : trimEnd text = text) :
    trim (before ++ (text ++ after)) = text := by
  have hfront : trimStart (before ++ (text ++ after)) = trimStart (text ++ after) :=
    List.dropWhile_append_of_pos hbefore
  have hback : trimStart (after.reverse ++ text.reverse) = trimStart text.reverse :=
    List.dropWhile_append_of_pos fun c hc => hafter c (List.mem_reverse.mp hc)
  rw [trim, hfront, hstart, trimEnd, List.reverse_append, hback]
  exact hend

end Verdict.Text
