import Verdict.Proofs.Decimal.ExactValue
import Verdict.Proofs.Json.Canonical

/-!
# What equality sees

The content of a value has all of its parts, but the number that a float stands for in the place of
the float.  So an integer is never equal to a float, and equality is an equivalence at every depth.
-/

namespace Verdict

def Number.content : Number → Int ⊕ ℚ
  | int value => .inl value
  | float value => .inr (ExactValue.exact value)

theorem Number.equal_iff_content_eq {x y : Number} (hx : x.Representable)
    (hy : y.Representable) : x.equal y = true ↔ x.content = y.content := by
  cases x with
  | int a =>
      cases y with
      | int b => exact beq_iff_eq.trans Sum.inl_injective.eq_iff.symm
      | float w => exact iff_of_false Bool.false_ne_true Sum.inl_ne_inr
  | float v =>
      cases y with
      | int b => exact iff_of_false Bool.false_ne_true Sum.inr_ne_inl
      | float w => exact (ExactValue.beq_iff hx hy).trans Sum.inr_injective.eq_iff.symm

namespace Json

/-- A value in which a float counts only as the number that it stands for. -/
inductive Content where
  | null
  | bool (value : Bool)
  | number (value : Int ⊕ ℚ)
  | string (value : String)
  | array (items : List Content)
  | object (fields : List (String × Content))

mutual

def content : Json → Content
  | null => .null
  | bool value => .bool value
  | number value => .number value.content
  | string value => .string value
  | array items => .array (contentItems items)
  | object fields => .object (contentFields fields)

def contentItems : List Json → List Content
  | [] => []
  | item :: rest => content item :: contentItems rest

def contentFields : List (String × Json) → List (String × Content)
  | [] => []
  | (name, value) :: rest => (name, content value) :: contentFields rest

end

def EqualByContent (value : Json) : Prop :=
  ∀ {other : Json}, other.Canonical → (value.equal other = true ↔ value.content = other.content)

theorem equalItems_iff_content_eq {items others : List Json}
    (byContent : ∀ item ∈ items, EqualByContent item) (h : ∀ other ∈ others, other.Canonical) :
    equalItems items others = true ↔ contentItems items = contentItems others := by
  induction items generalizing others with
  | nil => cases others <;> simp [equalItems, contentItems]
  | cons item rest ih =>
      obtain ⟨hitem, hrest⟩ := List.forall_mem_cons.mp byContent
      cases others with
      | nil => simp [equalItems, contentItems]
      | cons other others =>
          obtain ⟨hother, hothers⟩ := List.forall_mem_cons.mp h
          rw [equalItems, contentItems, contentItems, Bool.and_eq_true, List.cons.injEq,
            hitem hother, ih hrest hothers]

theorem equalFields_iff_content_eq {fields others : List (String × Json)}
    (byContent : ∀ field ∈ fields, EqualByContent field.2)
    (h : ∀ other ∈ others, other.2.Canonical) :
    equalFields fields others = true ↔ contentFields fields = contentFields others := by
  induction fields generalizing others with
  | nil => cases others <;> simp [equalFields, contentFields]
  | cons field rest ih =>
      obtain ⟨hfield, hrest⟩ := List.forall_mem_cons.mp byContent
      cases others with
      | nil => simp [equalFields, contentFields]
      | cons other others =>
          obtain ⟨hother, hothers⟩ := List.forall_mem_cons.mp h
          rw [equalFields, contentFields, contentFields, Bool.and_eq_true, Bool.and_eq_true,
            beq_iff_eq, List.cons.injEq, Prod.mk.injEq, hfield hother, ih hrest hothers]

/-- Canonical values are equal when they have the same content. -/
theorem equal_iff_content_eq {x y : Json} (hx : x.Canonical) (hy : y.Canonical) :
    x.equal y = true ↔ x.content = y.content := by
  -- Values of different shapes are neither equal nor alike in content, so each case is about the
  -- other value of the same shape.
  induction x using induction_on_parts generalizing y with
  | simple x harray hobject =>
      cases x with
      | number a =>
          cases y with
          | number b =>
              rw [equal, content, content, Content.number.injEq]
              exact Number.equal_iff_content_eq hx hy
          | _ => simp [equal, content]
      | array items => cases harray
      | object fields => cases hobject
      | _ => cases y <;> simp [equal, content]
  | array items ih =>
      cases y with
      | array others =>
          rw [equal, content, content, Content.array.injEq]
          exact equalItems_iff_content_eq (fun item hitem => ih item hitem (hx.item hitem))
            fun other hother => hy.item hother
      | _ => simp [equal, content]
  | object fields ih =>
      cases y with
      | object others =>
          rw [Canonical, canonicalFields_iff] at hx hy
          rw [equal, content, content, Content.object.injEq]
          exact equalFields_iff_content_eq
            (fun field hfield => ih field hfield (hx.2 field hfield)) hy.2
      | _ => simp [equal, content]

end Json
end Verdict
