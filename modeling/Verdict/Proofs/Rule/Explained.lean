import Verdict.Rule.Validation
import Mathlib.Tactic.Common

/-!
# Refusals have reasons

Nothing in its type keeps the faults of a check from being an empty list.  `Checked.Explained` says
that it is not, for every check of this library.
-/

namespace Verdict

namespace Checked

variable {α β : Type}

def Explained (checked : Checked α) : Prop :=
  ∀ faults, checked = faulty faults → faults ≠ []

theorem explained_sound (value : α) : (sound value).Explained := by
  intro faults h
  cases h

theorem explained_fault (location : Location) (cause : Cause) :
    (fault location cause : Checked α).Explained := by
  intro faults h
  cases h
  exact List.cons_ne_nil _ _

theorem Explained.ite {a b : Checked α} (p : Prop) [Decidable p]
    (ha : a.Explained) (hb : b.Explained) : (if p then a else b).Explained := by
  by_cases hp : p
  · rw [if_pos hp]
    exact ha
  · rw [if_neg hp]
    exact hb

theorem Explained.map {checked : Checked α} (h : checked.Explained) (f : α → β) :
    (checked.map f).Explained := by
  intro faults hfaults
  cases checked with
  | sound value => cases hfaults
  | faulty known =>
      cases hfaults
      exact h _ rfl

theorem Explained.both {a : Checked α} {b : Checked β}
    (ha : a.Explained) (hb : b.Explained) : (a.both b).Explained := by
  intro faults hfaults
  cases a with
  | faulty known =>
      cases hfaults
      exact List.append_ne_nil_of_left_ne_nil (ha _ rfl) _
  | sound value =>
      cases b with
      | sound value' => cases hfaults
      | faulty known =>
          cases hfaults
          exact hb _ rfl

end Checked

theorem explained_checkName (location : Location) (value : Option Json) :
    (checkName location value).Explained := by
  unfold checkName
  split
  · exact Checked.explained_fault _ _
  · exact Checked.explained_fault _ _
  · exact (Checked.explained_fault _ _).ite _ (Checked.explained_sound _)
  · exact Checked.explained_fault _ _

theorem explained_checkNote (location : Location) (value : Option Json) :
    (checkNote location value).Explained := by
  unfold checkNote
  split
  · exact Checked.explained_sound _
  · exact Checked.explained_sound _
  · exact Checked.explained_sound _
  · exact Checked.explained_fault _ _

/-! ## Conditions -/

namespace Condition

theorem explained_checkPath (location : Location) (value : Option Json) :
    (checkPath location value).Explained := by
  unfold checkPath
  split
  · exact (Checked.explained_sound _).ite _ (Checked.explained_fault _ _)
  · exact Checked.explained_fault _ _

theorem explained_checkOperator (registry : Registry) (location : Location)
    (value : Option Json) : (checkOperator registry location value).Explained := by
  unfold checkOperator
  split
  · exact Checked.explained_fault _ _
  · exact Checked.explained_fault _ _
  · exact (Checked.explained_sound _).ite _ (Checked.explained_fault _ _)
  · exact Checked.explained_fault _ _

theorem explained_checkOperand (location : Location) (operator : Checked String)
    (value : Option Json) : (checkOperand location operator value).Explained := by
  unfold checkOperand
  split
  · exact Checked.explained_sound _
  · split
    · exact (Checked.explained_fault _ _).ite _ (Checked.explained_sound _)
    · exact Checked.explained_sound _

theorem explained_checkField (registry : Registry) (location : Location)
    (fields : Fields Json) : (checkField registry location fields).Explained := by
  apply Checked.Explained.map
  apply Checked.Explained.both
  · exact explained_checkPath _ _
  · apply Checked.Explained.both
    · exact explained_checkOperator _ _ _
    · exact explained_checkOperand _ _ _

mutual

/-- A document that is not a condition has a fault, however deep the flaw. -/
theorem explained_checkAt (registry : Registry) :
    ∀ (document : Json) (location : Location),
      (checkAt registry location document).Explained
  | .object fields, location => by
      rw [checkAt]
      split
      · exact explained_checkField registry location fields
      · exact (explained_checkGroup registry fields location _).map _
      · exact (explained_checkGroup registry fields location _).map _
      · exact Checked.explained_fault _ _
      · exact Checked.explained_fault _ _
  | .null, _ | .bool _, _ | .number _, _ | .string _, _ | .array _, _ =>
      Checked.explained_fault _ _

theorem explained_checkGroup (registry : Registry) :
    ∀ (fields : List (String × Json)) (location : Location) (name : String),
      (checkGroup registry location name fields).Explained
  | [], _, _ => Checked.explained_sound _
  | (key, value) :: rest, location, name => by
      rw [checkGroup]
      split
      · exact explained_checkChildren registry value _
      · exact explained_checkGroup registry rest location name

theorem explained_checkChildren (registry : Registry) :
    ∀ (document : Json) (location : Location),
      (checkChildren registry location document).Explained
  | .array items, location => explained_checkItems registry items location 0
  | .null, _ | .bool _, _ | .number _, _ | .string _, _ | .object _, _ =>
      Checked.explained_fault _ _

theorem explained_checkItems (registry : Registry) :
    ∀ (items : List Json) (location : Location) (index : Nat),
      (checkItems registry location index items).Explained
  | [], _, _ => Checked.explained_sound _
  | item :: rest, location, index => by
      rw [checkItems]
      apply Checked.Explained.map
      apply Checked.Explained.both
      · exact explained_checkAt registry item _
      · exact explained_checkItems registry rest location (index + 1)

end

end Condition

/-! ## Rules -/

namespace Rule

theorem explained_checkWeight (location : Location) (value : Option Json) :
    (checkWeight location value).Explained := by
  unfold checkWeight
  split
  · exact Checked.explained_sound _
  · exact Checked.explained_sound _
  · exact (Checked.explained_sound _).ite _ (Checked.explained_fault _ _)
  · exact Checked.explained_fault _ _

theorem explained_checkConsequence (location : Location) (value : Option Json) :
    (checkConsequence location value).Explained := by
  unfold checkConsequence
  split
  · exact Checked.explained_fault _ _
  · exact Checked.explained_fault _ _
  · apply Checked.Explained.both
    · exact explained_checkName _ _
    · apply Checked.Explained.both
      · exact explained_checkWeight _ _
      · exact explained_checkNote _ _
  · exact Checked.explained_fault _ _

theorem explained_checkCondition (registry : Registry) (location : Location)
    (value : Option Json) : (checkCondition registry location value).Explained := by
  unfold checkCondition
  split
  · exact Checked.explained_fault _ _
  · exact Checked.explained_fault _ _
  · exact Condition.explained_checkAt registry _ _

theorem explained_checkId (location : Location) (earlier : List String)
    (value : Option Json) : (checkId location earlier value).Explained := by
  have hname := explained_checkName location value
  unfold checkId
  split
  · exact (Checked.explained_fault _ _).ite _ (Checked.explained_sound _)
  · exact hname

theorem explained_checkAt (registry : Registry) (location : Location) (earlier : List String)
    (item : Json) : (checkAt registry location earlier item).Explained := by
  unfold checkAt
  split
  · apply Checked.Explained.map
    apply Checked.Explained.both
    · exact explained_checkId _ _ _
    · apply Checked.Explained.both
      · exact explained_checkCondition _ _ _
      · exact explained_checkConsequence _ _
  · exact Checked.explained_fault _ _

end Rule

/-! ## Rule sets -/

namespace RuleSet

theorem explained_checkVersion (location : Location) (value : Option Json) :
    (checkVersion location value).Explained := by
  unfold checkVersion
  split
  · exact Checked.explained_fault _ _
  · exact Checked.explained_fault _ _
  · exact (Checked.explained_sound _).ite _ (Checked.explained_fault _ _)
  · exact Checked.explained_sound _
  · exact Checked.explained_fault _ _

theorem explained_checkRules (registry : Registry) (index : Nat) (earlier : List String)
    (items : List Json) : (checkRules registry index earlier items).Explained := by
  induction items generalizing index earlier with
  | nil => exact Checked.explained_sound _
  | cons item rest ih =>
      apply Checked.Explained.map
      apply Checked.Explained.both
      · exact Rule.explained_checkAt _ _ _ _
      · exact ih _ _

theorem explained_checkList (registry : Registry) (value : Option Json) :
    (checkList registry value).Explained := by
  unfold checkList
  split
  · exact Checked.explained_fault _ _
  · exact explained_checkRules _ _ _ _
  · exact Checked.explained_fault _ _

theorem explained_check (registry : Registry) (document : Json) :
    (check registry document).Explained := by
  unfold check
  split
  · apply Checked.Explained.map
    apply Checked.Explained.both
    · exact explained_checkVersion _ _
    · exact explained_checkList _ _
  · exact Checked.explained_fault _ _

end RuleSet
end Verdict
