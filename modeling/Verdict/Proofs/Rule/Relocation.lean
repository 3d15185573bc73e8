import Verdict.Rule.Validation
import Mathlib.Tactic.Common

/-!
# The place of a check

A part that is checked at a location has the faults that it has when it is checked alone, each moved
below that location (`Checked.below`).  Only the check of an id is not of this form, which needs to
know the ids before it.
-/

namespace Verdict

/-- A fault of a part, as a fault of the document that has the part at a location. -/
def Fault.below (outer : Location) (fault : Fault) : Fault :=
  ⟨outer ++ fault.location, fault.cause⟩

theorem Fault.below_below (outer inner : Location) (fault : Fault) :
    (fault.below inner).below outer = fault.below (outer ++ inner) := by
  rw [below, below, below, List.append_assoc]

namespace Checked

variable {α β : Type}

def below (outer : Location) : Checked α → Checked α
  | sound value => sound value
  | faulty faults => faulty (faults.map (Fault.below outer))

@[simp]
theorem below_sound (outer : Location) (value : α) : (sound value).below outer = sound value :=
  rfl

@[simp]
theorem faults_fault (location : Location) (cause : Cause) :
    (fault location cause : Checked α).faults = [⟨location, cause⟩] :=
  rfl

theorem below_fault (location : Location) (cause : Cause) :
    (fault [] cause : Checked α).below location = fault location cause := by
  simp [fault, below, Fault.below]

theorem below_below (outer inner : Location) (checked : Checked α) :
    (checked.below inner).below outer = checked.below (outer ++ inner) := by
  cases checked with
  | sound value => rfl
  | faulty faults =>
      simp only [below, List.map_map]
      congr 2
      funext fault
      exact fault.below_below outer inner

@[simp]
theorem faults_below (outer : Location) (checked : Checked α) :
    (checked.below outer).faults = checked.faults.map (Fault.below outer) := by
  cases checked <;> rfl

theorem below_map (outer : Location) (f : α → β) (checked : Checked α) :
    (checked.map f).below outer = (checked.below outer).map f := by
  cases checked <;> rfl

theorem below_both (outer : Location) (a : Checked α) (b : Checked β) :
    (a.both b).below outer = (a.below outer).both (b.below outer) := by
  cases a <;> cases b <;> simp [both, below, faults]

theorem below_ite (outer : Location) (p : Prop) [Decidable p] (a b : Checked α) :
    (if p then a else b).below outer = if p then a.below outer else b.below outer :=
  apply_ite (below outer) p a b

end Checked

open Checked

/-! ## Parts with a text -/

theorem checkName_eq_below (location : Location) (value : Option Json) :
    checkName location value = (checkName [] value).below location := by
  unfold checkName
  split
  · rw [below_fault]
  · rw [below_fault]
  · rw [below_ite, below_fault, below_sound]
  · rw [below_fault]

theorem checkNote_eq_below (location : Location) (value : Option Json) :
    checkNote location value = (checkNote [] value).below location := by
  unfold checkNote
  split
  · rfl
  · rfl
  · rfl
  · rw [below_fault]

/-! ## Conditions -/

namespace Condition

theorem checkPath_eq_below (location : Location) (value : Option Json) :
    checkPath location value = (checkPath [] value).below location := by
  unfold checkPath
  split
  · rw [below_ite, below_fault, below_sound]
  · rw [below_fault]

theorem checkOperator_eq_below (registry : Registry) (location : Location)
    (value : Option Json) :
    checkOperator registry location value = (checkOperator registry [] value).below location := by
  unfold checkOperator
  split
  · rw [below_fault]
  · rw [below_fault]
  · rw [below_ite, below_fault, below_sound]
  · rw [below_fault]

/-- Of the operator only its name matters to the operand, and not where its faults are. -/
theorem checkOperand_eq_below (location place : Location) (operator : Checked String)
    (value : Option Json) :
    checkOperand location (operator.below place) value =
      (checkOperand [] operator value).below location := by
  cases value with
  | some operand => rfl
  | none =>
      cases operator with
      | faulty faults => rfl
      | sound name =>
          rw [below_sound, checkOperand, checkOperand, below_ite, below_fault, below_sound]

theorem checkField_eq_below (registry : Registry) (location : Location) (fields : Fields Json) :
    checkField registry location fields = (checkField registry [] fields).below location := by
  have hpath := checkPath_eq_below
  have hoperator := checkOperator_eq_below registry
  have hoperand := checkOperand_eq_below
  simp only [checkField, List.nil_append, below_map, below_both]
  rw [hpath (location ++ _), hoperator (location ++ _), hoperand, hpath [_], hoperator [_]]
  rw [hoperand, below_below, below_below, below_below]

mutual

/-- A condition at a location has the faults of the condition alone, moved below it. -/
theorem checkAt_eq_below (registry : Registry) :
    ∀ (document : Json) (location : Location),
      checkAt registry location document = (checkAt registry [] document).below location
  | .object fields, location => by
      rw [checkAt, checkAt]
      split
      · exact checkField_eq_below registry location fields
      · rw [below_map, checkGroup_eq_below registry fields location]
      · rw [below_map, checkGroup_eq_below registry fields location]
      · rw [below_fault]
      · rw [below_fault]
  | .null, location | .bool _, location | .number _, location | .string _, location
  | .array _, location => (below_fault location _).symm

theorem checkGroup_eq_below (registry : Registry) :
    ∀ (fields : List (String × Json)) (location : Location) (name : String),
      checkGroup registry location name fields =
        (checkGroup registry [] name fields).below location
  | [], _, _ => rfl
  | (key, value) :: rest, location, name => by
      rw [checkGroup, checkGroup, below_ite, checkGroup_eq_below registry rest location]
      rw [checkChildren_eq_below registry value (location ++ _),
        checkChildren_eq_below registry value ([] ++ _), below_below, List.nil_append]

theorem checkChildren_eq_below (registry : Registry) :
    ∀ (document : Json) (location : Location),
      checkChildren registry location document =
        (checkChildren registry [] document).below location
  | .array items, location => checkItems_eq_below registry items location 0
  | .null, location | .bool _, location | .number _, location | .string _, location
  | .object _, location => (below_fault location _).symm

theorem checkItems_eq_below (registry : Registry) :
    ∀ (items : List Json) (location : Location) (index : Nat),
      checkItems registry location index items =
        (checkItems registry [] index items).below location
  | [], _, _ => rfl
  | item :: rest, location, index => by
      rw [checkItems, checkItems, below_map, below_both]
      rw [checkItems_eq_below registry rest location]
      rw [checkAt_eq_below registry item (location ++ _),
        checkAt_eq_below registry item ([] ++ _), below_below, List.nil_append]

end

end Condition

/-! ## Parts of a rule -/

namespace Rule

theorem checkWeight_eq_below (location : Location) (value : Option Json) :
    checkWeight location value = (checkWeight [] value).below location := by
  unfold checkWeight
  split
  · rfl
  · rfl
  · rw [below_ite, below_fault, below_sound]
  · rw [below_fault]

theorem checkCondition_eq_below (registry : Registry) (location : Location)
    (value : Option Json) :
    checkCondition registry location value = (checkCondition registry [] value).below location := by
  unfold checkCondition
  split
  · rw [below_fault]
  · rw [below_fault]
  · exact Condition.checkAt_eq_below registry _ location

theorem checkConsequence_eq_below (location : Location) (value : Option Json) :
    checkConsequence location value = (checkConsequence [] value).below location := by
  have hname := checkName_eq_below
  have hweight := checkWeight_eq_below
  have hnote := checkNote_eq_below
  unfold checkConsequence
  split
  · rw [below_fault]
  · rw [below_fault]
  · rw [hname, hweight, hnote, hname ([] ++ _), hweight ([] ++ _), hnote ([] ++ _)]
    simp only [below_both, below_below, List.nil_append]
  · rw [below_fault]

end Rule

theorem RuleSet.checkVersion_eq_below (location : Location) (value : Option Json) :
    checkVersion location value = (checkVersion [] value).below location := by
  unfold checkVersion
  split
  · rw [below_fault]
  · rw [below_fault]
  · rw [below_ite, below_fault, below_sound]
  · rfl
  · rw [below_fault]

end Verdict
