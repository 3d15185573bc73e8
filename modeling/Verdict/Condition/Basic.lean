import Verdict.Json.Value
import Verdict.Operator.Registry

/-!
# Conditions

A condition is a tree.  Its leaves test the value at one path of a context, and its groups hold when
all or any of their children do.
-/

namespace Verdict

/-- A leaf: an operator applied to the value at a path and an operand. -/
structure FieldCondition where
  path : String
  operator : String
  operand : Json

inductive Condition where
  | all (children : List Condition)
  | any (children : List Condition)
  | field (leaf : FieldCondition)

/-- A leaf as a document.  The operand is left out if it is `null` and the operator needs none. -/
def FieldCondition.toJson (leaf : FieldCondition) : Json :=
  let named := [("field", Json.string leaf.path), ("op", Json.string leaf.operator)]
  if leaf.operand.isNull && !Registry.requiresOperand leaf.operator then .object named
  else .object (named ++ [("value", leaf.operand)])

namespace Condition

/-! ## Leaves -/

mutual

def leaves : Condition → List FieldCondition
  | all children => leavesOf children
  | any children => leavesOf children
  | field leaf => [leaf]

def leavesOf : List Condition → List FieldCondition
  | [] => []
  | child :: rest => child.leaves ++ leavesOf rest

end

def leafCount (condition : Condition) : Nat :=
  condition.leaves.length

/-! ## Documents -/

mutual

def toJson : Condition → Json
  | all children => .object [("all", .array (toJsonList children))]
  | any children => .object [("any", .array (toJsonList children))]
  | field leaf => leaf.toJson

def toJsonList : List Condition → List Json
  | [] => []
  | child :: rest => child.toJson :: toJsonList rest

end

mutual

/-- Whether two conditions are equal, operands being compared as JSON values. -/
def equal : Condition → Condition → Bool
  | all a, all b => equalList a b
  | any a, any b => equalList a b
  | field a, field b => a.path == b.path && a.operator == b.operator && a.operand.equal b.operand
  | _, _ => false

def equalList : List Condition → List Condition → Bool
  | [], [] => true
  | a :: as, b :: bs => a.equal b && equalList as bs
  | _, _ => false

end

end Condition
end Verdict
