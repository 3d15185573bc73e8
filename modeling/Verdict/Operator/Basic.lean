import Verdict.Json.Value
import Verdict.Time.Instant

/-!
# Operators

An operator either tests a value against an operand or stands for a call to the collaborator.  A
test never fails: what it cannot make sense of it answers with `false`.
-/

namespace Verdict

/-- A test of the value at a path, if the path resolved, against an operand at an instant. -/
abbrev Test := Option Json → Json → Instant → Bool

inductive Operator where
  | pure (test : Test)
  | enrichment

namespace Operator

/-- The value, unless it is missing or `null`. -/
def defined (actual : Option Json) : Option Json :=
  actual.filter fun value => !value.isNull

/-- The two operands of an array of two items, or of an object under two names. -/
def operandPair (operand : Json) (first second : String) : Option (Json × Json) :=
  match operand with
  | .array [a, b] => some (a, b)
  | .object fields =>
    (Fields.get? fields first).bind fun a => (Fields.get? fields second).map fun b => (a, b)
  | _ => none

def floatPair (operand : Json) (first second : String) : Option (Float × Float) :=
  (operandPair operand first second).bind fun (a, b) =>
    a.float?.bind fun a => b.float?.map fun b => (a, b)

def intPair (operand : Json) (first second : String) : Option (Int × Int) :=
  (operandPair operand first second).bind fun (a, b) =>
    a.int?.bind fun a => b.int?.map fun b => (a, b)

end Operator
end Verdict
