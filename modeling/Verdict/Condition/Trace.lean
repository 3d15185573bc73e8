import Verdict.Condition.Basic
import Verdict.Json.Printer

/-!
# Traces of conditions

A trace records one leaf that was evaluated: what it asked for, what it found and how it came out.
-/

namespace Verdict

/-- One evaluated leaf.  A path that did not resolve has no actual value, a stored `null` is one. -/
structure ConditionTrace where
  path : String
  operator : String
  expected : Json
  actual : Option Json
  result : Bool
  description : String

namespace ConditionTrace

def sign? : String → Option String
  | "eq" => some "=="
  | "neq" => some "!="
  | "gt" => some ">"
  | "gte" => some ">="
  | "lt" => some "<"
  | "lte" => some "<="
  | _ => none

def phrase? : String → Option String
  | "in" => some "is one of"
  | "contains" => some "contains"
  | "starts_with" => some "starts with"
  | "ends_with" => some "ends with"
  | "before_date" => some "is before"
  | "after_date" => some "is after"
  | "day_of_week" => some "falls on"
  | "contains_all" => some "contains all of"
  | "contains_any" => some "contains any of"
  | "intersects" => some "intersects"
  | "subset_of" => some "is a subset of"
  | _ => none

def fieldText (operand : Option Json) : String :=
  (operand.map Json.render).getD "?"

def countText : Json → String
  | .array items => Nat.repr items.length
  | _ => "0"

/-- What a leaf asks for, in words. -/
def describe (path operator : String) (expected : Json) : String :=
  match sign? operator, phrase? operator with
  | some sign, _ => path ++ " " ++ sign ++ " " ++ expected.render
  | none, some phrase => path ++ " " ++ phrase ++ " " ++ expected.render
  | none, none =>
    match operator with
    | "present" => path ++ " is present"
    | "blank" => path ++ " is blank"
    | "matches" => path ++ " matches /" ++ (expected.string?.getD "") ++ "/"
    | "between" =>
      match Operator.operandPair expected "min" "max" with
      | some (least, greatest) =>
        path ++ " is between " ++ least.render ++ " and " ++ greatest.render
      | none => path ++ " is between " ++ expected.render
    | "modulo" =>
      match Operator.operandPair expected "divisor" "remainder" with
      | some (divisor, remainder) =>
        path ++ " mod " ++ divisor.render ++ " == " ++ remainder.render
      | none => path ++ " modulo " ++ expected.render
    | "within_days" => path ++ " is within " ++ expected.render ++ " days of now"
    | "within_radius" =>
      path ++ " is within " ++
        fieldText ((expected.field? "radius_km").or (expected.field? "radius")) ++ " km of " ++
        fieldText (expected.field? "center")
    | "in_polygon" => path ++ " is inside a polygon of " ++ countText expected ++ " vertices"
    | "fetch_from_api" =>
      "fetch " ++ (((expected.field? "endpoint").bind Json.string?).getD "?") ++ " for " ++ path
    | other => path ++ " " ++ other ++ " " ++ expected.render

def ofLeaf (leaf : FieldCondition) (actual : Option Json) (result : Bool) : ConditionTrace :=
  { path := leaf.path
    operator := leaf.operator
    expected := leaf.operand
    actual := actual
    result := result
    description := describe leaf.path leaf.operator leaf.operand }

def toJson (trace : ConditionTrace) : Json :=
  .object [("field", .string trace.path), ("operator", .string trace.operator),
    ("expected_value", trace.expected), ("actual_value", .ofOption trace.actual),
    ("result", .bool trace.result), ("description", .string trace.description)]

end ConditionTrace
end Verdict
