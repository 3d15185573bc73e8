import Verdict.Rule.Basic
import Verdict.Rule.Checked
import Verdict.DotPath
import Verdict.Text.Blank

/-!
# Validation

A document is checked as a whole and turned into a rule set in the same pass: `RuleSet.check` finds
every fault of the document, in the order of its parts, or the rule set that it stands for.
-/

namespace Verdict

/-! ## Parts with a text -/

def checkName (location : Location) : Option Json → Checked String
  | none | some .null => .fault location .missing
  | some (.string text) => if text.isEmpty then .fault location .blank else .sound text
  | some _ => .fault location .notText

def checkNote (location : Location) : Option Json → Checked (Option String)
  | none | some .null => .sound none
  | some (.string text) => .sound (some text)
  | some _ => .fault location .notText

/-! ## Conditions -/

namespace Condition

/-- The names that make an object a condition, in the order in which they are listed. -/
def kinds : List String := ["field", "all", "any"]

def kindsOf (fields : Fields Json) : List String :=
  kinds.filter fields.contains

def checkPath (location : Location) : Option Json → Checked String
  | some (.string path) =>
    if DotPath.isProper path then .sound path else .fault location (.improperPath path)
  | _ => .fault location .notText

def checkOperator (registry : Registry) (location : Location) : Option Json → Checked String
  | none | some .null => .fault location .missing
  | some (.string name) =>
    if registry.contains name then .sound name
    else .fault location (.unknownOperator name registry.names)
  | some _ => .fault location .notText

/-- The operand of a leaf, which may be missing only if its operator is known and needs none.  With
an operator that is at fault itself nothing more is said. -/
def checkOperand (location : Location) (operator : Checked String) : Option Json → Checked Json
  | some operand => .sound operand
  | none =>
    match operator with
    | .sound name =>
      if Registry.requiresOperand name then .fault location (.missingOperand name)
      else .sound .null
    | .faulty _ => .sound .null

def checkField (registry : Registry) (location : Location) (fields : Fields Json) :
    Checked Condition :=
  let path := checkPath (location ++ [.field "field"]) (fields.get? "field")
  let operator := checkOperator registry (location ++ [.field "op"]) (fields.get? "op")
  let operand := checkOperand (location ++ [.field "value"]) operator (fields.get? "value")
  (path.both (operator.both operand)).map fun (path, operator, operand) =>
    .field ⟨path, operator, operand⟩

mutual

def checkAt (registry : Registry) (location : Location) : Json → Checked Condition
  | .object fields =>
    match kindsOf fields with
    | ["field"] => checkField registry location fields
    | ["all"] => (checkGroup registry location "all" fields).map .all
    | ["any"] => (checkGroup registry location "any" fields).map .any
    | [] => .fault location .noKind
    | kinds => .fault location (.severalKinds kinds)
  | _ => .fault location .conditionNotObject

def checkGroup (registry : Registry) (location : Location) (name : String) :
    List (String × Json) → Checked (List Condition)
  | [] => .sound []
  | (key, value) :: rest =>
    if key = name then checkChildren registry (location ++ [.field name]) value
    else checkGroup registry location name rest

def checkChildren (registry : Registry) (location : Location) : Json → Checked (List Condition)
  | .array items => checkItems registry location 0 items
  | _ => .fault location .notConditions

def checkItems (registry : Registry) (location : Location) (index : Nat) :
    List Json → Checked (List Condition)
  | [] => .sound []
  | item :: rest =>
    ((checkAt registry (location ++ [.item index]) item).both
      (checkItems registry location (index + 1) rest)).map fun (child, children) =>
        child :: children

end

/-- A condition on its own. -/
def check (registry : Registry) (document : Json) : Checked Condition :=
  checkAt registry [] document

end Condition

/-! ## Rules -/

namespace Rule

/-- The weight of a proposal, one if it is missing. -/
def checkWeight (location : Location) : Option Json → Checked Float
  | none | some .null => .sound 1
  | some (.number weight) =>
    if 0 ≤ weight.toFloat && weight.toFloat ≤ 1 then .sound weight.toFloat
    else .fault location (.weightOutOfRange weight)
  | some _ => .fault location .notNumber

def checkConsequence (location : Location) : Option Json →
    Checked (String × Float × Option String)
  | none | some .null => .fault location .missing
  | some (.object fields) =>
    (checkName (location ++ [.field "decision"]) (Fields.get? fields "decision")).both
      ((checkWeight (location ++ [.field "weight"]) (Fields.get? fields "weight")).both
        (checkNote (location ++ [.field "reason"]) (Fields.get? fields "reason")))
  | some _ => .fault location .notObject

def checkCondition (registry : Registry) (location : Location) :
    Option Json → Checked Condition
  | none | some .null => .fault location .missing
  | some document => Condition.checkAt registry location document

/-- The id of a rule, which no earlier rule may have. -/
def checkId (location : Location) (earlier : List String) (value : Option Json) :
    Checked String :=
  match checkName location value with
  | .sound id => if earlier.contains id then .fault location (.duplicateId id) else .sound id
  | faulty => faulty

def checkAt (registry : Registry) (location : Location) (earlier : List String) :
    Json → Checked Rule
  | .object fields =>
    let id := checkId (location ++ [.field "id"]) earlier (Fields.get? fields "id")
    let condition := checkCondition registry (location ++ [.field "if"]) (Fields.get? fields "if")
    let consequence := checkConsequence (location ++ [.field "then"]) (Fields.get? fields "then")
    (id.both (condition.both consequence)).map
      fun (id, condition, decision, weight, reason) => ⟨id, condition, decision, weight, reason⟩
  | _ => .fault location .ruleNotObject

/-- The id that an item of the list of rules claims, whatever else may be wrong with it. -/
def claimedId? (item : Json) : Option String :=
  ((item.field? "id").bind Json.string?).filter fun id => !id.isEmpty

end Rule

/-! ## Rule sets -/

namespace RuleSet

/-- The version, a text that is not blank or a number as it is written. -/
def checkVersion (location : Location) : Option Json → Checked String
  | none | some .null => .fault location .missing
  | some (.string text) =>
    if Text.hasInk text.toList then .sound text else .fault location .blank
  | some (.number value) => .sound value.text
  | some _ => .fault location .notText

/-- The rules from an index on, given the ids claimed before it. -/
def checkRules (registry : Registry) (index : Nat) (earlier : List String) :
    List Json → Checked (List Rule)
  | [] => .sound []
  | item :: rest =>
    ((Rule.checkAt registry [.field "rules", .item index] earlier item).both
      (checkRules registry (index + 1) (earlier ++ (Rule.claimedId? item).toList) rest)).map
        fun (rule, rules) => rule :: rules

def checkList (registry : Registry) : Option Json → Checked (List Rule)
  | none => .fault [.field "rules"] .missing
  | some (.array items) => checkRules registry 0 [] items
  | some _ => .fault [.field "rules"] .notArray

def check (registry : Registry) : Json → Checked RuleSet
  | .object fields =>
    ((checkVersion [.field "version"] (Fields.get? fields "version")).both
      (checkList registry (Fields.get? fields "rules"))).map
        fun (version, rules) => ⟨version, rules⟩
  | _ => .fault [] .rootNotObject

end RuleSet
end Verdict
