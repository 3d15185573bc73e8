import Verdict.Condition.Basic

/-!
# Rules and rule sets

A rule proposes a decision with a weight when its condition holds.
-/

namespace Verdict

structure Rule where
  id : String
  condition : Condition
  decision : String
  weight : Float
  reason : Option String

/-- Rules in the order in which they are tried. -/
structure RuleSet where
  version : String
  rules : List Rule

namespace Rule

def consequenceJson (rule : Rule) : Json :=
  .object <|
    [("decision", Json.string rule.decision)] ++
      (rule.reason.map fun reason => ("reason", Json.string reason)).toList ++
      [("weight", Json.ofFloat rule.weight)]

def toJson (rule : Rule) : Json :=
  .object [("id", .string rule.id), ("if", rule.condition.toJson), ("then", rule.consequenceJson)]

/-- Whether two rules are equal, weights being compared as numbers. -/
def equal (a b : Rule) : Bool :=
  a.id == b.id && a.condition.equal b.condition && a.decision == b.decision &&
    a.weight == b.weight && a.reason == b.reason

end Rule

namespace RuleSet

def rule? (ruleSet : RuleSet) (id : String) : Option Rule :=
  ruleSet.rules.find? fun rule => rule.id == id

def size (ruleSet : RuleSet) : Nat :=
  ruleSet.rules.length

def toJson (ruleSet : RuleSet) : Json :=
  .object [("rules", .array (ruleSet.rules.map Rule.toJson)), ("version", .string ruleSet.version)]

/-- The entries of the document of a rule set in the order in which they are written. -/
def entries (ruleSet : RuleSet) : List (String × Json) :=
  [("version", .string ruleSet.version), ("rules", .array (ruleSet.rules.map Rule.toJson))]

/-- The document that comes about when the entries are written into an object one by one. -/
def written (ruleSet : RuleSet) : Json :=
  .ofFields (ruleSet.entries.map fun (name, value) => (name, value.rebuild))

def equal (a b : RuleSet) : Bool :=
  a.version == b.version && a.rules.length == b.rules.length &&
    (a.rules.zip b.rules).all fun (a, b) => a.equal b

end RuleSet
end Verdict
