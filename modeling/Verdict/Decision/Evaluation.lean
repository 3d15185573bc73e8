import Verdict.Json.Value
import Verdict.Decimal.Fixed
import Verdict.Decimal.Notation

/-!
# Evaluations

An evaluation is what one evaluator proposes.
-/

namespace Verdict

inductive EvaluationError where
  | emptyDecision
  | weightOutOfRange (weight : Float)

def EvaluationError.message : EvaluationError → String
  | emptyDecision => "Decision must not be empty"
  | weightOutOfRange weight =>
    "Weight must be within [0, 1], got " ++ FloatNotation.plain.text weight

/-- A proposed decision. -/
structure Evaluation where
  decision : String
  weight : Float
  reason : Option String
  source : String
  ruleId : Option String

namespace Evaluation

/-- An evaluation without a rule, if decision and weight are allowed. -/
def make (decision : String) (weight : Float) (reason : Option String) (source : String) :
    Except EvaluationError Evaluation :=
  if decision.isEmpty then .error .emptyDecision
  else if weight.isFinite && 0 ≤ weight && weight ≤ 1 then
    .ok ⟨decision, weight, reason, source, none⟩
  else .error (.weightOutOfRange weight)

def line (evaluation : Evaluation) : String :=
  evaluation.source ++ ": " ++ evaluation.decision ++ " (weight " ++
    Decimal.fixed 2 evaluation.weight ++ ")" ++
    ((evaluation.reason.map fun reason => " - " ++ reason).getD "")

/-- An evaluation as a document, without what is missing. -/
def toJson (evaluation : Evaluation) : Json :=
  .object <|
    [("decision", Json.string evaluation.decision), ("weight", Json.ofFloat evaluation.weight)] ++
      (evaluation.reason.map fun reason => ("reason", Json.string reason)).toList ++
      [("source", Json.string evaluation.source)] ++
      (evaluation.ruleId.map fun id => ("rule_id", Json.string id)).toList

def equal (a b : Evaluation) : Bool :=
  a.decision == b.decision && a.weight == b.weight && a.reason == b.reason &&
    a.source == b.source && a.ruleId == b.ruleId

end Evaluation
end Verdict
