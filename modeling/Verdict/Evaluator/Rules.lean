import Verdict.Condition.Evaluation
import Verdict.Decision.Evaluation
import Verdict.Rule.Basic
import Verdict.Rule.Trace

/-!
# Evaluation of rules

A rule evaluator tries the rules of one rule set in order, and the first rule whose condition holds
makes the proposal.  Every rule is tried from the context itself; only the calls made are carried
on.
-/

namespace Verdict

/-- A rule set together with what its evaluation depends on. -/
structure RuleEvaluator where
  name : String
  ruleSet : RuleSet
  interpreter : Interpreter

namespace RuleEvaluator

def defaultName : String := "json_rule_evaluator"

def propose (name : String) (rule : Rule) : Option Evaluation :=
  match Evaluation.make rule.decision rule.weight rule.reason name with
  | .ok evaluation => some { evaluation with ruleId := some rule.id }
  | .error _ => none

/-- The first rule whose condition holds, and all calls made until then. -/
def firstMatch (interpreter : Interpreter) (context : Context) :
    List Rule → List Call → Option Rule × List Call
  | [], calls => (none, calls)
  | rule :: rest, calls =>
    match interpreter.evaluate rule.condition ⟨context, calls⟩ with
    | (true, scope) => (some rule, scope.calls)
    | (false, scope) => firstMatch interpreter context rest scope.calls

def evaluate (evaluator : RuleEvaluator) (context : Context) (calls : List Call) :
    Option Evaluation × List Call :=
  let (rule, calls) := firstMatch evaluator.interpreter context evaluator.ruleSet.rules calls
  (rule.bind (propose evaluator.name), calls)

def traceOf (rule : Rule) (matched : Bool) (conditions : List ConditionTrace) : RuleTrace :=
  { ruleId := rule.id
    matched := matched
    conditions := conditions
    decision := rule.decision
    weight := rule.weight
    reason := rule.reason }

/-- Tries rules up to the first one that matches and appends a trace of each. -/
def evaluateRulesTraced (evaluator : RuleEvaluator) (context : Context) :
    List Rule → RuleTraces → List Call → Option Evaluation × RuleTraces × List Call
  | [], traces, calls => (none, traces, calls)
  | rule :: rest, traces, calls =>
    match evaluator.interpreter.evaluateTraced rule.condition ⟨context, calls⟩ [] with
    | (matched, scope, conditions) =>
      let traces := traces ++ [traceOf rule matched conditions]
      if matched then (propose evaluator.name rule, traces, scope.calls)
      else evaluateRulesTraced evaluator context rest traces scope.calls

/-- The evaluation of a context as in `evaluate`, with the traces of the rules that were tried
behind the traces given. -/
def evaluateTraced (evaluator : RuleEvaluator) (context : Context) (traces : RuleTraces)
    (calls : List Call) : Option Evaluation × RuleTraces × List Call :=
  evaluator.evaluateRulesTraced context evaluator.ruleSet.rules traces calls

end RuleEvaluator
end Verdict
