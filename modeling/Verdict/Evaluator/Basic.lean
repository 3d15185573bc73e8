import Verdict.Evaluator.Rules
import Verdict.Time.Duration

/-!
# Evaluators

An evaluator follows rules, always proposes the same, or is of any other kind; one of another kind
takes some time and may break down instead of answering.
-/

namespace Verdict

structure Breakdown where
  evaluator : String

inductive Evaluator where
  | rules (evaluator : RuleEvaluator)
  | fixed (evaluation : Evaluation)
  | other (name : String) (delay : Duration)
      (respond : Context → Except Breakdown (Option Evaluation))

namespace Evaluator

def name : Evaluator → String
  | rules evaluator => evaluator.name
  | fixed evaluation => evaluation.source
  | other name _ _ => name

def ofConstant (name decision : String) (weight : Float) (reason : Option String) :
    Except EvaluationError Evaluator :=
  (Evaluation.make decision weight reason name).map fixed

/-- The answer to a context, at the instant that the clock of the interpreter is pinned to.  No
calls stand before an evaluation, and those that it makes are dropped: the collaborator is taken to
be stateless (`Collaborator.Stateless`), so that it cannot tell. -/
def evaluate (context : Context) : Evaluator → Except Breakdown (Option Evaluation)
  | rules evaluator => .ok (evaluator.evaluate context []).1
  | fixed evaluation => .ok (some evaluation)
  | other _ _ respond => respond context

/-- The answer to a context under the same conditions, with the traces of rules behind the traces
given. -/
def evaluateTraced (context : Context) (traces : RuleTraces) :
    Evaluator → Except Breakdown (Option Evaluation × RuleTraces)
  | rules evaluator =>
    let (evaluation, traces, _) := evaluator.evaluateTraced context traces []
    .ok (evaluation, traces)
  | fixed evaluation => .ok (some evaluation, traces)
  | other _ _ respond => (respond context).map fun evaluation => (evaluation, traces)

def delay : Evaluator → Duration
  | other _ delay _ => delay
  | _ => .zero

def breaksDown (context : Context) (evaluator : Evaluator) : Bool :=
  match evaluator.evaluate context with
  | .ok _ => false
  | .error _ => true

end Evaluator
end Verdict
