import Verdict.Condition.Trace
import Verdict.Enrichment.Request

/-!
# Evaluation of conditions

A group is evaluated from left to right and no further than needed.  Evaluation goes through a
scope: the context as the next leaf sees it, which a fetch may extend, and the calls made so far.
-/

namespace Verdict

/-- What evaluation depends on besides the condition and the context. -/
structure Interpreter where
  registry : Registry
  collaborator : Option Collaborator
  now : Instant

/-- What a leaf sees: the context with what has been fetched, and the calls made so far. -/
structure Scope where
  context : Context
  calls : List Call

namespace Interpreter

/-- The calls that a fetch adds, and the values that it fetches if it succeeds. -/
def fetch (interpreter : Interpreter) (operand : Json) (scope : Scope) :
    List Call × Option (List (String × Json)) :=
  match interpreter.collaborator, Request.ofJson? operand with
  | some collaborator, some request =>
    match request.call? scope.context with
    | none => ([], none)
    | some call =>
      match collaborator scope.calls call with
      | .error _ => ([call], none)
      | .ok response => ([call], Request.overlay? response request.mapping)
  | _, _ => ([], none)

def evaluateLeaf (interpreter : Interpreter) (leaf : FieldCondition) (scope : Scope) :
    Bool × Scope :=
  match interpreter.registry.get? leaf.operator with
  | some (.pure test) => (test (scope.context.get? leaf.path) leaf.operand interpreter.now, scope)
  | some .enrichment =>
    match interpreter.fetch leaf.operand scope with
    | (calls, none) => (false, ⟨scope.context, scope.calls ++ calls⟩)
    | (calls, some overlay) => (true, ⟨scope.context.merged overlay, scope.calls ++ calls⟩)
  | none => (false, scope)

mutual

def evaluate (interpreter : Interpreter) : Condition → Scope → Bool × Scope
  | .all children, scope => evaluateAll interpreter children scope
  | .any children, scope => evaluateAny interpreter children scope
  | .field leaf, scope => interpreter.evaluateLeaf leaf scope

/-- Evaluates conditions up to the first one that is false. -/
def evaluateAll (interpreter : Interpreter) : List Condition → Scope → Bool × Scope
  | [], scope => (true, scope)
  | child :: rest, scope =>
    match evaluate interpreter child scope with
    | (true, scope) => evaluateAll interpreter rest scope
    | (false, scope) => (false, scope)

/-- Evaluates conditions up to the first one that is true. -/
def evaluateAny (interpreter : Interpreter) : List Condition → Scope → Bool × Scope
  | [], scope => (false, scope)
  | child :: rest, scope =>
    match evaluate interpreter child scope with
    | (true, scope) => (true, scope)
    | (false, scope) => evaluateAny interpreter rest scope

end

mutual

/-- Evaluates a condition and appends a trace for every leaf that is evaluated.  The actual value
of a trace is looked up after the leaf. -/
def evaluateTraced (interpreter : Interpreter) :
    Condition → Scope → List ConditionTrace → Bool × Scope × List ConditionTrace
  | .all children, scope, traces => evaluateAllTraced interpreter children scope traces
  | .any children, scope, traces => evaluateAnyTraced interpreter children scope traces
  | .field leaf, scope, traces =>
    let (result, scope) := interpreter.evaluateLeaf leaf scope
    let trace := ConditionTrace.ofLeaf leaf (scope.context.get? leaf.path) result
    (result, scope, traces ++ [trace])

def evaluateAllTraced (interpreter : Interpreter) :
    List Condition → Scope → List ConditionTrace → Bool × Scope × List ConditionTrace
  | [], scope, traces => (true, scope, traces)
  | child :: rest, scope, traces =>
    match evaluateTraced interpreter child scope traces with
    | (true, scope, traces) => evaluateAllTraced interpreter rest scope traces
    | (false, scope, traces) => (false, scope, traces)

def evaluateAnyTraced (interpreter : Interpreter) :
    List Condition → Scope → List ConditionTrace → Bool × Scope × List ConditionTrace
  | [], scope, traces => (false, scope, traces)
  | child :: rest, scope, traces =>
    match evaluateTraced interpreter child scope traces with
    | (true, scope, traces) => (true, scope, traces)
    | (false, scope, traces) => evaluateAnyTraced interpreter rest scope traces

end

def description (interpreter : Interpreter) : String :=
  "ConditionEvaluator \x7b operators: " ++ Nat.repr interpreter.registry.names.length ++
    ", enrichment: " ++ (if interpreter.collaborator.isSome then "true" else "false") ++
    ", clock: Some(" ++ interpreter.now.text ++ ") \x7d"

end Interpreter
end Verdict
