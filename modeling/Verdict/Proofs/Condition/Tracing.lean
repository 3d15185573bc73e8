import Verdict.Condition.Evaluation

/-!
# Visited leaves and their traces

`Interpreter.visits` lists the leaves that an evaluation meets, each with the scope it meets it in.
Traced evaluation is plain evaluation that appends the trace of every visit
(`Interpreter.evaluateTraced_eq`).
-/

namespace Verdict

/-- A leaf and the scope in which it is met. -/
structure Visit where
  leaf : FieldCondition
  scope : Scope

namespace Interpreter

def resultOf (interpreter : Interpreter) (visit : Visit) : Bool :=
  (interpreter.evaluateLeaf visit.leaf visit.scope).1

def scopeAfter (interpreter : Interpreter) (visit : Visit) : Scope :=
  (interpreter.evaluateLeaf visit.leaf visit.scope).2

def traceOf (interpreter : Interpreter) (visit : Visit) : ConditionTrace :=
  .ofLeaf visit.leaf ((interpreter.scopeAfter visit).context.get? visit.leaf.path)
    (interpreter.resultOf visit)

mutual

/-- The leaves that an evaluation meets, in order. -/
def visits (interpreter : Interpreter) : Condition → Scope → List Visit
  | .all children, scope => visitsAll interpreter children scope
  | .any children, scope => visitsAny interpreter children scope
  | .field leaf, scope => [⟨leaf, scope⟩]

def visitsAll (interpreter : Interpreter) : List Condition → Scope → List Visit
  | [], _ => []
  | child :: rest, scope =>
    visits interpreter child scope ++
      match interpreter.evaluate child scope with
      | (true, scope) => visitsAll interpreter rest scope
      | (false, _) => []

def visitsAny (interpreter : Interpreter) : List Condition → Scope → List Visit
  | [], _ => []
  | child :: rest, scope =>
    visits interpreter child scope ++
      match interpreter.evaluate child scope with
      | (true, _) => []
      | (false, scope) => visitsAny interpreter rest scope

end

/-! ## Traced evaluation -/

mutual

/-- Traced evaluation is plain evaluation that appends the trace of every visit. -/
theorem evaluateTraced_eq (interpreter : Interpreter) :
    ∀ (condition : Condition) (scope : Scope) (traces : List ConditionTrace),
      interpreter.evaluateTraced condition scope traces =
        ((interpreter.evaluate condition scope).1, (interpreter.evaluate condition scope).2,
          traces ++ (interpreter.visits condition scope).map interpreter.traceOf)
  | .all children, scope, traces => by
      simpa only [evaluateTraced, evaluate, visits] using
        evaluateAllTraced_eq interpreter children scope traces
  | .any children, scope, traces => by
      simpa only [evaluateTraced, evaluate, visits] using
        evaluateAnyTraced_eq interpreter children scope traces
  | .field leaf, scope, traces => by
      simp only [evaluateTraced, evaluate, visits, traceOf, scopeAfter, resultOf, List.map_cons,
        List.map_nil]

theorem evaluateAllTraced_eq (interpreter : Interpreter) :
    ∀ (children : List Condition) (scope : Scope) (traces : List ConditionTrace),
      interpreter.evaluateAllTraced children scope traces =
        ((interpreter.evaluateAll children scope).1, (interpreter.evaluateAll children scope).2,
          traces ++ (interpreter.visitsAll children scope).map interpreter.traceOf)
  | [], scope, traces => by
      simp only [evaluateAllTraced, evaluateAll, visitsAll, List.map_nil, List.append_nil]
  | child :: rest, scope, traces => by
      rw [evaluateAllTraced, evaluateTraced_eq interpreter child scope traces, evaluateAll,
        visitsAll]
      rcases interpreter.evaluate child scope with ⟨_ | _, after⟩
      · simp only [List.append_nil]
      · simp only [evaluateAllTraced_eq interpreter rest after, List.map_append,
          List.append_assoc]

theorem evaluateAnyTraced_eq (interpreter : Interpreter) :
    ∀ (children : List Condition) (scope : Scope) (traces : List ConditionTrace),
      interpreter.evaluateAnyTraced children scope traces =
        ((interpreter.evaluateAny children scope).1, (interpreter.evaluateAny children scope).2,
          traces ++ (interpreter.visitsAny children scope).map interpreter.traceOf)
  | [], scope, traces => by
      simp only [evaluateAnyTraced, evaluateAny, visitsAny, List.map_nil, List.append_nil]
  | child :: rest, scope, traces => by
      rw [evaluateAnyTraced, evaluateTraced_eq interpreter child scope traces, evaluateAny,
        visitsAny]
      rcases interpreter.evaluate child scope with ⟨_ | _, after⟩
      · simp only [evaluateAnyTraced_eq interpreter rest after, List.map_append,
          List.append_assoc]
      · simp only [List.append_nil]

end

/-- Tracing is invisible to evaluation: it gives the same answer after the same calls and with the
same context, and it only appends to the traces that there are before. -/
theorem evaluateTraced_agrees_with_evaluate
    (interpreter : Interpreter) (condition : Condition) (scope : Scope) :
    ∃ recorded : List ConditionTrace, ∀ traces : List ConditionTrace,
      (interpreter.evaluateTraced condition scope traces).1 =
          (interpreter.evaluate condition scope).1 ∧
        (interpreter.evaluateTraced condition scope traces).2.1.calls =
          (interpreter.evaluate condition scope).2.calls ∧
        (interpreter.evaluateTraced condition scope traces).2.1.context =
          (interpreter.evaluate condition scope).2.context ∧
        (interpreter.evaluateTraced condition scope traces).2.2 = traces ++ recorded := by
  refine ⟨(interpreter.visits condition scope).map interpreter.traceOf, fun traces => ?_⟩
  rw [evaluateTraced_eq]
  exact ⟨rfl, rfl, rfl, rfl⟩

end Interpreter
end Verdict
