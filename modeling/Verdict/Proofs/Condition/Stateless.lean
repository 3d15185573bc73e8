import Verdict.Proofs.Condition.Tracing

/-!
# Evaluation with a stateless collaborator

With a stateless collaborator earlier calls only stand before the calls that an evaluation makes
itself (`Interpreter.evaluate_after`), and whether a condition holds in a context is a matter of the
two alone.
-/

namespace Verdict

/-- The calls before a call do not matter. -/
def Collaborator.Stateless (collaborator : Collaborator) : Prop :=
  ∀ (calls calls' : List Call) (call : Call), collaborator calls call = collaborator calls' call

def Scope.after (calls : List Call) (scope : Scope) : Scope :=
  ⟨scope.context, calls ++ scope.calls⟩

def Visit.after (calls : List Call) (visit : Visit) : Visit :=
  ⟨visit.leaf, visit.scope.after calls⟩

theorem Responses.stateless (responses : Responses) : responses.collaborator.Stateless :=
  fun _ _ _ => rfl

namespace Interpreter

def Stateless (interpreter : Interpreter) : Prop :=
  ∀ collaborator ∈ interpreter.collaborator, collaborator.Stateless

/-- The answer of a condition that is evaluated on its own, from a context and with no calls
before. -/
def holds (interpreter : Interpreter) (condition : Condition) (context : Context) : Bool :=
  (interpreter.evaluate condition ⟨context, []⟩).1

theorem fetch_after
    {interpreter : Interpreter} (stateless : interpreter.Stateless)
    (operand : Json) (calls : List Call) (scope : Scope) :
    interpreter.fetch operand (scope.after calls) = interpreter.fetch operand scope := by
  unfold fetch
  split
  · next collaborator request hcollaborator _ =>
    have hanswer (call : Call) :
        collaborator (calls ++ scope.calls) call = collaborator scope.calls call :=
      stateless collaborator hcollaborator (calls ++ scope.calls) scope.calls call
    simp only [Scope.after, hanswer]
  · rfl

theorem evaluateLeaf_after
    {interpreter : Interpreter} (stateless : interpreter.Stateless)
    (leaf : FieldCondition) (calls : List Call) (scope : Scope) :
    interpreter.evaluateLeaf leaf (scope.after calls) =
      ((interpreter.evaluateLeaf leaf scope).1,
        (interpreter.evaluateLeaf leaf scope).2.after calls) := by
  unfold evaluateLeaf
  split
  · rfl
  · rw [fetch_after stateless]
    rcases interpreter.fetch leaf.operand scope with ⟨fetched, _ | overlay⟩
    · simp only [Scope.after, List.append_assoc]
    · simp only [Scope.after, List.append_assoc]
  · rfl

mutual

/-- With a stateless collaborator, earlier calls only stand before the calls of an evaluation. -/
theorem evaluate_after
    {interpreter : Interpreter} (stateless : interpreter.Stateless) (calls : List Call) :
    ∀ (condition : Condition) (scope : Scope),
      interpreter.evaluate condition (scope.after calls) =
        ((interpreter.evaluate condition scope).1,
          (interpreter.evaluate condition scope).2.after calls)
  | .all children, scope => evaluateAll_after stateless calls children scope
  | .any children, scope => evaluateAny_after stateless calls children scope
  | .field leaf, scope => evaluateLeaf_after stateless leaf calls scope

theorem evaluateAll_after
    {interpreter : Interpreter} (stateless : interpreter.Stateless) (calls : List Call) :
    ∀ (children : List Condition) (scope : Scope),
      interpreter.evaluateAll children (scope.after calls) =
        ((interpreter.evaluateAll children scope).1,
          (interpreter.evaluateAll children scope).2.after calls)
  | [], _ => rfl
  | child :: rest, scope => by
      rw [evaluateAll, evaluateAll, evaluate_after stateless calls child scope]
      rcases interpreter.evaluate child scope with ⟨_ | _, left⟩
      · rfl
      · exact evaluateAll_after stateless calls rest left

theorem evaluateAny_after
    {interpreter : Interpreter} (stateless : interpreter.Stateless) (calls : List Call) :
    ∀ (children : List Condition) (scope : Scope),
      interpreter.evaluateAny children (scope.after calls) =
        ((interpreter.evaluateAny children scope).1,
          (interpreter.evaluateAny children scope).2.after calls)
  | [], _ => rfl
  | child :: rest, scope => by
      rw [evaluateAny, evaluateAny, evaluate_after stateless calls child scope]
      rcases interpreter.evaluate child scope with ⟨_ | _, left⟩
      · exact evaluateAny_after stateless calls rest left
      · rfl

end

theorem evaluate_fst_eq_holds
    {interpreter : Interpreter} (stateless : interpreter.Stateless)
    (condition : Condition) (context : Context) (calls : List Call) :
    (interpreter.evaluate condition ⟨context, calls⟩).1 =
      interpreter.holds condition context := by
  have hscope : (⟨context, calls⟩ : Scope) = (⟨context, []⟩ : Scope).after calls := by
    simp only [Scope.after, List.append_nil]
  rw [hscope, evaluate_after stateless]
  rfl

/-! ## Traces -/

def evidence (interpreter : Interpreter) (condition : Condition) (context : Context) :
    List ConditionTrace :=
  (interpreter.evaluateTraced condition ⟨context, []⟩ []).2.2

theorem traceOf_after
    {interpreter : Interpreter} (stateless : interpreter.Stateless)
    (calls : List Call) (visit : Visit) :
    interpreter.traceOf (visit.after calls) = interpreter.traceOf visit := by
  have hleaf := evaluateLeaf_after stateless visit.leaf calls visit.scope
  simp only [traceOf, scopeAfter, resultOf, Visit.after, hleaf]
  rfl

mutual

theorem visits_after
    {interpreter : Interpreter} (stateless : interpreter.Stateless) (calls : List Call) :
    ∀ (condition : Condition) (scope : Scope),
      interpreter.visits condition (scope.after calls) =
        (interpreter.visits condition scope).map (Visit.after calls)
  | .all children, scope => visitsAll_after stateless calls children scope
  | .any children, scope => visitsAny_after stateless calls children scope
  | .field _, _ => rfl

theorem visitsAll_after
    {interpreter : Interpreter} (stateless : interpreter.Stateless) (calls : List Call) :
    ∀ (children : List Condition) (scope : Scope),
      interpreter.visitsAll children (scope.after calls) =
        (interpreter.visitsAll children scope).map (Visit.after calls)
  | [], _ => rfl
  | child :: rest, scope => by
      rw [visitsAll, visitsAll, visits_after stateless calls child scope,
        evaluate_after stateless calls child scope, List.map_append]
      rcases interpreter.evaluate child scope with ⟨_ | _, left⟩
      · rfl
      · simp only [visitsAll_after stateless calls rest left]

theorem visitsAny_after
    {interpreter : Interpreter} (stateless : interpreter.Stateless) (calls : List Call) :
    ∀ (children : List Condition) (scope : Scope),
      interpreter.visitsAny children (scope.after calls) =
        (interpreter.visitsAny children scope).map (Visit.after calls)
  | [], _ => rfl
  | child :: rest, scope => by
      rw [visitsAny, visitsAny, visits_after stateless calls child scope,
        evaluate_after stateless calls child scope, List.map_append]
      rcases interpreter.evaluate child scope with ⟨_ | _, left⟩
      · simp only [visitsAny_after stateless calls rest left]
      · rfl

end

theorem evaluateTraced_traces_eq_evidence
    {interpreter : Interpreter} (stateless : interpreter.Stateless)
    (condition : Condition) (context : Context) (calls : List Call) :
    (interpreter.evaluateTraced condition ⟨context, calls⟩ []).2.2 =
      interpreter.evidence condition context := by
  have hscope : (⟨context, calls⟩ : Scope) = (⟨context, []⟩ : Scope).after calls := by
    simp only [Scope.after, List.append_nil]
  have htrace : interpreter.traceOf ∘ Visit.after calls = interpreter.traceOf := by
    funext visit
    exact traceOf_after stateless calls visit
  rw [evidence, evaluateTraced_eq, evaluateTraced_eq, hscope, visits_after stateless, List.map_map,
    htrace]

end Interpreter
end Verdict
