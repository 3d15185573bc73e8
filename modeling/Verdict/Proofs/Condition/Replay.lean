import Verdict.Proofs.Condition.Tracing

/-!
# Traces explain the outcome

`Condition.replay` runs the logic of groups once more on recorded results alone.  On those of an
evaluation it meets the same leaves, reads every result and comes to the same outcome
(`Interpreter.replay_visits`).
-/

namespace Verdict

/-- A replay of recorded results: the outcome, the leaves that it met and what it has not read. -/
structure Replay where
  outcome : Bool
  met : List FieldCondition
  unread : List Bool

namespace Condition

mutual

/-- Replays a condition, unless there are too few results. -/
def replay : Condition → List Bool → Option Replay
  | all children, results => replayAll children results
  | any children, results => replayAny children results
  | field _, [] => none
  | field leaf, result :: unread => some ⟨result, [leaf], unread⟩

def replayAll : List Condition → List Bool → Option Replay
  | [], results => some ⟨true, [], results⟩
  | child :: rest, results =>
    match child.replay results with
    | some ⟨true, met, unread⟩ =>
      (replayAll rest unread).map fun others => { others with met := met ++ others.met }
    | some ⟨false, met, unread⟩ => some ⟨false, met, unread⟩
    | none => none

def replayAny : List Condition → List Bool → Option Replay
  | [], results => some ⟨false, [], results⟩
  | child :: rest, results =>
    match child.replay results with
    | some ⟨true, met, unread⟩ => some ⟨true, met, unread⟩
    | some ⟨false, met, unread⟩ =>
      (replayAny rest unread).map fun others => { others with met := met ++ others.met }
    | none => none

end

end Condition

def ConditionTrace.leaf (trace : ConditionTrace) : FieldCondition :=
  ⟨trace.path, trace.operator, trace.expected⟩

namespace Interpreter

/-- The result of a trace is what its operator says about its values.  A trace does not hold what
the answer to a fetch depends on, so nothing is asked of a fetch. -/
def Certifies (interpreter : Interpreter) (trace : ConditionTrace) : Prop :=
  match interpreter.registry.get? trace.operator with
  | some (.pure test) => trace.result = test trace.actual trace.expected interpreter.now
  | some .enrichment => True
  | none => trace.result = false

/-! ## Visited leaves -/

@[simp] theorem leaf_traceOf (interpreter : Interpreter) (visit : Visit) :
    (interpreter.traceOf visit).leaf = visit.leaf :=
  rfl

@[simp] theorem result_traceOf (interpreter : Interpreter) (visit : Visit) :
    (interpreter.traceOf visit).result = interpreter.resultOf visit :=
  rfl

theorem scopeAfter_eq_of_not_enrichment
    {interpreter : Interpreter} {visit : Visit}
    (h : interpreter.registry.get? visit.leaf.operator ≠ some .enrichment) :
    interpreter.scopeAfter visit = visit.scope := by
  unfold scopeAfter evaluateLeaf
  split
  · rfl
  · next hfetch => exact absurd hfetch h
  · rfl

theorem certifies_traceOf (interpreter : Interpreter) (visit : Visit) :
    interpreter.Certifies (interpreter.traceOf visit) := by
  have hname : (interpreter.traceOf visit).operator = visit.leaf.operator := rfl
  rw [Certifies, hname]
  cases hoperator : interpreter.registry.get? visit.leaf.operator with
  | none => simp only [result_traceOf, resultOf, evaluateLeaf, hoperator]
  | some operator =>
      cases operator with
      | enrichment => trivial
      | pure test =>
          -- The value in the trace is looked up after the leaf, the test looked it up before.
          have hscope : interpreter.scopeAfter visit = visit.scope :=
            scopeAfter_eq_of_not_enrichment (by simp [hoperator])
          have hactual : (interpreter.traceOf visit).actual =
              visit.scope.context.get? visit.leaf.path := by
            rw [← hscope]
            rfl
          have hexpected : (interpreter.traceOf visit).expected = visit.leaf.operand := rfl
          rw [hactual, hexpected]
          simp only [result_traceOf, resultOf, evaluateLeaf, hoperator]

mutual

theorem visits_sublist_leaves (interpreter : Interpreter) :
    ∀ (condition : Condition) (scope : Scope),
      ((interpreter.visits condition scope).map Visit.leaf).Sublist condition.leaves
  | .all children, scope => visitsAll_sublist_leaves interpreter children scope
  | .any children, scope => visitsAny_sublist_leaves interpreter children scope
  | .field leaf, _ => .refl [leaf]

theorem visitsAll_sublist_leaves (interpreter : Interpreter) :
    ∀ (children : List Condition) (scope : Scope),
      ((interpreter.visitsAll children scope).map Visit.leaf).Sublist
        (Condition.leavesOf children)
  | [], _ => .slnil
  | child :: rest, scope => by
      rw [visitsAll, List.map_append, Condition.leavesOf]
      apply (visits_sublist_leaves interpreter child scope).append
      split
      · exact visitsAll_sublist_leaves interpreter rest _
      · exact List.nil_sublist _

theorem visitsAny_sublist_leaves (interpreter : Interpreter) :
    ∀ (children : List Condition) (scope : Scope),
      ((interpreter.visitsAny children scope).map Visit.leaf).Sublist
        (Condition.leavesOf children)
  | [], _ => .slnil
  | child :: rest, scope => by
      rw [visitsAny, List.map_append, Condition.leavesOf]
      apply (visits_sublist_leaves interpreter child scope).append
      split
      · exact List.nil_sublist _
      · exact visitsAny_sublist_leaves interpreter rest _

end

/-! ## Replay -/

mutual

/-- A replay of the results of an evaluation, with any others behind them, meets the leaves of the
evaluation, comes to its outcome and leaves the others unread. -/
theorem replay_visits (interpreter : Interpreter) :
    ∀ (condition : Condition) (scope : Scope) (others : List Bool),
      condition.replay ((interpreter.visits condition scope).map interpreter.resultOf ++ others) =
        some ⟨(interpreter.evaluate condition scope).1,
          (interpreter.visits condition scope).map Visit.leaf, others⟩
  | .all children, scope, others => replayAll_visitsAll interpreter children scope others
  | .any children, scope, others => replayAny_visitsAny interpreter children scope others
  | .field _, _, _ => rfl

theorem replayAll_visitsAll (interpreter : Interpreter) :
    ∀ (children : List Condition) (scope : Scope) (others : List Bool),
      Condition.replayAll children
          ((interpreter.visitsAll children scope).map interpreter.resultOf ++ others) =
        some ⟨(interpreter.evaluateAll children scope).1,
          (interpreter.visitsAll children scope).map Visit.leaf, others⟩
  | [], _, _ => rfl
  | child :: rest, scope, others => by
      rw [visitsAll, evaluateAll, Condition.replayAll, List.map_append, List.append_assoc,
        replay_visits interpreter child scope]
      rcases interpreter.evaluate child scope with ⟨_ | _, after⟩
      · simp only [List.map_nil, List.nil_append, List.append_nil]
      · simp only [replayAll_visitsAll interpreter rest after, Option.map_some, List.map_append]

theorem replayAny_visitsAny (interpreter : Interpreter) :
    ∀ (children : List Condition) (scope : Scope) (others : List Bool),
      Condition.replayAny children
          ((interpreter.visitsAny children scope).map interpreter.resultOf ++ others) =
        some ⟨(interpreter.evaluateAny children scope).1,
          (interpreter.visitsAny children scope).map Visit.leaf, others⟩
  | [], _, _ => rfl
  | child :: rest, scope, others => by
      rw [visitsAny, evaluateAny, Condition.replayAny, List.map_append, List.append_assoc,
        replay_visits interpreter child scope]
      rcases interpreter.evaluate child scope with ⟨_ | _, after⟩
      · simp only [replayAny_visitsAny interpreter rest after, Option.map_some, List.map_append]
      · simp only [List.map_nil, List.nil_append, List.append_nil]

end

/-- The traces that an evaluation appends explain its outcome: they are about leaves of the
condition, from left to right; the logic of the groups, run on their results alone, comes to the
same outcome; and each of them certifies itself. -/
theorem evaluateTraced_auditable
    (interpreter : Interpreter) (condition : Condition) (scope : Scope)
    (traces : List ConditionTrace) :
    ∃ recorded : List ConditionTrace,
      (interpreter.evaluateTraced condition scope traces).2.2 = traces ++ recorded ∧
        (recorded.map ConditionTrace.leaf).Sublist condition.leaves ∧
        recorded.length ≤ condition.leafCount ∧
        condition.replay (recorded.map ConditionTrace.result) =
          some ⟨(interpreter.evaluateTraced condition scope traces).1,
            recorded.map ConditionTrace.leaf, []⟩ ∧
        ∀ trace ∈ recorded, interpreter.Certifies trace := by
  rw [evaluateTraced_eq]
  refine ⟨(interpreter.visits condition scope).map interpreter.traceOf, rfl, ?_⟩
  have hleaves : ((interpreter.visits condition scope).map interpreter.traceOf).map
      ConditionTrace.leaf = (interpreter.visits condition scope).map Visit.leaf := by
    simp only [List.map_map, Function.comp_def, leaf_traceOf]
  have hresults : ((interpreter.visits condition scope).map interpreter.traceOf).map
      ConditionTrace.result = (interpreter.visits condition scope).map interpreter.resultOf := by
    simp only [List.map_map, Function.comp_def, result_traceOf]
  have hsublist := visits_sublist_leaves interpreter condition scope
  rw [hleaves, hresults]
  refine ⟨hsublist, ?_, ?_, ?_⟩
  · simpa [Condition.leafCount] using hsublist.length_le
  · simpa using replay_visits interpreter condition scope []
  · intro trace htrace
    obtain ⟨visit, -, rfl⟩ := List.mem_map.mp htrace
    exact certifies_traceOf interpreter visit

end Interpreter
end Verdict
