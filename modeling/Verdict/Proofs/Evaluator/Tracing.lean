import Verdict.Proofs.Evaluator.FirstMatch

/-!
# Traced rules

The traced search is the plain search that also appends the traces of the rules that it tries
(`RuleEvaluator.evaluateTraced_eq`).  With a stateless collaborator these are the traces that the
rules leave on their own (`RuleEvaluator.traceAlone`).
-/

namespace Verdict
namespace RuleEvaluator

/-! ## The traced search -/

/-- The traces of the rules that are tried, up to and including the first one that matches. -/
def trials (interpreter : Interpreter) (context : Context) : List Rule → List Call → RuleTraces
  | [], _ => []
  | rule :: rest, calls =>
    match interpreter.evaluateTraced rule.condition ⟨context, calls⟩ [] with
    | (true, _, conditions) => [traceOf rule true conditions]
    | (false, scope, conditions) =>
      traceOf rule false conditions :: trials interpreter context rest scope.calls

/-- The traced search finds what the plain search finds, after the same calls, and appends the
traces of the rules that it tries. -/
theorem evaluateRulesTraced_eq
    (evaluator : RuleEvaluator) (context : Context) (rules : List Rule) (traces : RuleTraces)
    (calls : List Call) :
    evaluator.evaluateRulesTraced context rules traces calls =
      ((firstMatch evaluator.interpreter context rules calls).1.bind (propose evaluator.name),
        traces ++ trials evaluator.interpreter context rules calls,
        (firstMatch evaluator.interpreter context rules calls).2) := by
  induction rules generalizing traces calls with
  | nil => simp only [evaluateRulesTraced, firstMatch, trials, Option.bind_none, List.append_nil]
  | cons rule rest ih =>
      rw [evaluateRulesTraced, firstMatch, trials, Interpreter.evaluateTraced_eq]
      rcases evaluator.interpreter.evaluate rule.condition ⟨context, calls⟩ with ⟨_ | _, scope⟩
      · simp only [Bool.false_eq_true, if_false, ih, List.append_assoc, List.singleton_append]
      · simp only [if_true, Option.bind_some]

theorem evaluateTraced_eq
    (evaluator : RuleEvaluator) (context : Context) (traces : RuleTraces) (calls : List Call) :
    evaluator.evaluateTraced context traces calls =
      ((evaluator.evaluate context calls).1,
        traces ++ trials evaluator.interpreter context evaluator.ruleSet.rules calls,
        (evaluator.evaluate context calls).2) :=
  evaluateRulesTraced_eq evaluator context evaluator.ruleSet.rules traces calls

/-! ## Rules on their own -/

/-- The trace of a rule that is tried on its own. -/
def traceAlone (interpreter : Interpreter) (context : Context) (rule : Rule) : RuleTrace :=
  { ruleId := rule.id
    matched := interpreter.holds rule.condition context
    conditions := interpreter.evidence rule.condition context
    decision := rule.decision
    weight := rule.weight
    reason := rule.reason }

@[simp] theorem matched_traceAlone (interpreter : Interpreter) (context : Context) (rule : Rule) :
    (traceAlone interpreter context rule).matched =
      interpreter.holds rule.condition context :=
  rfl

/-- The rule at an index is the first one whose condition holds on its own. -/
structure FirstMatch (interpreter : Interpreter) (context : Context) (rules : List Rule)
    (index : Nat) : Prop where
  bound : index < rules.length
  holds : interpreter.holds rules[index].condition context = true
  earlier : ∀ (other : Nat) (before : other < index),
    interpreter.holds rules[other].condition context = false

variable {interpreter : Interpreter} {context : Context} {rules : List Rule} {index : Nat}

theorem FirstMatch.of_cons {rule : Rule}
    (first : FirstMatch interpreter context (rule :: rules) (index + 1)) :
    interpreter.holds rule.condition context = false ∧
      FirstMatch interpreter context rules index := by
  refine ⟨first.earlier 0 (Nat.succ_pos index), ⟨?_, ?_, ?_⟩⟩
  · exact Nat.lt_of_succ_lt_succ first.bound
  · exact first.holds
  · intro other before
    exact first.earlier (other + 1) (Nat.succ_lt_succ before)

theorem FirstMatch.unique {other : Nat} (first : FirstMatch interpreter context rules index)
    (first' : FirstMatch interpreter context rules other) : index = other := by
  rcases Nat.lt_trichotomy index other with hlt | heq | hgt
  · have hfails := first'.earlier index hlt
    rw [first.holds] at hfails
    cases hfails
  · exact heq
  · have hfails := first.earlier other hgt
    rw [first'.holds] at hfails
    cases hfails

theorem exists_firstMatch
    (h : ∃ rule ∈ rules, interpreter.holds rule.condition context = true) :
    ∃ index, FirstMatch interpreter context rules index := by
  have hbound := List.findIdx_lt_length.mpr h
  refine ⟨_, hbound, List.findIdx_getElem (w := hbound), ?_⟩
  intro other before
  simpa using List.not_of_lt_findIdx before

theorem fails_of_no_match
    (h : ¬∃ rule ∈ rules, interpreter.holds rule.condition context = true) :
    ∀ rule ∈ rules, interpreter.holds rule.condition context = false := by
  intro rule hrule
  rw [← Bool.not_eq_true]
  exact fun hholds => h ⟨rule, hrule, hholds⟩

theorem trials_cons
    (stateless : interpreter.Stateless) (rule : Rule) (calls : List Call) :
    ∃ calls', trials interpreter context (rule :: rules) calls =
      traceAlone interpreter context rule ::
        if interpreter.holds rule.condition context then []
        else trials interpreter context rules calls' := by
  have hanswer := Interpreter.evaluate_fst_eq_holds stateless rule.condition context calls
  have htraces := Interpreter.evaluateTraced_traces_eq_evidence stateless rule.condition context
    calls
  rw [Interpreter.evaluateTraced_eq] at htraces
  rw [trials, Interpreter.evaluateTraced_eq]
  refine ⟨(interpreter.evaluate rule.condition ⟨context, calls⟩).2.calls, ?_⟩
  rw [traceAlone, ← hanswer, ← htraces]
  rcases interpreter.evaluate rule.condition ⟨context, calls⟩ with ⟨_ | _, scope⟩
  · rfl
  · rfl

theorem trials_of_firstMatch
    (stateless : interpreter.Stateless) (first : FirstMatch interpreter context rules index)
    (calls : List Call) :
    trials interpreter context rules calls =
      (rules.take (index + 1)).map (traceAlone interpreter context) := by
  induction rules generalizing index calls with
  | nil => exact absurd first.bound (Nat.not_lt_zero index)
  | cons rule rest ih =>
      obtain ⟨calls', htrials⟩ := trials_cons stateless rule calls
      rw [htrials, List.take_succ_cons, List.map_cons]
      cases index with
      | zero =>
          have hholds : interpreter.holds rule.condition context = true := first.holds
          rw [if_pos hholds, List.take_zero, List.map_nil]
      | succ index =>
          obtain ⟨hfails, hrest⟩ := first.of_cons
          rw [if_neg (by simp [hfails]), ih hrest]

theorem trials_of_no_match
    (stateless : interpreter.Stateless)
    (fails : ∀ rule ∈ rules, interpreter.holds rule.condition context = false)
    (calls : List Call) :
    trials interpreter context rules calls = rules.map (traceAlone interpreter context) := by
  induction rules generalizing calls with
  | nil => rfl
  | cons rule rest ih =>
      obtain ⟨hfails, hrest⟩ := List.forall_mem_cons.mp fails
      obtain ⟨calls', htrials⟩ := trials_cons stateless rule calls
      rw [htrials, if_neg (by simp [hfails]), ih hrest, List.map_cons]

theorem matched_of_firstMatch (first : FirstMatch interpreter context rules index) :
    ((rules.take (index + 1)).map (traceAlone interpreter context)).map RuleTrace.matched =
      List.replicate index false ++ [true] := by
  have hlength : (rules.take index).length = index :=
    List.length_take_of_le (Nat.le_of_lt first.bound)
  have hearlier : (rules.take index).map
      (fun rule => interpreter.holds rule.condition context) = List.replicate index false := by
    rw [List.map_eq_replicate_iff.mpr, hlength]
    intro rule hrule
    obtain ⟨other, bound, rfl⟩ := List.mem_take_iff_getElem.mp hrule
    exact first.earlier other (by omega)
  rw [List.map_map, ← List.take_append_getElem first.bound, List.map_append]
  simp only [Function.comp_def, matched_traceAlone, hearlier, List.map_cons, List.map_nil,
    first.holds]

theorem trials_eq_of_stateless
    (stateless : interpreter.Stateless) (context : Context) (rules : List Rule)
    (calls calls' : List Call) :
    trials interpreter context rules calls = trials interpreter context rules calls' := by
  by_cases h : ∃ rule ∈ rules, interpreter.holds rule.condition context = true
  · obtain ⟨index, first⟩ := exists_firstMatch h
    rw [trials_of_firstMatch stateless first, trials_of_firstMatch stateless first]
  · have fails := fails_of_no_match h
    rw [trials_of_no_match stateless fails, trials_of_no_match stateless fails]

theorem evaluate_eq_of_stateless
    {evaluator : RuleEvaluator} (stateless : evaluator.interpreter.Stateless) (context : Context)
    (calls calls' : List Call) :
    (evaluator.evaluate context calls).1 = (evaluator.evaluate context calls').1 := by
  have hfirst := (firstMatch_eq_find? stateless context evaluator.ruleSet.rules calls).trans
    (firstMatch_eq_find? stateless context evaluator.ruleSet.rules calls').symm
  simp only [evaluate, hfirst]

/-- Traced evaluation answers like plain evaluation and appends one trace for each rule that is
tried, as the rule leaves it on its own: up to the first match, of which only the last one is
marked, or for all rules where none matches. -/
theorem evaluateTraced_refines_evaluate
    (evaluator : RuleEvaluator) (context : Context) (traces : RuleTraces)
    (calls calls' : List Call) (stateless : evaluator.interpreter.Stateless) :
    (evaluator.evaluateTraced context traces calls).1 = (evaluator.evaluate context calls').1 ∧
      ∃ recorded : RuleTraces,
        (evaluator.evaluateTraced context traces calls).2.1 = traces ++ recorded ∧
          ((∃ index, FirstMatch evaluator.interpreter context evaluator.ruleSet.rules index ∧
              recorded = (evaluator.ruleSet.rules.take (index + 1)).map
                (traceAlone evaluator.interpreter context) ∧
              recorded.map RuleTrace.matched = List.replicate index false ++ [true]) ∨
            ((∀ rule ∈ evaluator.ruleSet.rules,
                evaluator.interpreter.holds rule.condition context = false) ∧
              recorded = evaluator.ruleSet.rules.map (traceAlone evaluator.interpreter context) ∧
              recorded.map RuleTrace.matched =
                List.replicate evaluator.ruleSet.rules.length false)) := by
  rw [evaluateTraced_eq]
  refine ⟨evaluate_eq_of_stateless stateless context calls calls',
    trials evaluator.interpreter context evaluator.ruleSet.rules calls, rfl, ?_⟩
  by_cases h : ∃ rule ∈ evaluator.ruleSet.rules,
      evaluator.interpreter.holds rule.condition context = true
  · obtain ⟨index, first⟩ := exists_firstMatch h
    have htrials := trials_of_firstMatch stateless first calls
    refine Or.inl ⟨index, first, htrials, ?_⟩
    rw [htrials]
    exact matched_of_firstMatch first
  · have fails := fails_of_no_match h
    have htrials := trials_of_no_match stateless fails calls
    refine Or.inr ⟨fails, htrials, ?_⟩
    rw [htrials, List.map_map]
    exact List.map_eq_replicate_iff.mpr fails

theorem stateless_sample : sample.interpreter.Stateless := by
  rintro collaborator ⟨⟩
  exact Responses.stateless _

theorem evaluateTraced_refines_evaluate_sample :
    sample.interpreter.Stateless ∧
      (sample.evaluateTraced .empty [⟨"before", true, [], "approve", 1, none⟩] []).1 =
        some ⟨"review", 0.5, some "no other rule", "scoring", some "rest"⟩ ∧
      ∃ recorded : RuleTraces,
        (sample.evaluateTraced .empty [⟨"before", true, [], "approve", 1, none⟩] []).2.1 =
          ⟨"before", true, [], "approve", 1, none⟩ :: recorded ∧
        recorded.ids = ["grade", "score", "rest"] ∧
        recorded.map RuleTrace.matched = [false, false, true] := by
  obtain ⟨hanswer, recorded, happended, hcases⟩ :=
    evaluateTraced_refines_evaluate sample .empty [⟨"before", true, [], "approve", 1, none⟩] [] []
      stateless_sample
  refine ⟨stateless_sample, hanswer.trans rfl, recorded, happended, ?_⟩
  have third : FirstMatch sample.interpreter .empty sample.ruleSet.rules 2 :=
    ⟨by decide, rfl, by decide⟩
  rcases hcases with ⟨index, first, hrecorded, hmatched⟩ | ⟨fails, -⟩
  · obtain rfl : index = 2 := first.unique third
    exact ⟨by rw [hrecorded]; rfl, hmatched⟩
  · have hfails := fails _ (List.getElem_mem third.bound)
    rw [third.holds] at hfails
    cases hfails

end RuleEvaluator
end Verdict
