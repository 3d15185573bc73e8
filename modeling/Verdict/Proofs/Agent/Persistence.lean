import Verdict.Proofs.Agent.Queries
import Verdict.Proofs.Audit.Reading
import Verdict.Proofs.Decision.Confidence

/-!
# What becomes of the records of an agent

An agent of valid evaluators only records what can be written (`Agent.writable_recordOf`).  So a
record comes back from its document as it was, unless it holds a `null` where there may be nothing
(`Agent.recordOf_read_back`).
-/

namespace Verdict

theorem Evaluation.weight_of_make {decision : String} {weight : Float} {reason : Option String}
    {source : String} {evaluation : Evaluation}
    (made : make decision weight reason source = .ok evaluation) :
    0 ≤ evaluation.weight ∧ evaluation.weight ≤ 1 := by
  unfold make at made
  split at made
  · cases made
  · split at made
    · next hrange =>
      cases made
      simp only [Bool.and_eq_true, decide_eq_true_eq] at hrange
      exact ⟨hrange.1.2, hrange.2⟩
    · cases made

namespace RuleEvaluator

theorem exists_rule_of_mem_trials {interpreter : Interpreter} {context : Context}
    {rules : List Rule} {calls : List Call} {trace : RuleTrace}
    (tried : trace ∈ trials interpreter context rules calls) :
    ∃ rule ∈ rules, trace.weight = rule.weight := by
  induction rules generalizing calls with
  | nil => cases tried
  | cons rule rest ih =>
      rw [trials] at tried
      split at tried
      · obtain rfl := List.mem_singleton.mp tried
        exact ⟨rule, List.mem_cons_self, rfl⟩
      · rcases List.mem_cons.mp tried with rfl | hrest
        · exact ⟨rule, List.mem_cons_self, rfl⟩
        · obtain ⟨other, hother, hweight⟩ := ih hrest
          exact ⟨other, List.mem_cons_of_mem rule hother, hweight⟩

end RuleEvaluator

namespace Evaluator

theorem Valid.weight_of_opinion {evaluator : Evaluator} (valid : evaluator.Valid)
    {context : Context} {evaluation : Evaluation}
    (proposed : evaluator.opinion context = some evaluation) :
    0 ≤ evaluation.weight ∧ evaluation.weight ≤ 1 := by
  cases valid with
  | rules validated =>
      rename_i rules
      have hfirst : (rules.evaluate context []).1 = some evaluation := proposed
      rw [RuleEvaluator.evaluate_eq_firstMatch validated.admissible,
        Option.map_eq_some_iff] at hfirst
      obtain ⟨rule, hmatch, rfl⟩ := hfirst
      exact (validated.admissible rule (RuleEvaluator.mem_of_firstMatch hmatch)).weight
  | constant made =>
      rw [ofConstant] at made
      cases hmade : Evaluation.make _ _ _ _ with
      | error reason => rw [hmade] at made; cases made
      | ok constant =>
          rw [hmade] at made
          cases made
          cases proposed
          exact Evaluation.weight_of_make hmade

theorem Valid.weight_of_account {evaluator : Evaluator} (valid : evaluator.Valid)
    {context : Context} {trace : RuleTrace} (left : trace ∈ evaluator.account context) :
    0 ≤ trace.weight ∧ trace.weight ≤ 1 := by
  cases valid with
  | rules validated =>
      rw [account_rules] at left
      obtain ⟨rule, hrule, hweight⟩ := RuleEvaluator.exists_rule_of_mem_trials left
      rw [hweight]
      exact (validated.admissible rule hrule).weight
  | constant made =>
      obtain ⟨evaluation, rfl, -⟩ := of_ofConstant made
      cases left

end Evaluator

namespace Agent

variable {σ : Type}

/-- The agent has valid evaluators, and no more of them than a machine can count. -/
structure Valid (agent : Agent σ) : Prop where
  evaluators : ∀ evaluator ∈ agent.evaluators, evaluator.Valid
  bounded : agent.evaluators.length < 2 ^ 64

theorem Valid.declarative {agent : Agent σ} (valid : agent.Valid) : agent.Declarative :=
  fun evaluator hmem => (valid.evaluators evaluator hmem).declarative

theorem Valid.finite_verdict {agent : Agent σ} (valid : agent.Valid) (context : Context) :
    (agent.verdict context).Finite := by
  have weighted : ∀ evaluation ∈ agent.evaluators.filterMap (Evaluator.opinion context),
      0 ≤ evaluation.weight ∧ evaluation.weight ≤ 1 := by
    intro evaluation hmem
    obtain ⟨evaluator, hevaluator, hproposed⟩ := List.mem_filterMap.mp hmem
    exact (valid.evaluators evaluator hevaluator).weight_of_opinion hproposed
  have bounded : (agent.evaluators.filterMap (Evaluator.opinion context)).length < 2 ^ 64 :=
    (List.length_filterMap_le _ _).trans_lt valid.bounded
  obtain ⟨hlow, hhigh⟩ := Decision.confidence_score agent.strategy weighted bounded
  refine ⟨UnitInterval.isFinite_of_le hlow hhigh, ?_⟩
  intro evaluation hmem
  rw [verdict, Decision.evaluations_score] at hmem
  obtain ⟨hlow, hhigh⟩ := weighted evaluation hmem
  exact UnitInterval.isFinite_of_le hlow hhigh

theorem Valid.writable_recordOf {agent : Agent σ} (valid : agent.Valid) {query : Query}
    (now : query.now.Valid) : (agent.recordOf query).Writable := by
  refine ⟨valid.finite_verdict query.context, ?_, now⟩
  intro trace hmem
  have hleft : trace ∈ agent.account query.context := by
    rw [recordOf] at hmem
    split at hmem
    · exact hmem
    · cases hmem
  obtain ⟨evaluator, hevaluator, htrace⟩ := List.mem_flatMap.mp hleft
  obtain ⟨hlow, hhigh⟩ := (valid.evaluators evaluator hevaluator).weight_of_account htrace
  exact UnitInterval.isFinite_of_le hlow hhigh

/-- The record that a valid agent leaves of a query is read from its document.  Every part of it
comes back as it was, but a `null` as feedback or as the actual value of a leaf comes back as
nothing. -/
theorem recordOf_read_back
    (agent : Agent σ) (query : Query) (state : σ)
    (valid : agent.Valid) (now : query.now.Valid) :
    agent.answer query state =
        (.ok (agent.replyTo query), agent.audit (agent.recordOf query) state) ∧
      AuditRecord.ofJson? (agent.recordOf query).toJson =
        some (agent.recordOf query).withoutNulls ∧
      (AuditRecord.ofJson? (agent.recordOf query).toJson = some (agent.recordOf query) ↔
        query.feedback ≠ some .null ∧
          ∀ trace ∈ (agent.recordOf query).traces, ∀ condition ∈ trace.conditions,
            condition.actual ≠ some .null) := by
  have hread := AuditRecord.ofJson?_toJson (valid.writable_recordOf now)
  refine ⟨answer_eq valid.declarative query state, hread, ?_⟩
  rw [hread, Option.some.injEq, AuditRecord.withoutNulls_eq_self_iff]
  rfl

def ageRules : RuleSet :=
  ⟨"1", [⟨"unset", .field ⟨"age", "blank", .null⟩, "review", 1, none⟩]⟩

def ageSample : Agent Unit :=
  { evaluators := [.rules ⟨"intake", ageRules, ⟨.builtin, none, ⟨0, 0⟩⟩⟩]
    strategy := .weightedAverage
    sink := none
    tracing := true }

theorem valid_ageSample : ageSample.Valid :=
  ⟨List.forall_mem_singleton.mpr (.rules ⟨.builtin, ageRules.toJson, rfl⟩), by decide⟩

def absentAge : Query :=
  ⟨true, .empty, some (.bool false), ⟨951782400, 5000000⟩⟩

def nullAge : Query :=
  ⟨true, ⟨[("age", .null)]⟩, some (.bool false), ⟨951782400, 5000000⟩⟩

theorem valid_now_absentAge : absentAge.now.Valid :=
  ⟨by decide, by decide, Or.inl (by decide)⟩

theorem recordOf_read_back_ageSample :
    ageSample.Valid ∧ absentAge.now.Valid ∧
      (ageSample.recordOf absentAge).traces.ids = ["unset"] ∧
      AuditRecord.ofJson? (ageSample.recordOf absentAge).toJson =
        some (ageSample.recordOf absentAge) := by
  obtain ⟨-, -, hread⟩ :=
    recordOf_read_back ageSample absentAge () valid_ageSample valid_now_absentAge
  refine ⟨valid_ageSample, valid_now_absentAge, rfl, hread.mpr ⟨?_, ?_⟩⟩
  · intro hnull
    cases hnull
  · intro trace htrace condition hcondition hnull
    have hactuals : ((ageSample.recordOf absentAge).traces.flatMap RuleTrace.conditions).map
        ConditionTrace.actual = [none] := rfl
    have hactual := List.mem_map_of_mem (f := ConditionTrace.actual)
      (List.mem_flatMap.mpr ⟨trace, htrace, hcondition⟩)
    rw [hactuals, hnull] at hactual
    cases List.mem_singleton.mp hactual

/-- A leaf that finds a `null` age leaves the same document as one that finds no age, and the record
that is read from it is not the one that was written. -/
theorem recordOf_confuses_null :
    ageSample.Valid ∧ nullAge.now.Valid ∧
      (ageSample.recordOf nullAge).toJson = (ageSample.recordOf absentAge).toJson ∧
      AuditRecord.ofJson? (ageSample.recordOf nullAge).toJson ≠
        some (ageSample.recordOf nullAge) := by
  have now : nullAge.now.Valid := valid_now_absentAge
  refine ⟨valid_ageSample, now, rfl, ?_⟩
  rw [AuditRecord.ofJson?_toJson (valid_ageSample.writable_recordOf now), Ne, Option.some.injEq]
  intro h
  have hfound := congrArg (fun record : AuditRecord =>
    (record.traces.flatMap RuleTrace.conditions).map fun condition => condition.actual.isSome) h
  change [false] = [true] at hfound
  cases hfound

end Agent
end Verdict
