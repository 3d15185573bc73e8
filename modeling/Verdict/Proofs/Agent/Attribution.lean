import Verdict.Proofs.Agent.Consultation
import Verdict.Proofs.Decision.Totality

/-!
# Evaluations and the rules behind them

The traces of a decision and its evaluations are gathered separately.  A rule evaluator cites the
same rule on both sides or none on either (`RuleEvaluator.citations_of_admissible`), and the
citations agree for a whole agent (`Agent.decideTraced_attributes`).
-/

namespace Verdict

/-- What a trace and an evaluation say about a rule. -/
structure Citation where
  ruleId : String
  decision : String
  weight : Float
  reason : Option String

def RuleTrace.citation (trace : RuleTrace) : Citation :=
  ⟨trace.ruleId, trace.decision, trace.weight, trace.reason⟩

def Evaluation.citation? (evaluation : Evaluation) : Option Citation :=
  evaluation.ruleId.map fun id =>
    ⟨id, evaluation.decision, evaluation.weight, evaluation.reason⟩

namespace RuleEvaluator

theorem matched_trials
    (interpreter : Interpreter) (context : Context) (rules : List Rule) (calls : List Call) :
    (trials interpreter context rules calls).matched.map RuleTrace.citation =
      (firstMatch interpreter context rules calls).1.toList.map fun rule =>
        ⟨rule.id, rule.decision, rule.weight, rule.reason⟩ := by
  induction rules generalizing calls with
  | nil => rfl
  | cons rule rest ih =>
      rw [trials, firstMatch, Interpreter.evaluateTraced_eq]
      rcases interpreter.evaluate rule.condition ⟨context, calls⟩ with ⟨_ | _, scope⟩
      · exact ih scope.calls
      · rfl

/-- The marked traces cite the rule of the evaluation.  This fails for a rule that matches and
cannot propose anything, which is why the rules have to be admissible. -/
theorem citations_of_admissible {evaluator : RuleEvaluator}
    (admissible : ∀ rule ∈ evaluator.ruleSet.rules, rule.Admissible)
    (context : Context) (calls : List Call) :
    (trials evaluator.interpreter context evaluator.ruleSet.rules calls).matched.map
        RuleTrace.citation =
      (evaluator.evaluate context calls).1.toList.filterMap Evaluation.citation? := by
  rw [matched_trials, evaluate_eq_firstMatch admissible]
  cases (firstMatch evaluator.interpreter context evaluator.ruleSet.rules calls).1 with
  | none => rfl
  | some rule => rfl

end RuleEvaluator

namespace Evaluator

/-- The evaluator follows a rule set that has been checked, or always makes the same proposal, one
that has been valid. -/
inductive Valid : Evaluator → Prop where
  | rules {evaluator : RuleEvaluator} (validated : evaluator.ruleSet.Validated) :
      Valid (.rules evaluator)
  | constant {name decision : String} {weight : Float} {reason : Option String}
      {evaluator : Evaluator} (made : ofConstant name decision weight reason = .ok evaluator) :
      Valid evaluator

theorem of_ofConstant {name decision : String} {weight : Float} {reason : Option String}
    {evaluator : Evaluator} (made : ofConstant name decision weight reason = .ok evaluator) :
    ∃ evaluation : Evaluation, evaluator = .fixed evaluation ∧ evaluation.ruleId = none := by
  unfold ofConstant Evaluation.make at made
  split at made
  · cases made
  · split at made
    · cases made
      exact ⟨_, rfl, rfl⟩
    · cases made

theorem Valid.declarative {evaluator : Evaluator} (valid : evaluator.Valid) :
    evaluator.Declarative := by
  cases valid with
  | rules validated => exact .rules _
  | constant made =>
      obtain ⟨evaluation, rfl, -⟩ := of_ofConstant made
      exact .fixed evaluation

theorem Valid.citations {evaluator : Evaluator} (valid : evaluator.Valid)
    (context : Context) :
    (evaluator.account context).matched.map RuleTrace.citation =
      (evaluator.opinion context).toList.filterMap Evaluation.citation? := by
  cases valid with
  | rules validated =>
      rw [account_rules]
      exact RuleEvaluator.citations_of_admissible validated.admissible context []
  | constant made =>
      obtain ⟨evaluation, rfl, hnone⟩ := of_ofConstant made
      have hcitation : evaluation.citation? = none := by rw [Evaluation.citation?, hnone]; rfl
      have hopinion : (fixed evaluation).opinion context = some evaluation := rfl
      rw [hopinion, Option.toList_some, List.filterMap_cons_none hcitation]
      rfl

end Evaluator

namespace Agent

variable {σ : Type}

theorem citations_eq {evaluators : List Evaluator}
    (valid : ∀ evaluator ∈ evaluators, evaluator.Valid) (context : Context) :
    (RuleTraces.matched (evaluators.flatMap (Evaluator.account context))).map
        RuleTrace.citation =
      (evaluators.filterMap (Evaluator.opinion context)).filterMap Evaluation.citation? := by
  induction evaluators with
  | nil => rfl
  | cons evaluator rest ih =>
      obtain ⟨hfirst, hrest⟩ := List.forall_mem_cons.mp valid
      have hevaluator := hfirst.citations context
      rw [RuleTraces.matched] at hevaluator
      rw [RuleTraces.matched] at ih ⊢
      rw [List.flatMap_cons, List.filter_append, List.map_append, hevaluator, ih hrest]
      cases hopinion : evaluator.opinion context with
      | none => rw [List.filterMap_cons_none hopinion]; rfl
      | some evaluation =>
          rw [List.filterMap_cons_some hopinion, ← List.filterMap_append]
          rfl

/-- A decision with traces is made for every context, and its marked traces and its evaluations cite
the same rules, in the same order and equally often. -/
theorem decideTraced_attributes
    (agent : Agent σ) (now : Instant) (context : Context) (feedback : Option Json) (state : σ)
    (valid : ∀ evaluator ∈ agent.evaluators, evaluator.Valid) :
    ∃ decision traces,
      (agent.decideTraced now context feedback state).1 = .ok (decision, traces) ∧
        traces.matched.map RuleTrace.citation =
          decision.evaluations.filterMap Evaluation.citation? := by
  have declarative : agent.Declarative := fun evaluator hmem => (valid evaluator hmem).declarative
  refine ⟨agent.verdict context, agent.account context, ?_, ?_⟩
  · rw [decideTraced, decideWith_eq declarative]
    rfl
  · rw [verdict, Decision.evaluations_score]
    exact citations_eq valid context

def sample : Agent (List AuditRecord) :=
  { evaluators :=
      [.fixed ⟨"approve", 0.25, none, "baseline", none⟩, .rules RuleEvaluator.sample]
    strategy := .maxWeight
    sink := some (Sink.failing .queueFull)
    tracing := false }

theorem decideTraced_attributes_sample :
    (∀ evaluator ∈ sample.evaluators, evaluator.Valid) ∧
      ∃ decision traces,
        (sample.decideTraced ⟨0, 0⟩ .empty none []).1 = .ok (decision, traces) ∧
          decision.evaluations.length = 2 ∧ traces.length = 3 ∧
          decision.evaluations.filterMap Evaluation.citation? =
            [⟨"rest", "review", 0.5, some "no other rule"⟩] ∧
          traces.matched.map RuleTrace.citation =
            [⟨"rest", "review", 0.5, some "no other rule"⟩] := by
  have hbaseline : Evaluator.Valid (.fixed ⟨"approve", 0.25, none, "baseline", none⟩) :=
    .constant (rfl : Evaluator.ofConstant "baseline" "approve" 0.25 none = .ok _)
  have hrules : Evaluator.Valid (.rules RuleEvaluator.sample) :=
    .rules ⟨.builtin, RuleEvaluator.sampleRules.toJson, rfl⟩
  have valid : ∀ evaluator ∈ sample.evaluators, evaluator.Valid :=
    List.forall_mem_cons.mpr ⟨hbaseline, List.forall_mem_cons.mpr ⟨hrules, List.forall_mem_nil _⟩⟩
  obtain ⟨decision, traces, hresult, hcitations⟩ :=
    decideTraced_attributes sample ⟨0, 0⟩ .empty none [] valid
  obtain ⟨rfl, rfl⟩ : sample.verdict .empty = decision ∧ sample.account .empty = traces := by
    rw [decideTraced, decideWith_eq fun evaluator hmem => (valid evaluator hmem).declarative,
      Except.ok.injEq, Prod.mk.injEq] at hresult
    exact hresult
  refine ⟨valid, _, _, hresult, rfl, rfl, rfl, ?_⟩
  rw [hcitations]
  rfl

end Agent
end Verdict
