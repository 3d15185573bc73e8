import Verdict.Agent.Basic
import Verdict.Proofs.Evaluator.Tracing

/-!
# What an agent gathers

An evaluator that follows rules or always proposes the same does not break down, and what it
proposes does not depend on the evaluators before it.  So an agent gathers what each of them
proposes on its own (`Agent.run_eq`).
-/

namespace Verdict

namespace Evaluator

def opinion (context : Context) (evaluator : Evaluator) : Option Evaluation :=
  match evaluator.evaluate context with
  | .ok opinion => opinion
  | .error _ => none

def account (context : Context) (evaluator : Evaluator) : RuleTraces :=
  match evaluator.evaluateTraced context [] with
  | .ok (_, traces) => traces
  | .error _ => []

/-- The evaluator follows rules or always proposes the same. -/
inductive Declarative : Evaluator → Prop where
  | rules (evaluator : RuleEvaluator) : Declarative (.rules evaluator)
  | fixed (evaluation : Evaluation) : Declarative (.fixed evaluation)

theorem evaluate_eq {evaluator : Evaluator} (declarative : evaluator.Declarative)
    (context : Context) : evaluator.evaluate context = .ok (evaluator.opinion context) := by
  cases declarative with
  | rules evaluator => rfl
  | fixed evaluation => rfl

theorem account_rules (evaluator : RuleEvaluator) (context : Context) :
    (rules evaluator).account context =
      RuleEvaluator.trials evaluator.interpreter context evaluator.ruleSet.rules [] := by
  rw [account, evaluateTraced, RuleEvaluator.evaluateTraced_eq]
  exact List.nil_append _

/-- A traced evaluator proposes what it proposes without traces, and it leaves the traces given as
they are. -/
theorem evaluateTraced_eq {evaluator : Evaluator} (declarative : evaluator.Declarative)
    (context : Context) (traces : RuleTraces) :
    evaluator.evaluateTraced context traces =
      .ok (evaluator.opinion context, traces ++ evaluator.account context) := by
  cases declarative with
  | rules evaluator =>
      rw [account_rules, evaluateTraced, RuleEvaluator.evaluateTraced_eq]
      rfl
  | fixed evaluation =>
      rw [account, evaluateTraced, evaluateTraced, List.append_nil]
      rfl

end Evaluator

namespace Agent

variable {σ : Type}

/-- The decision for a context: what the strategy makes of all that the evaluators propose on their
own. -/
def verdict (agent : Agent σ) (context : Context) : Decision :=
  Decision.score agent.strategy (agent.evaluators.filterMap (Evaluator.opinion context))

def account (agent : Agent σ) (context : Context) : RuleTraces :=
  agent.evaluators.flatMap (Evaluator.account context)

def Declarative (agent : Agent σ) : Prop :=
  ∀ evaluator ∈ agent.evaluators, evaluator.Declarative

theorem consult_eq {evaluator : Evaluator} (declarative : evaluator.Declarative)
    (tracing : Bool) (context : Context) (traces : RuleTraces) :
    consult tracing context traces evaluator =
      .ok (evaluator.opinion context,
        traces ++ if tracing then evaluator.account context else []) := by
  cases tracing with
  | true => exact Evaluator.evaluateTraced_eq declarative context traces
  | false =>
      rw [consult, if_neg Bool.false_ne_true, Evaluator.evaluate_eq declarative,
        if_neg Bool.false_ne_true, List.append_nil]
      rfl

theorem consultAll_eq {evaluators : List Evaluator}
    (declarative : ∀ evaluator ∈ evaluators, evaluator.Declarative)
    (tracing : Bool) (context : Context) (traces : RuleTraces) :
    consultAll tracing context evaluators traces =
      .ok (evaluators.filterMap (Evaluator.opinion context),
        traces ++ if tracing then evaluators.flatMap (Evaluator.account context) else []) := by
  induction evaluators generalizing traces with
  | nil => cases tracing <;> simp [consultAll]
  | cons evaluator rest ih =>
      obtain ⟨hfirst, hrest⟩ := List.forall_mem_cons.mp declarative
      rw [consultAll, consult_eq hfirst]
      simp only [bind, Except.bind, ih hrest, pure, Except.pure, List.filterMap_cons,
        List.flatMap_cons, List.append_assoc]
      cases tracing <;> cases evaluator.opinion context <;> rfl

/-- An agent decides by what its evaluators propose on their own, with and without traces. -/
theorem run_eq {agent : Agent σ} (declarative : agent.Declarative) (tracing : Bool)
    (context : Context) :
    agent.run tracing context =
      .ok (agent.verdict context, if tracing then agent.account context else []) := by
  rw [run, consultAll_eq declarative, List.nil_append]
  rfl

theorem decideWith_eq {agent : Agent σ} (declarative : agent.Declarative) (tracing : Bool)
    (now : Instant) (context : Context) (feedback : Option Json) (state : σ) :
    agent.decideWith tracing now context feedback state =
      (.ok (agent.verdict context, if tracing then agent.account context else []),
        agent.audit ⟨agent.verdict context, if tracing then agent.account context else [],
          feedback, now⟩ state) := by
  rw [decideWith, run_eq declarative]

end Agent
end Verdict
