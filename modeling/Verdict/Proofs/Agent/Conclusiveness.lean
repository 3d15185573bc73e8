import Verdict.Proofs.Agent.Attribution
import Verdict.Proofs.Decision.Majority

/-!
# When a decision is conclusive

Whether a decision is conclusive is read off its name alone.  A conclusive decision is settled, and
a settled one is conclusive unless its name is reserved (`Agent.decide_conclusive_iff`).  Nothing
keeps a rule, a constant or a fallback from using a reserved name
(`Agent.decide_hides_reservedPolicy`).
-/

namespace Verdict

namespace Decision

/-- The name stands for what no policy has decided. -/
def IsReserved (name : String) : Prop :=
  name = none.decision ∨ name = Strategy.inconclusive

/-- There are evaluations to score and, for a consensus, a decision that more than half of them
name. -/
def Settled (strategy : Strategy Float) (evaluations : List Evaluation) : Prop :=
  evaluations ≠ [] ∧
    (strategy = .consensus →
      ∃ name, evaluations.length < 2 * (evaluations.map Evaluation.decision).count name)

/-- The names that a policy gives to decisions: those of its evaluations and its fallback. -/
def named (strategy : Strategy Float) (evaluations : List Evaluation) : List String :=
  evaluations.map Evaluation.decision ++ strategy.fallback?.toList

theorem isConclusive_iff {decision : Decision} :
    decision.isConclusive = true ↔ ¬ IsReserved decision.decision := by
  simp [isConclusive, IsReserved]

variable {strategy : Strategy Float} {evaluations : List Evaluation}

theorem votes_decision :
    (evaluations.map Evaluation.vote).map Vote.decision = evaluations.map Evaluation.decision := by
  rw [List.map_map]
  rfl

theorem majority_iff {name : String} :
    Strategy.Majority ((evaluations.map Evaluation.vote).map Vote.decision) name ↔
      evaluations.length < 2 * (evaluations.map Evaluation.decision).count name := by
  rw [votes_decision, Strategy.Majority, List.length_map]

theorem exists_outcome (strategy : Strategy Float) (occupied : evaluations ≠ []) :
    ∃ outcome, strategy.outcome (evaluations.map Evaluation.vote) = some outcome ∧
      (score strategy evaluations).decision = outcome.decision := by
  cases hfound : strategy.outcome (evaluations.map Evaluation.vote) with
  | none =>
      rw [Strategy.outcome_eq_none_iff, List.map_eq_nil_iff] at hfound
      exact absurd hfound occupied
  | some outcome =>
      refine ⟨outcome, rfl, ?_⟩
      rw [score, hfound]

theorem decision_score_mem_named (settled : Settled strategy evaluations) :
    (score strategy evaluations).decision ∈ named strategy evaluations := by
  obtain ⟨occupied, agreed⟩ := settled
  obtain ⟨outcome, hfound, hdecision⟩ := exists_outcome strategy occupied
  have hagreed : strategy = .consensus →
      ∃ name, Strategy.Majority ((evaluations.map Evaluation.vote).map Vote.decision) name := by
    intro hconsensus
    obtain ⟨name, hname⟩ := agreed hconsensus
    exact ⟨name, majority_iff.mpr hname⟩
  have hmem := Strategy.decision_mem_named hfound hagreed
  rw [votes_decision] at hmem
  rwa [hdecision]

theorem isReserved_of_not_settled (unsettled : ¬ Settled strategy evaluations) :
    IsReserved (score strategy evaluations).decision := by
  by_cases occupied : evaluations = []
  · have hnone : strategy.outcome (evaluations.map Evaluation.vote) = Option.none := by
      rw [Strategy.outcome_eq_none_iff, List.map_eq_nil_iff]
      exact occupied
    rw [score, hnone]
    exact Or.inl rfl
  · have hconsensus : strategy = .consensus := by
      by_contra hother
      exact unsettled ⟨occupied, fun heq => absurd heq hother⟩
    subst hconsensus
    obtain ⟨outcome, hfound, hdecision⟩ := exists_outcome .consensus occupied
    rcases Strategy.byMajority_cases hfound with ⟨name, hmajority, -⟩ | ⟨-, rfl⟩
    · exact absurd ⟨occupied, fun _ => ⟨name, majority_iff.mp hmajority⟩⟩ unsettled
    · rw [hdecision]
      exact Or.inr rfl

theorem isConclusive_score_iff :
    (score strategy evaluations).isConclusive = true ↔
      Settled strategy evaluations ∧ ¬ IsReserved (score strategy evaluations).decision := by
  rw [isConclusive_iff]
  constructor
  · intro hname
    by_cases settled : Settled strategy evaluations
    · exact ⟨settled, hname⟩
    · exact absurd (isReserved_of_not_settled settled) hname
  · exact fun h => h.2

end Decision

namespace Agent

variable {σ : Type}

theorem make_eq_ok {evaluators : List Evaluator} {strategy : Strategy Float}
    {sink : Option (Sink AuditRecord σ)} {tracing : Bool} {agent : Agent σ}
    (made : make evaluators strategy sink tracing = .ok agent) :
    agent = ⟨evaluators, strategy, sink, tracing⟩ := by
  unfold make at made
  split at made
  · cases made
  · cases hcheck : checkStrategy strategy with
    | error reason =>
        rw [hcheck] at made
        cases made
    | ok accepted =>
        rw [hcheck] at made
        cases made
        rfl

/-- An agent of valid evaluators decides for every context, and a conclusive decision is always
settled.  A settled decision is conclusive unless a proposal or the fallback gave it a reserved
name. -/
theorem decide_conclusive_iff
    (evaluators : List Evaluator) (strategy : Strategy Float)
    (sink : Option (Sink AuditRecord σ)) (tracing : Bool) (agent : Agent σ)
    (now : Instant) (context : Context) (feedback : Option Json) (state : σ)
    (made : make evaluators strategy sink tracing = .ok agent)
    (valid : ∀ evaluator ∈ evaluators, evaluator.Valid) :
    ∃ decision, (agent.decide now context feedback state).1 = .ok decision ∧
      decision.evaluations = evaluators.filterMap (Evaluator.opinion context) ∧
      (decision.isConclusive = true ↔
        Decision.Settled strategy decision.evaluations ∧
          ¬ Decision.IsReserved decision.decision) ∧
      (Decision.Settled strategy decision.evaluations →
        decision.decision ∈ Decision.named strategy decision.evaluations) ∧
      ((∀ name ∈ Decision.named strategy decision.evaluations, ¬ Decision.IsReserved name) →
        (decision.isConclusive = true ↔ Decision.Settled strategy decision.evaluations)) := by
  obtain rfl := make_eq_ok made
  have declarative : Declarative ⟨evaluators, strategy, sink, tracing⟩ :=
    fun evaluator hmem => (valid evaluator hmem).declarative
  set evaluations := evaluators.filterMap (Evaluator.opinion context) with hevaluations
  have hproposed : (Decision.score strategy evaluations).evaluations = evaluations :=
    Decision.evaluations_score strategy evaluations
  refine ⟨Decision.score strategy evaluations, ?_, hproposed, ?_, ?_, ?_⟩
  · rw [decide, decideWith_eq declarative]
    rfl
  · rw [hproposed]
    exact Decision.isConclusive_score_iff
  · rw [hproposed]
    exact Decision.decision_score_mem_named
  · rw [hproposed]
    intro unreserved
    rw [Decision.isConclusive_score_iff]
    constructor
    · exact fun h => h.1
    · intro settled
      exact ⟨settled, unreserved _ (Decision.decision_score_mem_named settled)⟩

def quorum : Agent Unit :=
  { evaluators :=
      [.fixed ⟨"approve", 0.25, none, "baseline", none⟩, .rules RuleEvaluator.sample,
        .fixed ⟨"review", 0.5, none, "desk", none⟩]
    strategy := .consensus
    sink := none
    tracing := false }

theorem valid_quorum : ∀ evaluator ∈ quorum.evaluators, evaluator.Valid := by
  have hbaseline : Evaluator.Valid (.fixed ⟨"approve", 0.25, none, "baseline", none⟩) :=
    .constant (rfl : Evaluator.ofConstant "baseline" "approve" 0.25 none = .ok _)
  have hrules : Evaluator.Valid (.rules RuleEvaluator.sample) :=
    .rules ⟨.builtin, RuleEvaluator.sampleRules.toJson, rfl⟩
  have hdesk : Evaluator.Valid (.fixed ⟨"review", 0.5, none, "desk", none⟩) :=
    .constant (rfl : Evaluator.ofConstant "desk" "review" 0.5 none = .ok _)
  exact List.forall_mem_cons.mpr ⟨hbaseline, List.forall_mem_cons.mpr ⟨hrules,
    List.forall_mem_singleton.mpr hdesk⟩⟩

theorem decide_conclusive_iff_quorum :
    make quorum.evaluators .consensus none false = .ok quorum ∧
      (∀ evaluator ∈ quorum.evaluators, evaluator.Valid) ∧
      ∃ decision, (quorum.decide ⟨0, 0⟩ .empty none ()).1 = .ok decision ∧
        decision.evaluations.map Evaluation.decision = ["approve", "review", "review"] ∧
        decision.isConclusive = true := by
  have made : make quorum.evaluators .consensus none false = .ok quorum := rfl
  obtain ⟨decision, hdecision, hevaluations, -, -, hconclusive⟩ :=
    decide_conclusive_iff quorum.evaluators .consensus none false quorum ⟨0, 0⟩ .empty none ()
      made valid_quorum
  have hnames : decision.evaluations.map Evaluation.decision = ["approve", "review", "review"] := by
    rw [hevaluations]
    rfl
  refine ⟨made, valid_quorum, decision, hdecision, hnames, (hconclusive ?_).mpr ?_⟩
  · rw [Decision.named, hnames]
    simp [Strategy.fallback?, Decision.IsReserved, Decision.none, Strategy.inconclusive]
  · have hlength : decision.evaluations.length = 3 := by
      rw [← List.length_map (f := Evaluation.decision), hnames]
      rfl
    refine ⟨List.ne_nil_of_length_pos (by omega), fun _ => ⟨"review", ?_⟩⟩
    rw [hlength, hnames]
    decide

def reservedPolicy : Agent Unit :=
  { evaluators := [.fixed ⟨"no_decision", 1, none, "baseline", none⟩]
    strategy := .weightedAverage
    sink := none
    tracing := false }

theorem decide_hides_reservedPolicy :
    (∀ evaluator ∈ reservedPolicy.evaluators, evaluator.Valid) ∧
      make reservedPolicy.evaluators .weightedAverage none false = .ok reservedPolicy ∧
      ∃ decision, (reservedPolicy.decide ⟨0, 0⟩ .empty none ()).1 = .ok decision ∧
        Decision.Settled reservedPolicy.strategy decision.evaluations ∧
        decision.isConclusive = false := by
  have valid : Evaluator.Valid (.fixed ⟨"no_decision", 1, none, "baseline", none⟩) :=
    .constant (rfl : Evaluator.ofConstant "baseline" "no_decision" 1 none = .ok _)
  refine ⟨List.forall_mem_singleton.mpr valid, rfl, _, rfl, ⟨List.cons_ne_nil _ _, ?_⟩, by decide⟩
  intro hconsensus
  cases hconsensus

end Agent
end Verdict
