import Verdict.Proofs.Decision.Selection
import Verdict.Proofs.Decimal.ExactValue

/-!
# The heaviest vote

The weights of evaluations are floats from zero to one.  They are totally ordered
(`Tally.totallyOrdered_of_isFinite`), so the strategy that goes by the heaviest vote answers with
the first of the heaviest ones.
-/

namespace Verdict

open UnitInterval ExactValue

/-! ## Floats as weights -/

theorem Tally.totallyOrdered_of_isFinite {weights : List Float}
    (finite : ∀ weight ∈ weights, weight.isFinite = true) : TotallyOrdered weights where
  total := by
    intro a ha b hb
    rw [le_iff (finite a ha) (finite b hb), le_iff (finite b hb) (finite a ha)]
    exact le_total (exact a) (exact b)
  trans := by
    intro a ha b hb c hc hab hbc
    rw [le_iff (finite a ha) (finite b hb)] at hab
    rw [le_iff (finite b hb) (finite c hc)] at hbc
    rw [le_iff (finite a ha) (finite c hc)]
    exact hab.trans hbc

theorem not_lt_of_le_float {x y : Float} (hx : x.isFinite = true) (hy : y.isFinite = true)
    (h : x ≤ y) : ¬ y < x := by
  rw [lt_iff hy hx]
  exact not_lt.mpr ((le_iff hx hy).mp h)

namespace Strategy

theorem clamp_of_unit_float {weight : Float} (hlow : 0 ≤ weight) (hhigh : weight ≤ 1) :
    clamp weight = weight := by
  have hfinite : weight.isFinite = true := isFinite_of_le hlow hhigh
  change (if weight < 0 then 0 else if 1 < weight then 1 else weight) = weight
  rw [if_neg (not_lt_of_le_float rfl hfinite hlow), if_neg (not_lt_of_le_float hfinite rfl hhigh)]

/-! ## The strategy -/

variable {α : Type} [Amount α]

theorem exists_maxWeight_outcome {votes : List (Vote α)} (occupied : votes ≠ [])
    (ordered : Tally.TotallyOrdered (votes.map Vote.weight)) :
    ∃ index vote, Tally.FirstGreatest Vote.weight votes index vote ∧
      maxWeight.outcome votes = some ⟨vote.decision, vote.weight, .heaviestVote vote⟩ := by
  obtain ⟨index, vote, hvote, hfirst⟩ := Tally.exists_firstGreatest occupied ordered
  refine ⟨index, vote, hvote, ?_⟩
  change byHeaviest votes = _
  rw [byHeaviest, hfirst, Option.map_some]

end Strategy

theorem Decision.exists_score_maxWeight {evaluations : List Evaluation}
    (occupied : evaluations ≠ [])
    (unit : ∀ evaluation ∈ evaluations, 0 ≤ evaluation.weight ∧ evaluation.weight ≤ 1) :
    ∃ index evaluation, Tally.FirstGreatest Evaluation.weight evaluations index evaluation ∧
      score .maxWeight evaluations =
        { decision := evaluation.decision
          confidence := evaluation.weight
          explanations :=
            evaluations.map Evaluation.line ++ [(Finding.heaviestVote evaluation.vote).line]
          evaluations := evaluations } := by
  have hordered : Tally.TotallyOrdered ((evaluations.map Evaluation.vote).map Vote.weight) := by
    apply Tally.totallyOrdered_of_isFinite
    intro weight hweight
    rw [List.map_map] at hweight
    obtain ⟨evaluation, hevaluation, rfl⟩ := List.mem_map.mp hweight
    obtain ⟨hlow, hhigh⟩ := unit evaluation hevaluation
    exact isFinite_of_le hlow hhigh
  obtain ⟨index, vote, hvote, houtcome⟩ := Strategy.exists_maxWeight_outcome
    (mt List.map_eq_nil_iff.mp occupied) hordered
  obtain ⟨evaluation, rfl, hevaluation⟩ := hvote.of_map
  obtain ⟨hlow, hhigh⟩ := unit evaluation hevaluation.mem
  refine ⟨index, evaluation, hevaluation, ?_⟩
  simp only [score, houtcome, Evaluation.vote, Strategy.clamp_of_unit_float hlow hhigh]

/-- Wherever the greatest entry is looked for, the first of the greatest ones is taken: of sums, of
votes and of evaluations.  Evaluations are never without a decision, and the totals of any votes
have a greatest entry. -/
theorem Strategy.selection_takes_first_greatest {α γ : Type} [Amount α] [Add γ] [LE γ]
    [DecidableLE γ] :
    (∀ groups : List (String × γ), groups ≠ [] → Tally.TotallyOrdered (groups.map Prod.snd) →
      ∃ index group, Tally.FirstGreatest Prod.snd groups index group ∧
        Tally.first Prod.snd groups = some group) ∧
    (∀ votes : List (Vote α), votes ≠ [] → Tally.TotallyOrdered (votes.map Vote.weight) →
      ∃ index vote, Tally.FirstGreatest Vote.weight votes index vote ∧
        maxWeight.outcome votes = some ⟨vote.decision, vote.weight, .heaviestVote vote⟩) ∧
    (∀ (votes : List (Vote α)) (amount : Vote α → γ), votes ≠ [] →
      Tally.first Prod.snd (Tally.totals (votes.map fun vote => (vote.decision, amount vote))) ≠
        none) ∧
    (∀ evaluations : List Evaluation, evaluations ≠ [] →
      (∀ evaluation ∈ evaluations, 0 ≤ evaluation.weight ∧ evaluation.weight ≤ 1) →
      ∃ index evaluation, Tally.FirstGreatest Evaluation.weight evaluations index evaluation ∧
        Decision.score .maxWeight evaluations =
          { decision := evaluation.decision
            confidence := evaluation.weight
            explanations :=
              evaluations.map Evaluation.line ++ [(Finding.heaviestVote evaluation.vote).line]
            evaluations := evaluations }) := by
  refine ⟨fun _ => Tally.exists_firstGreatest, fun _ => exists_maxWeight_outcome, ?_,
    fun _ => Decision.exists_score_maxWeight⟩
  intro votes amount occupied
  rw [Ne, Tally.first_eq_none_iff, Tally.totals_eq_nil_iff, List.map_eq_nil_iff]
  exact occupied

def tiedEvaluations : List Evaluation :=
  [⟨"wait", 0, none, "queue", none⟩, ⟨"approve", 1, none, "rules", none⟩,
    ⟨"reject", 1, none, "model", none⟩]

theorem firstGreatest_tiedEvaluations :
    Tally.FirstGreatest Evaluation.weight tiedEvaluations 1
      ⟨"approve", 1, none, "rules", none⟩ := by
  refine ⟨rfl, by decide, ?_⟩
  intro rival candidate hrival hgreatest
  cases rival with
  | zero =>
      obtain rfl := Option.some.inj hrival
      have hless : ¬ (1 : Float) ≤ 0 := by decide
      exact absurd (hgreatest _ (List.mem_cons_of_mem _ List.mem_cons_self)) hless
  | succ rival => exact Nat.le_add_left 1 rival

theorem Strategy.selection_takes_first_greatest_tiedEvaluations :
    (∀ evaluation ∈ tiedEvaluations, 0 ≤ evaluation.weight ∧ evaluation.weight ≤ 1) ∧
      (Decision.score .maxWeight tiedEvaluations).decision = "approve" ∧
      (Decision.score .maxWeight tiedEvaluations).confidence = 1 := by
  have unit : ∀ evaluation ∈ tiedEvaluations, 0 ≤ evaluation.weight ∧ evaluation.weight ≤ 1 := by
    decide
  obtain ⟨-, -, -, hscore⟩ := selection_takes_first_greatest (α := Float) (γ := Float)
  obtain ⟨index, evaluation, hfirst, hdecision⟩ := hscore tiedEvaluations (by decide) unit
  obtain ⟨-, rfl⟩ := hfirst.unique firstGreatest_tiedEvaluations
  rw [hdecision]
  exact ⟨unit, rfl, rfl⟩

end Verdict
