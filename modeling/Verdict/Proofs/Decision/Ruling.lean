import Verdict.Proofs.Decision.WeightedAverage

/-!
# Rulings

A ruling is what is answered to votes: a decision, and the confidence in it once it has been brought
into the range from zero to one.  Over exact weights from zero to one every confidence is in range
from the start (`Strategy.confidence_unit`).
-/

namespace Verdict

@[ext]
structure Ruling (α : Type) where
  decision : String
  confidence : α

def Strategy.ruling {α : Type} [Amount α] (strategy : Strategy α) (votes : List (Vote α)) :
    Ruling α :=
  match strategy.outcome votes with
  | none => ⟨Decision.none.decision, Amount.ofCount 0⟩
  | some outcome => ⟨outcome.decision, clamp outcome.confidence⟩

/-- What is scored is the ruling over floats. -/
theorem Decision.ruling_score (strategy : Strategy Float) (evaluations : List Evaluation) :
    strategy.ruling (evaluations.map Evaluation.vote) =
      ⟨(score strategy evaluations).decision, (score strategy evaluations).confidence⟩ := by
  cases hfound : strategy.outcome (evaluations.map Evaluation.vote) with
  | none =>
      simp only [Strategy.ruling, score, hfound]
      rfl
  | some outcome => simp only [Strategy.ruling, score, hfound]

namespace Strategy

variable {strategy : Strategy ℚ} {votes : List (Vote ℚ)} {outcome : Outcome ℚ}

theorem ruling_nil (strategy : Strategy ℚ) : strategy.ruling [] = ⟨Decision.none.decision, 0⟩ := by
  have hnone : strategy.outcome [] = none := outcome_eq_none_iff.mpr rfl
  rw [ruling, hnone, ofCount_eq, Nat.cast_zero]

def agreement (votes : List (Vote ℚ)) (decision : String) : ℚ :=
  (votes.map Vote.decision).count decision / votes.length

theorem agreement_unit (votes : List (Vote ℚ)) (decision : String) :
    0 ≤ agreement votes decision ∧ agreement votes decision ≤ 1 := by
  constructor
  · exact div_nonneg (Nat.cast_nonneg _) (Nat.cast_nonneg _)
  · exact div_le_one_of_le₀ (Nat.cast_le.mpr (count_le_length votes decision)) (Nat.cast_nonneg _)

theorem confidence_unit (unit : UnitWeights votes) (found : strategy.outcome votes = some outcome) :
    0 ≤ outcome.confidence ∧ outcome.confidence ≤ 1 := by
  have hshare : ∀ {outcome : Outcome ℚ}, byWeight votes = some outcome →
      0 ≤ outcome.confidence ∧ outcome.confidence ≤ 1 := by
    intro outcome hfound
    rw [(leads_of_byWeight hfound).2, share_eq_supportShare unit]
    exact supportShare_unit unit outcome.decision
  cases strategy with
  | weightedAverage => exact hshare found
  | maxWeight =>
      obtain ⟨vote, hfirst, rfl⟩ := Option.map_eq_some_iff.mp found
      exact unit vote (Tally.mem_of_first hfirst)
  | consensus =>
      rcases byMajority_cases found with ⟨name, -, rfl⟩ | ⟨-, rfl⟩
      · exact agreement_unit votes name
      · norm_num [dividedOutcome, ofCount_eq]
  | threshold cutoff fallback =>
      obtain ⟨heaviest, hheaviest, rfl⟩ := Option.map_eq_some_iff.mp found
      have hunit := hshare hheaviest
      split
      · exact hunit
      · exact hunit

theorem ruling_eq (found : strategy.outcome votes = some outcome)
    (inRange : 0 ≤ outcome.confidence ∧ outcome.confidence ≤ 1) :
    strategy.ruling votes = ⟨outcome.decision, outcome.confidence⟩ := by
  rw [ruling, found]
  simp only [clamp_of_unit inRange.1 inRange.2]

/-! ## The leader -/

theorem Leads.unique {leader other : String} (hleader : Leads votes leader)
    (hother : Leads votes other) : leader = other := by
  have hsupport : support votes leader = support votes other :=
    le_antisymm (hother.heaviest leader hleader.named) (hleader.heaviest other hother.named)
  have hfirst : firstVote votes leader = firstVote votes other :=
    le_antisymm (hleader.earliest other hother.named hsupport.symm)
      (hother.earliest leader hleader.named hsupport)
  exact (List.idxOf_inj hleader.named).mp hfirst

theorem exists_leads (occupied : votes ≠ []) : ∃ leader, Leads votes leader := by
  obtain ⟨outcome, hfound⟩ := exists_outcome weightedAverage occupied
  exact ⟨outcome.decision, (leads_of_byWeight hfound).1⟩

theorem exists_byWeight_of_leads {leader : String} (unit : UnitWeights votes)
    (leads : Leads votes leader) :
    ∃ outcome, byWeight votes = some outcome ∧ outcome.decision = leader ∧
      outcome.confidence = supportShare votes leader := by
  have occupied : votes ≠ [] := List.ne_nil_of_length_pos (length_pos_of_named leads.named)
  obtain ⟨outcome, hfound⟩ := exists_outcome weightedAverage occupied
  obtain ⟨hleads, hconfidence⟩ := leads_of_byWeight hfound
  rw [share_eq_supportShare unit] at hconfidence
  obtain rfl := hleads.unique leads
  exact ⟨outcome, hfound, rfl, hconfidence⟩

theorem weightedAverage_ruling {leader : String} (unit : UnitWeights votes)
    (leads : Leads votes leader) :
    weightedAverage.ruling votes = ⟨leader, supportShare votes leader⟩ := by
  obtain ⟨outcome, hfound, rfl, hconfidence⟩ := exists_byWeight_of_leads unit leads
  have haverage : weightedAverage.outcome votes = some outcome := hfound
  rw [ruling_eq haverage (confidence_unit unit haverage), hconfidence]

theorem threshold_ruling {leader : String} (unit : UnitWeights votes)
    (leads : Leads votes leader) (cutoff : ℚ) (fallback : String) :
    (threshold cutoff fallback).ruling votes =
      ⟨if cutoff < supportShare votes leader then leader else fallback,
        supportShare votes leader⟩ := by
  obtain ⟨outcome, hfound, rfl, hconfidence⟩ := exists_byWeight_of_leads unit leads
  have hthreshold : (threshold cutoff fallback).outcome votes = (some outcome).map _ :=
    congrArg (Option.map _) hfound
  rw [Option.map_some] at hthreshold
  rw [ruling_eq hthreshold (confidence_unit unit hthreshold), ← hconfidence]
  by_cases hexceeded : cutoff < outcome.confidence
  · simp only [if_pos hexceeded]
  · simp only [if_neg hexceeded]

/-! ## The heaviest vote and the majority -/

theorem maxWeight_ruling {vote : Vote ℚ} (unit : UnitWeights votes)
    (found : Tally.first Vote.weight votes = some vote) :
    maxWeight.ruling votes = ⟨vote.decision, vote.weight⟩ := by
  have hfound : maxWeight.outcome votes = some _ := congrArg (Option.map _) found
  exact ruling_eq hfound (unit vote (Tally.mem_of_first found))

theorem consensus_ruling_of_majority {name : String}
    (agreed : Majority (votes.map Vote.decision) name) :
    consensus.ruling votes = ⟨name, agreement votes name⟩ := by
  have hfound : consensus.outcome votes = _ := byMajority_of_majority agreed
  exact ruling_eq hfound (agreement_unit votes name)

theorem consensus_ruling_of_divided (occupied : votes ≠ [])
    (divided : ∀ name, ¬ Majority (votes.map Vote.decision) name) :
    consensus.ruling votes = ⟨inconclusive, 0⟩ := by
  have hfound : consensus.outcome votes = _ := byMajority_of_no_majority occupied divided
  exact ruling_eq hfound ⟨le_rfl, zero_le_one⟩

end Strategy
end Verdict
