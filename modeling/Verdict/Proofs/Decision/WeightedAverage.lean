import Verdict.Proofs.Decision.Leading

/-!
# The weighted average

The share of the leader in all weights is a number from zero to one, so nothing is changed when the
confidence is brought into that range.
-/

namespace Verdict.Strategy

/-- The weights of the votes lie between zero and one. -/
def UnitWeights (votes : List (Vote ℚ)) : Prop :=
  ∀ vote ∈ votes, 0 ≤ vote.weight ∧ vote.weight ≤ 1

/-- The part of all weights that supports a decision, nothing if nothing has a weight. -/
def supportShare (votes : List (Vote ℚ)) (decision : String) : ℚ :=
  if ∀ vote ∈ votes, vote.weight = 0 then 0 else support votes decision / totalWeight votes

theorem ofCount_eq (count : Nat) : (Amount.ofCount count : ℚ) = count := rfl

theorem clamp_of_unit {value : ℚ} (hlow : 0 ≤ value) (hhigh : value ≤ 1) : clamp value = value := by
  have hnotLess : ¬ value < Amount.ofCount 0 := by
    rw [ofCount_eq, Nat.cast_zero]
    exact not_lt.mpr hlow
  have hnotMore : ¬ Amount.ofCount 1 < value := by
    rw [ofCount_eq, Nat.cast_one]
    exact not_lt.mpr hhigh
  rw [clamp, if_neg hnotLess, if_neg hnotMore]

section UnitWeights

variable {votes : List (Vote ℚ)} (unit : UnitWeights votes)

include unit

theorem weights_nonneg : ∀ weight ∈ votes.map Vote.weight, 0 ≤ weight := by
  intro weight hweight
  obtain ⟨vote, hvote, rfl⟩ := List.mem_map.mp hweight
  exact (unit vote hvote).1

theorem support_nonneg (decision : String) : 0 ≤ support votes decision := by
  apply List.sum_nonneg
  intro weight hweight
  obtain ⟨vote, hvote, rfl⟩ := List.mem_map.mp hweight
  exact (unit vote (List.mem_of_mem_filter hvote)).1

theorem support_le_totalWeight (decision : String) :
    support votes decision ≤ totalWeight votes := by
  have hsublist := (List.filter_sublist (l := votes)
    (p := fun vote => vote.decision = decision)).map Vote.weight
  exact hsublist.sum_le_sum (weights_nonneg unit)

theorem totalWeight_eq_zero_iff : totalWeight votes = 0 ↔ ∀ vote ∈ votes, vote.weight = 0 := by
  constructor
  · intro hzero vote hvote
    exact List.all_zero_of_le_zero_le_of_sum_eq_zero (weights_nonneg unit) hzero
      (List.mem_map_of_mem hvote)
  · intro hzero
    apply List.sum_eq_zero
    intro weight hweight
    obtain ⟨vote, hvote, rfl⟩ := List.mem_map.mp hweight
    exact hzero vote hvote

theorem share_eq_supportShare (decision : String) :
    share (support votes decision) (totalWeight votes) = supportShare votes decision := by
  have hnonneg : 0 ≤ totalWeight votes := List.sum_nonneg (weights_nonneg unit)
  rw [share, supportShare, ofCount_eq, Nat.cast_zero]
  by_cases hzero : totalWeight votes = 0
  · rw [if_neg (by rw [hzero]; exact lt_irrefl 0), if_pos ((totalWeight_eq_zero_iff unit).mp hzero)]
  · have hpos : 0 < totalWeight votes := lt_of_le_of_ne hnonneg (Ne.symm hzero)
    have hsome : ¬ ∀ vote ∈ votes, vote.weight = 0 := by
      intro hall
      exact hzero ((totalWeight_eq_zero_iff unit).mpr hall)
    rw [if_pos hpos, if_neg hsome]

theorem supportShare_unit (decision : String) :
    0 ≤ supportShare votes decision ∧ supportShare votes decision ≤ 1 := by
  have hnonneg : 0 ≤ totalWeight votes := List.sum_nonneg (weights_nonneg unit)
  unfold supportShare
  split
  · exact ⟨le_rfl, zero_le_one⟩
  · exact ⟨div_nonneg (support_nonneg unit decision) hnonneg,
      div_le_one_of_le₀ (support_le_totalWeight unit decision) hnonneg⟩

end UnitWeights

/-- The weighted average decides for the leader, with its share of all weights as confidence.  A
threshold has the same confidence, and decides for the leader if that exceeds the cutoff and for the
fallback otherwise. -/
theorem weightedAverage_follows_leader
    (votes : List (Vote ℚ)) (occupied : votes ≠ []) (unit : UnitWeights votes) :
    ∃ leader, Leads votes leader ∧
      (∃ outcome, weightedAverage.outcome votes = some outcome ∧
        outcome.decision = leader ∧ outcome.confidence = supportShare votes leader ∧
        clamp outcome.confidence = outcome.confidence) ∧
      ∀ cutoff fallback, ∃ outcome, (threshold cutoff fallback).outcome votes = some outcome ∧
        outcome.decision = (if cutoff < supportShare votes leader then leader else fallback) ∧
        outcome.confidence = supportShare votes leader ∧
        clamp outcome.confidence = outcome.confidence := by
  have hsome : byWeight votes ≠ none := fun hnone => occupied (byWeight_eq_none_iff.mp hnone)
  obtain ⟨outcome, hfound⟩ := Option.ne_none_iff_exists'.mp hsome
  obtain ⟨hleads, hconfidence⟩ := leads_of_byWeight hfound
  rw [share_eq_supportShare unit] at hconfidence
  obtain ⟨hlow, hhigh⟩ := supportShare_unit unit outcome.decision
  have hclamp : clamp outcome.confidence = outcome.confidence := by
    rw [hconfidence]
    exact clamp_of_unit hlow hhigh
  refine ⟨outcome.decision, hleads, ⟨outcome, hfound, rfl, hconfidence, hclamp⟩, ?_⟩
  intro cutoff fallback
  have hthreshold : (threshold cutoff fallback).outcome votes = _ :=
    congrArg (Option.map _) hfound
  by_cases hexceeded : cutoff < outcome.confidence
  · refine ⟨_, hthreshold, ?_⟩
    simp only [if_pos hexceeded]
    rw [← hconfidence, if_pos hexceeded]
    exact ⟨rfl, rfl, hclamp⟩
  · refine ⟨_, hthreshold, ?_⟩
    simp only [if_neg hexceeded]
    rw [← hconfidence, if_neg hexceeded]
    exact ⟨rfl, rfl, hclamp⟩

def tiedVotes : List (Vote ℚ) :=
  [⟨"review", 1 / 4, "rules"⟩, ⟨"approve", 1 / 2, "model"⟩, ⟨"review", 1 / 4, "baseline"⟩]

theorem weightedAverage_follows_leader_tiedVotes :
    tiedVotes ≠ [] ∧ UnitWeights tiedVotes ∧
      (∃ outcome, weightedAverage.outcome tiedVotes = some outcome ∧
        outcome.decision = "review" ∧ outcome.confidence = 1 / 2) ∧
      ∃ outcome, (threshold (1 / 2) "hold").outcome tiedVotes = some outcome ∧
        outcome.decision = "hold" ∧ outcome.confidence = 1 / 2 := by
  have occupied : tiedVotes ≠ [] := List.cons_ne_nil _ _
  have unit : UnitWeights tiedVotes := by
    intro vote hvote
    simp only [tiedVotes, List.mem_cons, List.not_mem_nil, or_false] at hvote
    rcases hvote with rfl | rfl | rfl
    · norm_num
    · norm_num
    · norm_num
  have hreview : support tiedVotes "review" = 1 / 4 + (1 / 4 + 0) := rfl
  have happrove : support tiedVotes "approve" = 1 / 2 + 0 := rfl
  have htotal : totalWeight tiedVotes = 1 / 4 + (1 / 2 + (1 / 4 + 0)) := rfl
  norm_num at hreview happrove htotal
  obtain ⟨leader, hleads, haverage, hthreshold⟩ :=
    weightedAverage_follows_leader tiedVotes occupied unit
  have hleader : leader = "review" := by
    have hnamed : leader ∈ ["review", "approve", "review"] := hleads.named
    simp only [List.mem_cons, List.not_mem_nil, or_false] at hnamed
    rcases hnamed with rfl | rfl | rfl
    · rfl
    · have hfirst := hleads.earliest "review" List.mem_cons_self (hreview.trans happrove.symm)
      exact absurd hfirst (by decide)
    · rfl
  have hshare : supportShare tiedVotes leader = 1 / 2 := by
    have hsome : ¬ ∀ vote ∈ tiedVotes, vote.weight = 0 := by
      rw [← totalWeight_eq_zero_iff unit, htotal]
      exact one_ne_zero
    rw [supportShare, if_neg hsome, hleader, hreview, htotal, div_one]
  obtain ⟨outcome, hfound, hdecision, hconfidence, -⟩ := haverage
  obtain ⟨other, hother, hfallback, hsame, -⟩ := hthreshold (1 / 2) "hold"
  rw [hshare, if_neg (lt_irrefl _)] at hfallback
  exact ⟨occupied, unit, ⟨outcome, hfound, hdecision.trans hleader, hconfidence.trans hshare⟩,
    other, hother, hfallback, hsame.trans hshare⟩

end Verdict.Strategy
