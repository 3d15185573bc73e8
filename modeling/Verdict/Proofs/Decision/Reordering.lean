import Verdict.Proofs.Decision.Consensus

/-!
# The order of the votes

Sums and counts are the same in any order of the votes, and so is the greatest of them; what the
order decides is which of the greatest entries is the first (`Strategy.exists_reordering_of_tied`).
-/

namespace Verdict.Strategy

def Heaviest (votes : List (Vote ℚ)) (decision : String) : Prop :=
  decision ∈ votes.map Vote.decision ∧
    ∀ other ∈ votes.map Vote.decision, support votes other ≤ support votes decision

/-- Two decisions share the greatest entry that the strategy looks for.  A consensus has no ties,
because it does not choose without a strict majority. -/
def Tied (votes : List (Vote ℚ)) : Strategy ℚ → Prop
  | weightedAverage | threshold _ _ =>
    ∃ decision other, decision ≠ other ∧ Heaviest votes decision ∧ Heaviest votes other
  | maxWeight =>
    ∃ vote ∈ votes, ∃ other ∈ votes, vote.decision ≠ other.decision ∧
      vote.weight = other.weight ∧ ∀ any ∈ votes, any.weight ≤ vote.weight
  | consensus => False

theorem Leads.isHeaviest {votes : List (Vote ℚ)} {leader : String} (leads : Leads votes leader) :
    Heaviest votes leader :=
  ⟨leads.named, leads.heaviest⟩

theorem Heaviest.support_eq {votes : List (Vote ℚ)} {decision other : String}
    (hdecision : Heaviest votes decision) (hother : Heaviest votes other) :
    support votes decision = support votes other :=
  le_antisymm (hother.2 decision hdecision.1) (hdecision.2 other hother.1)

section Reordered

variable {votes others : List (Vote ℚ)} (reordered : votes.Perm others)

include reordered

theorem UnitWeights.of_perm (unit : UnitWeights votes) : UnitWeights others := by
  intro vote hvote
  exact unit vote (reordered.mem_iff.mpr hvote)

theorem support_of_perm (decision : String) : support others decision = support votes decision :=
  ((reordered.filter _).map Vote.weight).sum_eq.symm

theorem totalWeight_of_perm : totalWeight others = totalWeight votes :=
  (reordered.map Vote.weight).sum_eq.symm

theorem supportShare_of_perm (unit : UnitWeights votes) (decision : String) :
    supportShare others decision = supportShare votes decision := by
  rw [← share_eq_supportShare (unit.of_perm reordered), ← share_eq_supportShare unit,
    support_of_perm reordered, totalWeight_of_perm reordered]

theorem Heaviest.of_perm {decision : String} (heaviest : Heaviest votes decision) :
    Heaviest others decision := by
  have hnames := reordered.map Vote.decision
  refine ⟨hnames.mem_iff.mp heaviest.1, ?_⟩
  intro other hother
  rw [support_of_perm reordered, support_of_perm reordered]
  exact heaviest.2 other (hnames.mem_iff.mpr hother)

theorem Leads.supportShare_eq {leader other : String} (unit : UnitWeights votes)
    (hleader : Leads votes leader) (hother : Leads others other) :
    supportShare others other = supportShare votes leader := by
  have hheaviest : Heaviest votes other := hother.isHeaviest.of_perm reordered.symm
  rw [supportShare_of_perm reordered unit, supportShare, supportShare,
    hheaviest.support_eq hleader.isHeaviest]

theorem Leads.eq_of_not_tied {leader other : String}
    (untied : ¬ ∃ decision other, decision ≠ other ∧ Heaviest votes decision ∧ Heaviest votes other)
    (hleader : Leads votes leader) (hother : Leads others other) : other = leader := by
  by_contra hne
  exact untied ⟨other, leader, hne, hother.isHeaviest.of_perm reordered.symm, hleader.isHeaviest⟩

theorem heaviestVote_weight_eq {vote other : Vote ℚ}
    (hvote : Tally.first Vote.weight votes = some vote)
    (hother : Tally.first Vote.weight others = some other) : other.weight = vote.weight := by
  apply le_antisymm
  · exact Tally.le_of_first hvote other (reordered.mem_iff.mpr (Tally.mem_of_first hother))
  · exact Tally.le_of_first hother vote (reordered.mem_iff.mp (Tally.mem_of_first hvote))

theorem heaviestVote_decision_eq {vote other : Vote ℚ} (untied : ¬ Tied votes maxWeight)
    (hvote : Tally.first Vote.weight votes = some vote)
    (hother : Tally.first Vote.weight others = some other) : other.decision = vote.decision := by
  by_contra hne
  exact untied ⟨vote, Tally.mem_of_first hvote, other,
    reordered.mem_iff.mpr (Tally.mem_of_first hother), Ne.symm hne,
    (heaviestVote_weight_eq reordered hvote hother).symm, Tally.le_of_first hvote⟩

end Reordered

/-- The same votes in another order are answered with the same confidence, and with the same
decision unless two decisions are tied. -/
theorem ruling_of_reordered (strategy : Strategy ℚ) (votes others : List (Vote ℚ))
    (unit : UnitWeights votes) (reordered : votes.Perm others) :
    (strategy.ruling others).confidence = (strategy.ruling votes).confidence ∧
      (¬ Tied votes strategy →
        (strategy.ruling others).decision = (strategy.ruling votes).decision) := by
  by_cases occupied : votes = []
  · subst occupied
    rw [reordered.nil_eq]
    exact ⟨rfl, fun _ => rfl⟩
  have hoccupied : others ≠ [] := by
    rintro rfl
    exact occupied reordered.eq_nil
  have hunit : UnitWeights others := unit.of_perm reordered
  obtain ⟨leader, hleader⟩ := exists_leads occupied
  obtain ⟨other, hother⟩ := exists_leads hoccupied
  have hshare := hleader.supportShare_eq reordered unit hother
  cases strategy with
  | weightedAverage =>
      rw [weightedAverage_ruling unit hleader, weightedAverage_ruling hunit hother]
      exact ⟨hshare, fun untied => hleader.eq_of_not_tied reordered untied hother⟩
  | maxWeight =>
      obtain ⟨vote, hvote⟩ := Tally.exists_first Vote.weight occupied
      obtain ⟨heaviest, hheaviest⟩ := Tally.exists_first Vote.weight hoccupied
      rw [maxWeight_ruling unit hvote, maxWeight_ruling hunit hheaviest]
      exact ⟨heaviestVote_weight_eq reordered hvote hheaviest,
        fun untied => heaviestVote_decision_eq reordered untied hvote hheaviest⟩
  | consensus =>
      have houtcome : consensus.outcome others = consensus.outcome votes :=
        byMajority_congr (reordered.map Vote.decision)
      rw [ruling, ruling, houtcome]
      exact ⟨rfl, fun _ => rfl⟩
  | threshold cutoff fallback =>
      rw [threshold_ruling unit hleader, threshold_ruling hunit hother]
      refine ⟨hshare, ?_⟩
      intro untied
      obtain rfl := hleader.eq_of_not_tied reordered untied hother
      simp only [hshare]

theorem heaviest_lightMajority {decision : String} (heaviest : Heaviest lightMajority decision) :
    decision = "review" := by
  have hreview : support lightMajority "review" = 1 + (1 + 0) := rfl
  have happrove : support lightMajority "approve" = 0 + (1 / 8 + (1 / 8 + 0)) := rfl
  have hmost := heaviest.2 "review" List.mem_cons_self
  have hnamed : decision ∈ ["review", "approve", "review", "approve", "approve"] := heaviest.1
  by_contra hne
  obtain rfl : decision = "approve" := by simpa [hne] using hnamed
  rw [hreview, happrove] at hmost
  norm_num at hmost

theorem ruling_of_reordered_lightMajority :
    UnitWeights lightMajority ∧ lightMajority.Perm lightMajority.reverse ∧
      ¬ Tied lightMajority weightedAverage ∧
      weightedAverage.ruling lightMajority.reverse = weightedAverage.ruling lightMajority := by
  have unit := unitWeights_lightMajority
  have reordered := (List.reverse_perm lightMajority).symm
  have untied : ¬ Tied lightMajority weightedAverage := by
    rintro ⟨decision, other, hne, hdecision, hother⟩
    exact hne ((heaviest_lightMajority hdecision).trans (heaviest_lightMajority hother).symm)
  obtain ⟨hconfidence, hdecision⟩ :=
    ruling_of_reordered weightedAverage lightMajority lightMajority.reverse unit reordered
  exact ⟨unit, reordered, untied, Ruling.ext (hdecision untied) hconfidence⟩

/-! ## Ties -/

theorem leads_of_head {vote : Vote ℚ} {rest : List (Vote ℚ)}
    (heaviest : Heaviest (vote :: rest) vote.decision) : Leads (vote :: rest) vote.decision := by
  refine ⟨heaviest.1, heaviest.2, ?_⟩
  intro other _ _
  have hfirst : firstVote (vote :: rest) vote.decision = 0 := List.idxOf_cons_self
  rw [hfirst]
  exact Nat.zero_le _

theorem first_of_head {vote : Vote ℚ} {rest : List (Vote ℚ)}
    (heaviest : ∀ any ∈ rest, any.weight ≤ vote.weight) :
    Tally.first Vote.weight (vote :: rest) = some vote := by
  induction rest using List.reverseRecOn with
  | nil => rfl
  | append_singleton earlier last ih =>
      have hearlier := ih fun any hany => heaviest any (List.mem_append_left _ hany)
      have hlast := heaviest last (List.mem_append_right _ List.mem_cons_self)
      rw [← List.cons_append, Tally.first_append_singleton, hearlier]
      exact if_pos hlast

theorem exists_perm_cons {vote : Vote ℚ} {votes : List (Vote ℚ)} (member : vote ∈ votes) :
    ∃ rest, votes.Perm (vote :: rest) := by
  obtain ⟨before, after, rfl⟩ := List.append_of_mem member
  exact ⟨before ++ after, List.perm_middle⟩

theorem exists_reordering_weightedAverage {votes : List (Vote ℚ)} (unit : UnitWeights votes)
    {decision : String} (heaviest : Heaviest votes decision) :
    ∃ others, votes.Perm others ∧ (weightedAverage.ruling others).decision = decision := by
  obtain ⟨vote, hvote, rfl⟩ := List.mem_map.mp heaviest.1
  obtain ⟨rest, reordered⟩ := exists_perm_cons hvote
  have hleads := leads_of_head (heaviest.of_perm reordered)
  refine ⟨vote :: rest, reordered, ?_⟩
  rw [weightedAverage_ruling (unit.of_perm reordered) hleads]

theorem exists_reordering_maxWeight {votes : List (Vote ℚ)} (unit : UnitWeights votes)
    {vote : Vote ℚ} (member : vote ∈ votes) (heaviest : ∀ any ∈ votes, any.weight ≤ vote.weight) :
    ∃ others, votes.Perm others ∧ (maxWeight.ruling others).decision = vote.decision := by
  obtain ⟨rest, reordered⟩ := exists_perm_cons member
  have hfirst := first_of_head fun any hany =>
    heaviest any (reordered.mem_iff.mpr (List.mem_cons_of_mem vote hany))
  refine ⟨vote :: rest, reordered, ?_⟩
  rw [maxWeight_ruling (unit.of_perm reordered) hfirst]

/-- Where two decisions are tied, each of them is the answer to some order of the votes. -/
theorem exists_reordering_of_tied {strategy : Strategy ℚ} {votes : List (Vote ℚ)}
    (unit : UnitWeights votes) (direct : strategy.fallback? = none) (tied : Tied votes strategy) :
    ∃ others, votes.Perm others ∧
      (strategy.ruling others).decision ≠ (strategy.ruling votes).decision := by
  have hother : ∀ {decision other : String}, decision ≠ other →
      (∃ others, votes.Perm others ∧ (strategy.ruling others).decision = decision) →
      (∃ others, votes.Perm others ∧ (strategy.ruling others).decision = other) →
      ∃ others, votes.Perm others ∧
        (strategy.ruling others).decision ≠ (strategy.ruling votes).decision := by
    rintro decision other hne ⟨first, hfirst, rfl⟩ ⟨second, hsecond, rfl⟩
    by_cases hsame : (strategy.ruling first).decision = (strategy.ruling votes).decision
    · refine ⟨second, hsecond, ?_⟩
      rw [← hsame]
      exact hne.symm
    · exact ⟨first, hfirst, hsame⟩
  cases strategy with
  | weightedAverage =>
      obtain ⟨decision, other, hne, hdecision, hheaviest⟩ := tied
      exact hother hne (exists_reordering_weightedAverage unit hdecision)
        (exists_reordering_weightedAverage unit hheaviest)
  | maxWeight =>
      obtain ⟨vote, hvote, other, hmember, hne, hweight, hmost⟩ := tied
      have hothers : ∀ any ∈ votes, any.weight ≤ other.weight := by
        rw [← hweight]
        exact hmost
      exact hother hne (exists_reordering_maxWeight unit hvote hmost)
        (exists_reordering_maxWeight unit hmember hothers)
  | consensus => exact tied.elim
  | threshold cutoff fallback => cases direct

end Verdict.Strategy
