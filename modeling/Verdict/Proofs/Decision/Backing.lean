import Verdict.Proofs.Decision.Reordering

/-!
# One more vote for the answer

The leader keeps its place with one more vote for it.  Its share grows like every fraction of at
most one whose numerator and denominator grow by the same amount; so does the fraction of the votes
that agree.
-/

namespace Verdict

structure Ruling.Confirms (after before : Ruling ℚ) : Prop where
  decision_eq : after.decision = before.decision
  confidence_le : before.confidence ≤ after.confidence

namespace Strategy

/-- The votes carry the answer of the strategy.  A consensus needs a strict majority for that, and a
threshold a confidence above its cutoff. -/
def Carried (votes : List (Vote ℚ)) : Strategy ℚ → Prop
  | weightedAverage | maxWeight => True
  | consensus => ∃ name, Majority (votes.map Vote.decision) name
  | threshold cutoff fallback => cutoff < ((threshold cutoff fallback).ruling votes).confidence

theorem div_le_add_div_add {part total extra : ℚ} (hpart : part ≤ total) (hextra : 0 ≤ extra)
    (hpos : 0 < total) : part / total ≤ (part + extra) / (total + extra) := by
  rw [div_le_div_iff₀ hpos (add_pos_of_pos_of_nonneg hpos hextra)]
  calc
    part * (total + extra) = part * total + part * extra := mul_add _ _ _
    _ ≤ part * total + total * extra := by gcongr
    _ = (part + extra) * total := by ring

variable {votes : List (Vote ℚ)} {vote : Vote ℚ}

/-! ## The leader -/

theorem totalWeight_append (votes : List (Vote ℚ)) (vote : Vote ℚ) :
    totalWeight (votes ++ [vote]) = totalWeight votes + vote.weight := by
  simp [totalWeight]

theorem support_append_self (votes : List (Vote ℚ)) (vote : Vote ℚ) :
    support (votes ++ [vote]) vote.decision = support votes vote.decision + vote.weight := by
  simp [support]

theorem support_append_of_ne (votes : List (Vote ℚ)) {vote : Vote ℚ} {decision : String}
    (hne : vote.decision ≠ decision) :
    support (votes ++ [vote]) decision = support votes decision := by
  simp [support, hne]

theorem UnitWeights.append (unit : UnitWeights votes)
    (light : 0 ≤ vote.weight ∧ vote.weight ≤ 1) : UnitWeights (votes ++ [vote]) := by
  intro other hother
  rcases List.mem_append.mp hother with hmem | hlast
  · exact unit other hmem
  · rw [List.mem_singleton.mp hlast]
    exact light

theorem Leads.append (leads : Leads votes vote.decision) (nonneg : 0 ≤ vote.weight) :
    Leads (votes ++ [vote]) vote.decision := by
  have hnames : (votes ++ [vote]).map Vote.decision =
      votes.map Vote.decision ++ [vote.decision] := by
    rw [List.map_append, List.map_singleton]
  have hnamed : ∀ other ∈ (votes ++ [vote]).map Vote.decision,
      other ∈ votes.map Vote.decision := by
    intro other hother
    rw [hnames, List.mem_append, List.mem_singleton] at hother
    rcases hother with hmem | rfl
    · exact hmem
    · exact leads.named
  have hfirst : ∀ other ∈ votes.map Vote.decision,
      firstVote (votes ++ [vote]) other = firstVote votes other := by
    intro other hother
    rw [firstVote, hnames, List.idxOf_append_of_mem hother, firstVote]
  refine ⟨?_, ?_, ?_⟩
  · rw [hnames]
    exact List.mem_append_left _ leads.named
  · intro other hother
    by_cases hne : vote.decision = other
    · rw [hne]
    · rw [support_append_self, support_append_of_ne votes hne]
      exact (leads.heaviest other (hnamed other hother)).trans (le_add_of_nonneg_right nonneg)
  · intro other hother heq
    rw [hfirst _ leads.named, hfirst other (hnamed other hother)]
    by_cases hne : vote.decision = other
    · rw [hne]
    · rw [support_append_self, support_append_of_ne votes hne] at heq
      have hle := leads.heaviest other (hnamed other hother)
      apply leads.earliest other (hnamed other hother)
      exact le_antisymm hle ((le_add_of_nonneg_right nonneg).trans heq.ge)

theorem supportShare_append (unit : UnitWeights votes)
    (light : 0 ≤ vote.weight ∧ vote.weight ≤ 1) :
    supportShare votes vote.decision ≤ supportShare (votes ++ [vote]) vote.decision := by
  have hunit : UnitWeights (votes ++ [vote]) := unit.append light
  by_cases hzero : totalWeight votes = 0
  · rw [supportShare, if_pos ((totalWeight_eq_zero_iff unit).mp hzero)]
    exact (supportShare_unit hunit vote.decision).1
  · have hpos : 0 < totalWeight votes :=
      lt_of_le_of_ne (List.sum_nonneg (weights_nonneg unit)) (Ne.symm hzero)
    have hmore : ¬ totalWeight (votes ++ [vote]) = 0 := by
      rw [totalWeight_append]
      exact (add_pos_of_pos_of_nonneg hpos light.1).ne'
    rw [totalWeight_eq_zero_iff unit] at hzero
    rw [totalWeight_eq_zero_iff hunit] at hmore
    rw [supportShare, supportShare, if_neg hzero, if_neg hmore, support_append_self,
      totalWeight_append]
    exact div_le_add_div_add (support_le_totalWeight unit vote.decision) light.1 hpos

theorem weightedAverage_confirms (unit : UnitWeights votes)
    (light : 0 ≤ vote.weight ∧ vote.weight ≤ 1)
    (backed : vote.decision = (weightedAverage.ruling votes).decision) :
    (weightedAverage.ruling (votes ++ [vote])).Confirms (weightedAverage.ruling votes) := by
  have hunit : UnitWeights (votes ++ [vote]) := unit.append light
  by_cases occupied : votes = []
  · subst occupied
    obtain ⟨leader, hleader⟩ := exists_leads (List.cons_ne_nil vote [])
    obtain rfl : leader = vote.decision := List.mem_singleton.mp hleader.named
    rw [List.nil_append] at hunit ⊢
    rw [weightedAverage_ruling hunit hleader, backed, ruling_nil]
    exact ⟨rfl, (supportShare_unit hunit _).1⟩
  · obtain ⟨leader, hleader⟩ := exists_leads occupied
    rw [weightedAverage_ruling unit hleader] at backed ⊢
    obtain rfl : vote.decision = leader := backed
    rw [weightedAverage_ruling hunit (hleader.append light.1)]
    exact ⟨rfl, supportShare_append unit light⟩

/-! ## The threshold -/

theorem threshold_confidence (unit : UnitWeights votes) (cutoff : ℚ) (fallback : String) :
    ((threshold cutoff fallback).ruling votes).confidence =
      (weightedAverage.ruling votes).confidence := by
  by_cases occupied : votes = []
  · rw [occupied, ruling_nil, ruling_nil]
  · obtain ⟨leader, hleader⟩ := exists_leads occupied
    rw [threshold_ruling unit hleader, weightedAverage_ruling unit hleader]

theorem threshold_ruling_of_exceeded {cutoff : ℚ} {fallback : String} (unit : UnitWeights votes)
    (exceeded : cutoff < (weightedAverage.ruling votes).confidence) :
    (threshold cutoff fallback).ruling votes = weightedAverage.ruling votes := by
  by_cases occupied : votes = []
  · rw [occupied, ruling_nil, ruling_nil]
  · obtain ⟨leader, hleader⟩ := exists_leads occupied
    rw [weightedAverage_ruling unit hleader] at exceeded ⊢
    rw [threshold_ruling unit hleader, if_pos exceeded]

/-! ## The heaviest vote and the majority -/

theorem maxWeight_confirms (unit : UnitWeights votes)
    (light : 0 ≤ vote.weight ∧ vote.weight ≤ 1)
    (backed : vote.decision = (maxWeight.ruling votes).decision) :
    (maxWeight.ruling (votes ++ [vote])).Confirms (maxWeight.ruling votes) := by
  have hunit : UnitWeights (votes ++ [vote]) := unit.append light
  have hafter := Tally.first_append_singleton Vote.weight votes vote
  by_cases occupied : votes = []
  · subst occupied
    rw [maxWeight_ruling hunit hafter, backed, ruling_nil]
    exact ⟨rfl, light.1⟩
  · obtain ⟨held, hheld⟩ := Tally.exists_first Vote.weight occupied
    rw [maxWeight_ruling unit hheld] at backed ⊢
    rw [hheld] at hafter
    by_cases hle : vote.weight ≤ held.weight
    · rw [maxWeight_ruling hunit (hafter.trans (if_pos hle))]
      exact ⟨rfl, le_rfl⟩
    · rw [maxWeight_ruling hunit (hafter.trans (if_neg hle))]
      exact ⟨backed, le_of_not_ge hle⟩

theorem Majority.append {names : List String} {name : String} (agreed : Majority names name) :
    Majority (names ++ [name]) name := by
  rw [Majority] at agreed ⊢
  rw [List.length_append, List.count_append, List.length_singleton, List.count_singleton_self]
  omega

theorem agreement_append (occupied : votes ≠ []) (vote : Vote ℚ) :
    agreement votes vote.decision ≤ agreement (votes ++ [vote]) vote.decision := by
  have hcount := count_le_length votes vote.decision
  have hlength : (0 : ℚ) < votes.length := Nat.cast_pos.mpr (List.length_pos_of_ne_nil occupied)
  have hafter : agreement (votes ++ [vote]) vote.decision =
      ((votes.map Vote.decision).count vote.decision + 1) / (votes.length + 1) := by
    rw [agreement, List.map_append, List.map_singleton, List.count_append,
      List.count_singleton_self, List.length_append, List.length_singleton, Nat.cast_add,
      Nat.cast_add, Nat.cast_one]
  rw [hafter]
  exact div_le_add_div_add (Nat.cast_le.mpr hcount) zero_le_one hlength

theorem consensus_confirms (agreed : Majority (votes.map Vote.decision) vote.decision) :
    (consensus.ruling (votes ++ [vote])).Confirms (consensus.ruling votes) := by
  have hafter : Majority ((votes ++ [vote]).map Vote.decision) vote.decision := by
    rw [List.map_append, List.map_singleton]
    exact agreed.append
  have occupied : votes ≠ [] := List.ne_nil_of_length_pos (length_pos_of_named agreed.mem)
  rw [consensus_ruling_of_majority agreed, consensus_ruling_of_majority hafter]
  exact ⟨rfl, agreement_append occupied vote⟩

/-- One more vote for the decision that was answered, of any weight, leads to the same decision with
no less confidence, and the votes still carry it. -/
theorem ruling_of_backed (strategy : Strategy ℚ) (votes : List (Vote ℚ)) (vote : Vote ℚ)
    (unit : UnitWeights votes) (light : 0 ≤ vote.weight ∧ vote.weight ≤ 1)
    (carried : Carried votes strategy)
    (backed : vote.decision = (strategy.ruling votes).decision) :
    (strategy.ruling (votes ++ [vote])).Confirms (strategy.ruling votes) ∧
      Carried (votes ++ [vote]) strategy := by
  cases strategy with
  | weightedAverage => exact ⟨weightedAverage_confirms unit light backed, trivial⟩
  | maxWeight => exact ⟨maxWeight_confirms unit light backed, trivial⟩
  | consensus =>
      obtain ⟨name, agreed⟩ := carried
      rw [consensus_ruling_of_majority agreed] at backed
      obtain rfl : vote.decision = name := backed
      refine ⟨consensus_confirms agreed, vote.decision, ?_⟩
      rw [List.map_append, List.map_singleton]
      exact agreed.append
  | threshold cutoff fallback =>
      have hunit : UnitWeights (votes ++ [vote]) := unit.append light
      rw [Carried, threshold_confidence unit] at carried
      rw [threshold_ruling_of_exceeded unit carried] at backed
      have hconfirms := weightedAverage_confirms unit light backed
      have hexceeded := carried.trans_le hconfirms.confidence_le
      rw [Carried, threshold_confidence hunit, threshold_ruling_of_exceeded unit carried,
        threshold_ruling_of_exceeded hunit hexceeded]
      exact ⟨hconfirms, hexceeded⟩

theorem ruling_of_backed_lightMajority :
    UnitWeights lightMajority ∧ Carried lightMajority (threshold (1 / 2) "hold") ∧
      (threshold (1 / 2) "hold").ruling lightMajority = ⟨"review", 8 / 9⟩ ∧
      ((threshold (1 / 2) "hold").ruling (lightMajority ++ [⟨"review", 0, "audit"⟩])).Confirms
        ⟨"review", 8 / 9⟩ := by
  have hruling : (threshold (1 / 2) "hold").ruling lightMajority = ⟨"review", 8 / 9⟩ := by cbv
  have carried : Carried lightMajority (threshold (1 / 2) "hold") := by
    rw [Carried, hruling]
    norm_num
  obtain ⟨hconfirms, -⟩ := ruling_of_backed (threshold (1 / 2) "hold") lightMajority
    ⟨"review", 0, "audit"⟩ unitWeights_lightMajority (by norm_num) carried (by rw [hruling])
  rw [hruling] at hconfirms
  exact ⟨unitWeights_lightMajority, carried, hruling, hconfirms⟩

end Strategy
end Verdict
