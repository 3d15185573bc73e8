import Verdict.Proofs.Decision.Consensus
import Verdict.Proofs.Decision.Translation
import Mathlib.Data.List.Dedup

/-!
# Bounds of the confidence

Whether a division by zero occurs cannot be seen from exact numbers, for which such a quotient is a
number like any other.  So the votes are counted once more over numbers for which it is undefined,
and nothing changes.
-/

namespace Verdict

/-- An exact number, or the result of a division by zero. -/
inductive Guarded where
  | number (value : ℚ)
  | undefined

namespace Guarded

def add : Guarded → Guarded → Guarded
  | number a, number b => number (a + b)
  | _, _ => undefined

def div : Guarded → Guarded → Guarded
  | number a, number b => if b = 0 then undefined else number (a / b)
  | _, _ => undefined

/-- The relation holds between numbers; what is undefined has it to nothing. -/
def Compares (relation : ℚ → ℚ → Prop) : Guarded → Guarded → Prop
  | number a, number b => relation a b
  | _, _ => False

instance decidableCompares (relation : ℚ → ℚ → Prop) [DecidableRel relation] :
    DecidableRel (Compares relation)
  | number a, number b => inferInstanceAs (Decidable (relation a b))
  | number _, undefined => isFalse id
  | undefined, number _ => isFalse id
  | undefined, undefined => isFalse id

instance : Amount Guarded where
  add := add
  div := div
  le := Compares (· ≤ ·)
  lt := Compares (· < ·)
  ofCount count := number count
  decidableLe := decidableCompares (· ≤ ·)
  decidableLt := decidableCompares (· < ·)

theorem translation_number : Translation number where
  add _ _ := rfl
  le_iff _ _ := Iff.rfl
  lt_iff _ _ := Iff.rfl
  ofCount _ := rfl
  ofCount_pos _ hpos := Nat.cast_lt.mpr hpos
  div a b hpos := by
    have hne : b ≠ 0 := ne_of_gt (Nat.cast_zero (R := ℚ) ▸ hpos)
    exact (if_neg hne).symm

end Guarded

namespace Strategy

/-- The number of different decisions that are voted for. -/
def choices (votes : List (Vote ℚ)) : Nat :=
  (votes.map Vote.decision).dedup.length

variable {votes : List (Vote ℚ)}

theorem length_totals_ballots (votes : List (Vote ℚ)) :
    (Tally.totals (ballots votes)).length = choices votes := by
  have hperm : ((Tally.totals (ballots votes)).map Prod.fst).Perm
      (votes.map Vote.decision).dedup := by
    apply (List.perm_ext_iff_of_nodup (Tally.nodup_totals _) (List.nodup_dedup _)).mpr
    intro name
    rw [Tally.mem_names_totals_iff, map_fst_ballots, List.mem_dedup]
  rw [choices, ← hperm.length_eq, List.length_map]

theorem totalWeight_le_of_leads {leader : String} (leads : Leads votes leader) :
    totalWeight votes ≤ choices votes * support votes leader := by
  have hle : ∀ total ∈ (Tally.totals (ballots votes)).map Prod.snd,
      total ≤ support votes leader := by
    intro total htotal
    obtain ⟨⟨name, sum⟩, hmem, rfl⟩ := List.mem_map.mp htotal
    obtain ⟨hnamed, rfl⟩ := mem_totals_ballots_iff.mp hmem
    exact leads.heaviest name hnamed
  calc
    totalWeight votes = ((Tally.totals (ballots votes)).map Prod.snd).sum := by
      rw [Tally.sum_totals, map_snd_ballots, totalWeight]
    _ ≤ ((Tally.totals (ballots votes)).map Prod.snd).length • support votes leader :=
      List.sum_le_card_nsmul _ _ hle
    _ = choices votes * support votes leader := by
      rw [List.length_map, length_totals_ballots, nsmul_eq_mul]

theorem one_div_choices_le {leader : String} (unit : UnitWeights votes)
    (leads : Leads votes leader) (weighty : 0 < totalWeight votes) :
    1 / (choices votes : ℚ) ≤ supportShare votes leader := by
  have hchoices : (0 : ℚ) < choices votes :=
    Nat.cast_pos.mpr (List.length_pos_of_mem (List.mem_dedup.mpr leads.named))
  have hsome : ¬ ∀ vote ∈ votes, vote.weight = 0 := by
    rw [← totalWeight_eq_zero_iff unit]
    exact weighty.ne'
  rw [supportShare, if_neg hsome, div_le_div_iff₀ hchoices weighty, one_mul, mul_comm]
  exact totalWeight_le_of_leads leads

theorem half_lt_agreement {decision : String}
    (agreed : Majority (votes.map Vote.decision) decision) :
    1 / 2 < agreement votes decision := by
  have hlength : (0 : ℚ) < votes.length := Nat.cast_pos.mpr (length_pos_of_named agreed.mem)
  have hmore : (votes.length : ℚ) < 2 * (votes.map Vote.decision).count decision := by
    exact_mod_cast majority_votes_iff.mp agreed
  rw [agreement, div_lt_div_iff₀ two_pos hlength, one_mul, mul_comm]
  exact hmore

/-- Without votes there is no decision and no confidence.  Elsewhere nothing is divided by zero and
the confidence lies between zero and one; the leader of a weighted average has at least an equal
part, and a consensus has more than half of the votes or is inconclusive. -/
theorem confidence_bounds (strategy : Strategy ℚ) (votes : List (Vote ℚ))
    (unit : UnitWeights votes) :
    (strategy.outcome votes = none ↔ votes = []) ∧
      (votes = [] → strategy.ruling votes = ⟨Decision.none.decision, 0⟩) ∧
      (strategy.map Guarded.number).outcome (votes.map (Vote.map Guarded.number)) =
        (strategy.outcome votes).map (Outcome.map Guarded.number) ∧
      ∀ outcome, strategy.outcome votes = some outcome →
        0 ≤ outcome.confidence ∧ outcome.confidence ≤ 1 ∧
          clamp outcome.confidence = outcome.confidence ∧
          (strategy = weightedAverage → 0 < totalWeight votes →
            1 / (choices votes : ℚ) ≤ outcome.confidence) ∧
          (strategy = consensus →
            outcome.decision = inconclusive ∧ outcome.confidence = 0 ∨
              1 / 2 < outcome.confidence) := by
  refine ⟨outcome_eq_none_iff, ?_, outcome_map Guarded.translation_number strategy votes, ?_⟩
  · rintro rfl
    exact ruling_nil strategy
  intro outcome hfound
  obtain ⟨hlow, hhigh⟩ := confidence_unit unit hfound
  refine ⟨hlow, hhigh, clamp_of_unit hlow hhigh, ?_, ?_⟩
  · rintro rfl weighty
    obtain ⟨hleads, hconfidence⟩ := leads_of_byWeight hfound
    rw [hconfidence, share_eq_supportShare unit]
    exact one_div_choices_le unit hleads weighty
  · rintro rfl
    rcases byMajority_cases hfound with ⟨name, agreed, rfl⟩ | ⟨-, rfl⟩
    · exact Or.inr (half_lt_agreement agreed)
    · exact Or.inl ⟨rfl, rfl⟩

theorem confidence_bounds_lightMajority :
    UnitWeights lightMajority ∧ 0 < totalWeight lightMajority ∧
      (∃ outcome, weightedAverage.outcome lightMajority = some outcome ∧
        1 / (choices lightMajority : ℚ) ≤ outcome.confidence ∧ outcome.confidence = 8 / 9) ∧
      ∃ outcome, consensus.outcome lightMajority = some outcome ∧
        1 / 2 < outcome.confidence ∧ outcome.decision = "approve" := by
  have unit := unitWeights_lightMajority
  have weighty : 0 < totalWeight lightMajority := by
    have htotal : totalWeight lightMajority = 9 / 4 := by cbv
    rw [htotal]
    norm_num
  have haverage : weightedAverage.outcome lightMajority =
      some ⟨"review", 8 / 9, .heaviestSum "review" 2 (9 / 4)⟩ := by cbv
  have hconsensus : consensus.outcome lightMajority =
      some ⟨"approve", 3 / 5, .majority "approve" 3 5⟩ := by cbv
  obtain ⟨-, -, -, hshare, -⟩ :=
    (confidence_bounds weightedAverage lightMajority unit).2.2.2 _ haverage
  obtain ⟨-, -, -, -, hmajority⟩ :=
    (confidence_bounds consensus lightMajority unit).2.2.2 _ hconsensus
  refine ⟨unit, weighty, ⟨_, haverage, hshare rfl weighty, rfl⟩, _, hconsensus, ?_, rfl⟩
  rcases hmajority rfl with ⟨hdecision, -⟩ | hhalf
  · exact absurd hdecision (by decide)
  · exact hhalf

end Strategy
end Verdict
