import Verdict.Proofs.Decision.Ruling

/-!
# The consensus

The greatest count is enough to look at, because a majority has the greatest count and no two
decisions have a majority.  The name of the answer without a majority may also be voted for; the
confidence tells the two apart.
-/

namespace Verdict.Strategy

theorem Majority.of_perm {names others : List String} {name : String}
    (agreed : Majority names name) (reordered : names.Perm others) : Majority others name := by
  rw [Majority] at agreed ⊢
  rwa [← reordered.length_eq, ← reordered.count_eq]

theorem byMajority_congr {α : Type} [Amount α] {votes others : List (Vote α)}
    (reordered : (votes.map Vote.decision).Perm (others.map Vote.decision)) :
    byMajority others = byMajority votes := by
  have hlength : others.length = votes.length := by
    rw [← List.length_map (f := Vote.decision), ← reordered.length_eq, List.length_map]
  by_cases agreed : ∃ name, Majority (votes.map Vote.decision) name
  · obtain ⟨name, hname⟩ := agreed
    rw [byMajority_of_majority hname, byMajority_of_majority (hname.of_perm reordered),
      agreedOutcome, agreedOutcome, hlength, reordered.count_eq]
  · by_cases occupied : votes = []
    · subst occupied
      rw [List.length_eq_zero_iff.mp hlength]
    · have hothers : others ≠ [] := by
        rintro rfl
        exact occupied (List.length_eq_zero_iff.mp hlength.symm)
      have divided := not_exists.mp agreed
      have hdivided : ∀ name, ¬ Majority (others.map Vote.decision) name := by
        intro name hname
        exact divided name (hname.of_perm reordered.symm)
      rw [byMajority_of_no_majority occupied divided,
        byMajority_of_no_majority hothers hdivided, dividedOutcome, dividedOutcome, hlength]

variable {votes : List (Vote ℚ)}

theorem agreement_pos {decision : String} (named : decision ∈ votes.map Vote.decision) :
    0 < agreement votes decision := by
  have hcount : 0 < (votes.map Vote.decision).count decision := List.count_pos_iff.mpr named
  exact div_pos (Nat.cast_pos.mpr hcount) (Nat.cast_pos.mpr (length_pos_of_named named))

theorem agreedOutcome_iff {decision : String} :
    consensus.outcome votes = some (agreedOutcome votes decision) ↔
      Majority (votes.map Vote.decision) decision := by
  constructor
  · intro hfound
    rcases byMajority_cases hfound with ⟨name, agreed, hname⟩ | ⟨-, hdivided⟩
    · obtain rfl : decision = name := congrArg Outcome.decision hname
      exact agreed
    · cases congrArg Outcome.finding hdivided
  · exact byMajority_of_majority

theorem consensus_ruling_iff (occupied : votes ≠ []) {decision : String}
    (proper : decision ∈ votes.map Vote.decision ∨ decision ≠ inconclusive) :
    consensus.ruling votes = ⟨decision, agreement votes decision⟩ ↔
      Majority (votes.map Vote.decision) decision := by
  constructor
  · intro hruling
    by_cases agreed : ∃ name, Majority (votes.map Vote.decision) name
    · obtain ⟨name, hname⟩ := agreed
      rw [consensus_ruling_of_majority hname, Ruling.mk.injEq] at hruling
      rwa [← hruling.1]
    · rw [consensus_ruling_of_divided occupied (not_exists.mp agreed), Ruling.mk.injEq] at hruling
      obtain ⟨hdecision, hconfidence⟩ := hruling
      rcases proper with named | hne
      · exact absurd hconfidence (agreement_pos named).ne
      · exact absurd hdecision.symm hne
  · exact consensus_ruling_of_majority

/-- A consensus finds a decision, with the part of the votes that are for it as confidence, if and
only if more than half of the votes are for it.  Weights and order do not matter. -/
theorem consensus_iff_majority (votes : List (Vote ℚ)) (occupied : votes ≠ []) :
    (∀ decision,
      consensus.outcome votes = some ⟨decision, agreement votes decision,
          .majority decision ((votes.map Vote.decision).count decision) votes.length⟩ ↔
        Majority (votes.map Vote.decision) decision) ∧
      (∀ decision, decision ∈ votes.map Vote.decision ∨ decision ≠ inconclusive →
        (consensus.ruling votes = ⟨decision, agreement votes decision⟩ ↔
          Majority (votes.map Vote.decision) decision)) ∧
      ((∀ decision, ¬ Majority (votes.map Vote.decision) decision) →
        consensus.ruling votes = ⟨inconclusive, 0⟩) ∧
      (∀ decision other, Majority (votes.map Vote.decision) decision →
        Majority (votes.map Vote.decision) other → decision = other) ∧
      ∀ others : List (Vote ℚ),
        (votes.map Vote.decision).Perm (others.map Vote.decision) →
          consensus.outcome others = consensus.outcome votes ∧
            consensus.ruling others = consensus.ruling votes := by
  refine ⟨fun _ => agreedOutcome_iff, fun _ => consensus_ruling_iff occupied,
    consensus_ruling_of_divided occupied, fun _ _ => Majority.unique, ?_⟩
  intro others reordered
  have houtcome : consensus.outcome others = consensus.outcome votes := byMajority_congr reordered
  exact ⟨houtcome, by rw [ruling, ruling, houtcome]⟩

def lightMajority : List (Vote ℚ) :=
  [⟨"review", 1, "rules"⟩, ⟨"approve", 0, "model"⟩, ⟨"review", 1, "desk"⟩,
    ⟨"approve", 1 / 8, "baseline"⟩, ⟨"approve", 1 / 8, "score"⟩]

theorem unitWeights_lightMajority : UnitWeights lightMajority := by
  intro vote hvote
  simp only [lightMajority, List.mem_cons, List.not_mem_nil, or_false] at hvote
  rcases hvote with rfl | rfl | rfl | rfl | rfl
  all_goals norm_num

theorem consensus_iff_majority_lightMajority :
    lightMajority ≠ [] ∧ Majority (lightMajority.map Vote.decision) "approve" ∧
      consensus.ruling lightMajority = ⟨"approve", 3 / 5⟩ ∧
      consensus.ruling lightMajority.reverse = ⟨"approve", 3 / 5⟩ := by
  have occupied : lightMajority ≠ [] := List.cons_ne_nil _ _
  have agreed : Majority (lightMajority.map Vote.decision) "approve" := by
    rw [Majority]
    decide
  have hagreement : agreement lightMajority "approve" = 3 / 5 := rfl
  obtain ⟨-, hruling, -, -, hsame⟩ := consensus_iff_majority lightMajority occupied
  have hforward := (hruling "approve" (Or.inl agreed.mem)).mpr agreed
  rw [hagreement] at hforward
  have hreordered := (hsame lightMajority.reverse
    ((List.reverse_perm lightMajority).symm.map Vote.decision)).2
  exact ⟨occupied, agreed, hforward, hreordered.trans hforward⟩

end Verdict.Strategy
