import Verdict.Proofs.Decimal.Sums
import Verdict.Proofs.Decision.Totality

/-!
# The confidence in a decision

The last step of every strategy brings the confidence into its range, but leaves a NaN as it is.  So
what has to be shown is that no strategy gets to a NaN: sums of weights do not become infinite, and
nothing is divided by zero.
-/

namespace Verdict

namespace Tally

variable {α β : Type}

theorem mem_of_foldl_first [LE α] [DecidableLE α] {measure : β → α} {entries : List β}
    {held best : β}
    (found : entries.foldl (fun best entry =>
      match best with
      | some held => if measure entry ≤ measure held then some held else some entry
      | none => some entry) (some held) = some best) : best ∈ held :: entries := by
  induction entries generalizing held with
  | nil =>
      cases found
      exact List.mem_cons_self
  | cons entry rest ih =>
      rw [List.foldl_cons] at found
      by_cases hle : measure entry ≤ measure held
      · simp only [if_pos hle] at found
        rcases List.mem_cons.mp (ih found) with rfl | hrest
        · exact List.mem_cons_self
        · exact List.mem_cons_of_mem held (List.mem_cons_of_mem entry hrest)
      · simp only [if_neg hle] at found
        exact List.mem_cons_of_mem held (ih found)

theorem mem_of_first [LE α] [DecidableLE α] {measure : β → α} {entries : List β} {best : β}
    (found : first measure entries = some best) : best ∈ entries := by
  cases entries with
  | nil => cases found
  | cons entry rest => exact mem_of_foldl_first found

theorem forall_add [Add α] {p q : α → Prop} {name : String} {amount : α}
    (hnew : q amount) (hsum : ∀ total, p total → q (total + amount))
    (hkeep : ∀ total, p total → q total) {groups : List (String × α)}
    (h : ∀ group ∈ groups, p group.2) : ∀ group ∈ add name amount groups, q group.2 := by
  induction groups with
  | nil => exact List.forall_mem_singleton.mpr hnew
  | cons group rest ih =>
      obtain ⟨hfirst, hrest⟩ := List.forall_mem_cons.mp h
      unfold add
      split
      · refine List.forall_mem_cons.mpr ⟨hsum _ hfirst, ?_⟩
        intro other hother
        exact hkeep _ (hrest other hother)
      · exact List.forall_mem_cons.mpr ⟨hkeep _ hfirst, ih hrest⟩

/-- What holds of every vote and is kept when a vote is added holds of every total.  It may depend
on the number of votes. -/
theorem forall_totals [Add α] (p : Nat → α → Prop) {votes : List (String × α)}
    (hvote : ∀ vote ∈ votes, ∀ count, p (count + 1) vote.2)
    (hsum : ∀ vote ∈ votes, ∀ count total, p count total → p (count + 1) (total + vote.2))
    (hkeep : ∀ count total, p count total → p (count + 1) total) :
    ∀ group ∈ totals votes, p votes.length group.2 := by
  -- The totals are folded from the left, so the last vote is the one that is added.
  induction votes using List.reverseRecOn with
  | nil => exact List.forall_mem_nil _
  | append_singleton earlier vote ih =>
      have hlast : vote ∈ earlier ++ [vote] := List.mem_append_right _ List.mem_cons_self
      have hearlier := ih
        (fun other hother => hvote other (List.mem_append_left _ hother))
        (fun other hother => hsum other (List.mem_append_left _ hother))
      rw [totals, List.foldl_append, List.foldl_cons, List.foldl_nil, List.length_append]
      exact forall_add (hvote vote hlast _) (hsum vote hlast _) (hkeep _) hearlier

end Tally

open UnitInterval

namespace Strategy

theorem clamp_unit {value : Float} (h : IsNumber value) : 0 ≤ clamp value ∧ clamp value ≤ 1 := by
  have hzero : IsNumber 0 := isNumber_of_isFinite rfl
  have hone : IsNumber 1 := isNumber_of_isFinite rfl
  change 0 ≤ (if value < 0 then 0 else if 1 < value then 1 else value) ∧
    (if value < 0 then 0 else if 1 < value then 1 else value) ≤ 1
  by_cases hlow : value < 0
  · rw [if_pos hlow]
    decide
  · rw [if_neg hlow]
    by_cases hhigh : 1 < value
    · rw [if_pos hhigh]
      decide
    · rw [if_neg hhigh]
      exact ⟨le_of_not_lt h hzero hlow, le_of_not_lt hone h hhigh⟩

/-- A share of a total that is not positive is zero, and no other share divides by zero. -/
theorem isNumber_share {part : Float} (h : Moderate .positive 2 part.toModel.unpack)
    (total : Float) : IsNumber (share part total) := by
  unfold share
  split
  · next hpos => exact h.isNumber_div hpos
  · exact isNumber_of_isFinite rfl

def Weighted (votes : List (Vote Float)) : Prop :=
  ∀ vote ∈ votes, 0 ≤ vote.weight ∧ vote.weight ≤ 1

variable {votes : List (Vote Float)} {outcome : Outcome Float}

theorem moderate_of_mem_totals (weighted : Weighted votes) :
    ∀ group ∈ Tally.totals (votes.map fun vote => (vote.decision, vote.weight)),
      Moderate .positive 2 group.2.toModel.unpack := by
  apply Tally.forall_totals fun _ (total : Float) => Moderate .positive 2 total.toModel.unpack
  · intro pair hpair _
    obtain ⟨vote, hvote, rfl⟩ := List.mem_map.mp hpair
    exact moderate_of_unit (weighted vote hvote).1 (weighted vote hvote).2
  · intro pair hpair _ total htotal
    obtain ⟨vote, hvote, rfl⟩ := List.mem_map.mp hpair
    exact htotal.add_unit (weighted vote hvote).1 (weighted vote hvote).2
  · exact fun _ _ htotal => htotal

theorem isNumber_byWeight (weighted : Weighted votes)
    (found : byWeight votes = some outcome) : IsNumber outcome.confidence := by
  rw [byWeight, Option.bind_eq_some_iff] at found
  obtain ⟨total, -, hfound⟩ := found
  obtain ⟨group, hfirst, rfl⟩ := Option.map_eq_some_iff.mp hfound
  exact isNumber_share (moderate_of_mem_totals weighted group (Tally.mem_of_first hfirst)) total

theorem isNumber_byHeaviest (weighted : Weighted votes)
    (found : byHeaviest votes = some outcome) : IsNumber outcome.confidence := by
  rw [byHeaviest, Option.map_eq_some_iff] at found
  obtain ⟨vote, hfirst, rfl⟩ := found
  obtain ⟨hlow, hhigh⟩ := weighted vote (Tally.mem_of_first hfirst)
  exact isNumber_of_isFinite (isFinite_of_le hlow hhigh)

theorem count_le_of_mem_totals :
    ∀ group ∈ Tally.totals (votes.map fun vote => (vote.decision, 1)),
      group.2 ≤ votes.length := by
  have hlength : (votes.map fun vote => (vote.decision, 1)).length = votes.length :=
    List.length_map _
  rw [← hlength]
  apply Tally.forall_totals fun count (total : Nat) => total ≤ count
  · intro pair hpair count
    obtain ⟨vote, -, rfl⟩ := List.mem_map.mp hpair
    exact Nat.succ_le_succ count.zero_le
  · intro pair hpair count total htotal
    obtain ⟨vote, -, rfl⟩ := List.mem_map.mp hpair
    exact Nat.succ_le_succ htotal
  · exact fun _ _ htotal => Nat.le_succ_of_le htotal

theorem isNumber_byMajority (bounded : votes.length < 2 ^ 64)
    (found : byMajority votes = some outcome) : IsNumber outcome.confidence := by
  rw [byMajority, Option.map_eq_some_iff] at found
  obtain ⟨⟨decision, agreeing⟩, hfirst, rfl⟩ := found
  have hcount : agreeing ≤ votes.length :=
    count_le_of_mem_totals _ (Tally.mem_of_first hfirst)
  dsimp only
  split
  · next hmajority =>
    have hagreeing := moderate_ofNat (hcount.trans_lt bounded)
    have hvotes : (0 : Float) < Float.ofNat votes.length := zero_lt_ofNat (by omega)
    change IsNumber (Float.ofNat agreeing / Float.ofNat votes.length)
    exact hagreeing.isNumber_div hvotes
  · have hzero : (0 : Float).isFinite = true := rfl
    exact isNumber_of_isFinite hzero

theorem isNumber_outcome {strategy : Strategy Float} (weighted : Weighted votes)
    (bounded : votes.length < 2 ^ 64) (found : strategy.outcome votes = some outcome) :
    IsNumber outcome.confidence := by
  cases strategy with
  | weightedAverage => exact isNumber_byWeight weighted found
  | maxWeight => exact isNumber_byHeaviest weighted found
  | consensus => exact isNumber_byMajority bounded found
  | threshold cutoff fallback =>
      obtain ⟨heaviest, hheaviest, rfl⟩ := Option.map_eq_some_iff.mp found
      have hnumber := isNumber_byWeight weighted hheaviest
      split
      · exact hnumber
      · exact hnumber

end Strategy

/-- The confidence in a decision lies between zero and one.  Only the consensus has to count the
evaluations, and its counts are those of a machine. -/
theorem Decision.confidence_score (strategy : Strategy Float) {evaluations : List Evaluation}
    (weighted : ∀ evaluation ∈ evaluations, 0 ≤ evaluation.weight ∧ evaluation.weight ≤ 1)
    (bounded : evaluations.length < 2 ^ 64) :
    0 ≤ (score strategy evaluations).confidence ∧
      (score strategy evaluations).confidence ≤ 1 := by
  unfold score
  split
  · decide
  · next outcome found =>
    apply Strategy.clamp_unit
    refine Strategy.isNumber_outcome ?_ (by rwa [List.length_map]) found
    intro vote hvote
    obtain ⟨evaluation, hevaluation, rfl⟩ := List.mem_map.mp hvote
    exact weighted evaluation hevaluation

end Verdict
