import Verdict.Decision.Basic

/-!
# Every strategy decides

A strategy has no outcome exactly where there are no votes (`Strategy.outcome_eq_none_iff`).
-/

namespace Verdict

namespace Tally

variable {α β : Type}

theorem foldl_first_isSome [LE α] [DecidableLE α] (measure : β → α) (entries : List β)
    (held : β) :
    ∃ best, entries.foldl (fun best entry =>
      match best with
      | some held => if measure entry ≤ measure held then some held else some entry
      | none => some entry) (some held) = some best := by
  induction entries generalizing held with
  | nil => exact ⟨held, rfl⟩
  | cons entry rest ih =>
      rw [List.foldl_cons]
      by_cases hle : measure entry ≤ measure held
      · simp only [if_pos hle]
        exact ih held
      · simp only [if_neg hle]
        exact ih entry

theorem first_eq_none_iff [LE α] [DecidableLE α] {measure : β → α} {entries : List β} :
    first measure entries = none ↔ entries = [] := by
  cases entries with
  | nil => exact iff_of_true rfl rfl
  | cons entry rest =>
      obtain ⟨best, hbest⟩ := foldl_first_isSome measure rest entry
      have hfirst : first measure (entry :: rest) = some best := hbest
      simp only [hfirst, reduceCtorEq]

theorem add_ne_nil [Add α] (name : String) (amount : α) (groups : List (String × α)) :
    add name amount groups ≠ [] := by
  cases groups with
  | nil => exact List.cons_ne_nil _ _
  | cons group rest =>
      unfold add
      split
      · exact List.cons_ne_nil _ _
      · exact List.cons_ne_nil _ _

theorem totals_eq_nil_iff [Add α] {votes : List (String × α)} :
    totals votes = [] ↔ votes = [] := by
  rcases List.eq_nil_or_concat votes with rfl | ⟨earlier, vote, rfl⟩
  · exact iff_of_true rfl rfl
  · rw [totals, List.concat_eq_append, List.foldl_append, List.foldl_cons, List.foldl_nil]
    exact iff_of_false (add_ne_nil _ _ _) (by simp)

theorem sum?_eq_none_iff [Add α] {amounts : List α} : sum? amounts = none ↔ amounts = [] := by
  cases amounts with
  | nil => exact iff_of_true rfl rfl
  | cons amount rest => simp only [sum?, reduceCtorEq]

end Tally

namespace Strategy

variable {α : Type} [Amount α]

theorem byWeight_eq_none_iff {votes : List (Vote α)} : byWeight votes = none ↔ votes = [] := by
  have htotals : Tally.totals (votes.map fun vote => (vote.decision, vote.weight)) = [] ↔
      votes = [] := by
    rw [Tally.totals_eq_nil_iff, List.map_eq_nil_iff]
  rw [← htotals, byWeight]
  cases hsum : Tally.sum? ((Tally.totals
      (votes.map fun vote => (vote.decision, vote.weight))).map Prod.snd) with
  | none =>
      rw [Tally.sum?_eq_none_iff, List.map_eq_nil_iff] at hsum
      exact iff_of_true rfl hsum
  | some total => rw [Option.bind_some, Option.map_eq_none_iff, Tally.first_eq_none_iff]

/-- Every strategy decides between votes, however many there are and whatever they are. -/
theorem outcome_eq_none_iff {strategy : Strategy α} {votes : List (Vote α)} :
    strategy.outcome votes = none ↔ votes = [] := by
  cases strategy with
  | weightedAverage => exact byWeight_eq_none_iff
  | maxWeight =>
      change byHeaviest votes = none ↔ votes = []
      rw [byHeaviest, Option.map_eq_none_iff, Tally.first_eq_none_iff]
  | consensus =>
      change byMajority votes = none ↔ votes = []
      rw [byMajority, Option.map_eq_none_iff, Tally.first_eq_none_iff, Tally.totals_eq_nil_iff,
        List.map_eq_nil_iff]
  | threshold cutoff fallback =>
      change byThreshold cutoff fallback votes = none ↔ votes = []
      rw [byThreshold, Option.map_eq_none_iff]
      exact byWeight_eq_none_iff

theorem exists_outcome (strategy : Strategy α) {votes : List (Vote α)} (occupied : votes ≠ []) :
    ∃ outcome, strategy.outcome votes = some outcome :=
  Option.ne_none_iff_exists'.mp (mt outcome_eq_none_iff.mp occupied)

end Strategy

theorem Decision.evaluations_score (strategy : Strategy Float) (evaluations : List Evaluation) :
    (score strategy evaluations).evaluations = evaluations := by
  unfold score
  split
  · next hnone =>
    rw [Strategy.outcome_eq_none_iff, List.map_eq_nil_iff] at hnone
    rw [hnone]
    rfl
  · rfl

end Verdict
