import Verdict.Proofs.Decision.Majority
import Mathlib.Algebra.BigOperators.Group.List.Basic
import Mathlib.Algebra.Order.BigOperators.Group.List
import Mathlib.Algebra.Order.Field.Rat

/-!
# The leading decision

With exact weights, the totals together are the sum of all weights (`Tally.sum_totals`), and they
stand in the order in which their decisions are first voted for (`Tally.pairwise_totals`).  So the
decision with the greatest sum of weights is the one that leads (`Strategy.leads_of_byWeight`).
-/

namespace Verdict

namespace Tally

variable {α β : Type}

/-! ## The first of the greatest entries -/

/-- What is chosen is greater than all entries before it and not less than any behind it. -/
theorem exists_split_of_first [LinearOrder α] {measure : β → α} {entries : List β} {best : β}
    (found : first measure entries = some best) :
    ∃ before after, entries = before ++ best :: after ∧
      (∀ entry ∈ before, measure entry < measure best) ∧
      ∀ entry ∈ after, measure entry ≤ measure best := by
  obtain ⟨index, hbest⟩ := exists_firstGreatest_of_first (totallyOrdered_of_linearOrder _) found
  obtain ⟨hbound, hget⟩ := List.getElem?_eq_some_iff.mp hbest.found
  refine ⟨entries.take index, entries.drop (index + 1), ?_, ?_, ?_⟩
  · rw [← hget, List.getElem_cons_drop, List.take_append_drop]
  · intro entry hentry
    by_contra hnot
    obtain ⟨rival, hrival, hplace⟩ := List.mem_take_iff_getElem.mp hentry
    have hearly : index ≤ rival := by
      refine hbest.earliest rival entry (List.getElem?_eq_some_iff.mpr ⟨by omega, hplace⟩) ?_
      intro other hother
      exact (hbest.greatest other hother).trans (not_lt.mp hnot)
    omega
  · intro entry hentry
    exact hbest.greatest entry (List.mem_of_mem_drop hentry)

/-! ## The order of the totals -/

theorem mem_names_totals_iff [Add α] {votes : List (String × α)} {name : String} :
    name ∈ (totals votes).map Prod.fst ↔ name ∈ votes.map Prod.fst := by
  induction votes using List.reverseRecOn with
  | nil => exact Iff.rfl
  | append_singleton earlier vote ih =>
      rw [totals_append_singleton, map_fst_add, List.map_append, List.mem_append,
        List.map_singleton, List.mem_singleton]
      by_cases hmem : vote.1 ∈ (totals earlier).map Prod.fst
      · rw [if_pos hmem, ih]
        constructor
        · exact Or.inl
        · rintro (hname | rfl)
          · exact hname
          · exact ih.mp hmem
      · rw [if_neg hmem, List.mem_append, List.mem_singleton, ih]

theorem pairwise_totals [Add α] (votes : List (String × α)) :
    ((totals votes).map Prod.fst).Pairwise fun name other =>
      (votes.map Prod.fst).idxOf name < (votes.map Prod.fst).idxOf other := by
  induction votes using List.reverseRecOn with
  | nil => exact List.Pairwise.nil
  | append_singleton earlier vote ih =>
      have hkept : ∀ name ∈ (totals earlier).map Prod.fst,
          ((earlier ++ [vote]).map Prod.fst).idxOf name = (earlier.map Prod.fst).idxOf name := by
        intro name hname
        rw [List.map_append, List.idxOf_append_of_mem (mem_names_totals_iff.mp hname)]
      have hearlier : ((totals earlier).map Prod.fst).Pairwise fun name other =>
          ((earlier ++ [vote]).map Prod.fst).idxOf name <
            ((earlier ++ [vote]).map Prod.fst).idxOf other := by
        refine ih.imp_of_mem ?_
        intro name other hname hother hlt
        rw [hkept name hname, hkept other hother]
        exact hlt
      rw [totals_append_singleton, map_fst_add]
      by_cases hmem : vote.1 ∈ (totals earlier).map Prod.fst
      · rw [if_pos hmem]
        exact hearlier
      · rw [if_neg hmem]
        refine List.pairwise_append.mpr ⟨hearlier, List.pairwise_singleton _ _, ?_⟩
        intro name hname other hother
        have hnew : vote.1 ∉ earlier.map Prod.fst := fun h => hmem (mem_names_totals_iff.mpr h)
        rw [hkept name hname, List.mem_singleton.mp hother, List.map_append,
          List.idxOf_append_of_notMem hnew]
        have hold := List.idxOf_lt_length_iff.mpr (mem_names_totals_iff.mp hname)
        omega

/-! ## Sums -/

theorem sum?_eq_some_sum [AddMonoid α] {amounts : List α} (h : amounts ≠ []) :
    sum? amounts = some amounts.sum := by
  cases amounts with
  | nil => exact absurd rfl h
  | cons amount rest =>
      have hfold : ∀ start : α, rest.foldl (· + ·) start = start + rest.sum := by
        intro start
        induction rest generalizing start with
        | nil => simp
        | cons next others ih =>
            rw [List.foldl_cons, ih (List.cons_ne_nil _ _), List.sum_cons, add_assoc]
      rw [sum?, hfold, List.sum_cons]

theorem sum_add [AddCommMonoid α] (name : String) (amount : α) (groups : List (String × α)) :
    ((add name amount groups).map Prod.snd).sum = (groups.map Prod.snd).sum + amount := by
  induction groups with
  | nil => simp [add]
  | cons group rest ih =>
      obtain ⟨key, total⟩ := group
      by_cases hkey : key = name
      · rw [add, if_pos hkey, List.map_cons, List.map_cons, List.sum_cons, List.sum_cons,
          add_right_comm]
      · rw [add, if_neg hkey, List.map_cons, List.map_cons, List.sum_cons, List.sum_cons, ih,
          add_assoc]

theorem sum_totals [AddCommMonoid α] (votes : List (String × α)) :
    ((totals votes).map Prod.snd).sum = (votes.map Prod.snd).sum := by
  induction votes using List.reverseRecOn with
  | nil => rfl
  | append_singleton earlier vote ih =>
      rw [totals_append_singleton, sum_add, ih, List.map_append, List.sum_append,
        List.map_singleton, List.sum_singleton]

end Tally

instance : Amount ℚ where
  ofCount count := count
  decidableLe := inferInstance
  decidableLt := inferInstance

namespace Strategy

def support (votes : List (Vote ℚ)) (decision : String) : ℚ :=
  ((votes.filter fun vote => vote.decision = decision).map Vote.weight).sum

def totalWeight (votes : List (Vote ℚ)) : ℚ :=
  (votes.map Vote.weight).sum

def firstVote (votes : List (Vote ℚ)) (decision : String) : Nat :=
  (votes.map Vote.decision).idxOf decision

/-- The decision is voted for, none has more support, and of those with equal support it is the one
that was voted for first. -/
structure Leads (votes : List (Vote ℚ)) (decision : String) : Prop where
  named : decision ∈ votes.map Vote.decision
  heaviest : ∀ other ∈ votes.map Vote.decision, support votes other ≤ support votes decision
  earliest : ∀ other ∈ votes.map Vote.decision, support votes other = support votes decision →
    firstVote votes decision ≤ firstVote votes other

def ballots (votes : List (Vote ℚ)) : List (String × ℚ) :=
  votes.map fun vote => (vote.decision, vote.weight)

theorem map_fst_ballots (votes : List (Vote ℚ)) :
    (ballots votes).map Prod.fst = votes.map Vote.decision := by
  rw [ballots, List.map_map]
  rfl

theorem map_snd_ballots (votes : List (Vote ℚ)) :
    (ballots votes).map Prod.snd = votes.map Vote.weight := by
  rw [ballots, List.map_map]
  rfl

theorem amountsOf_ballots (votes : List (Vote ℚ)) (decision : String) :
    Tally.amountsOf decision (ballots votes) =
      (votes.filter fun vote => vote.decision = decision).map Vote.weight := by
  induction votes with
  | nil => rfl
  | cons vote rest ih =>
      rw [Tally.amountsOf] at ih
      by_cases hvote : vote.decision = decision
      · simp [Tally.amountsOf, ballots, hvote, ← ih]
      · simp [Tally.amountsOf, ballots, hvote, ← ih]

theorem total_eq_support {votes : List (Vote ℚ)} {decision : String} {total : ℚ}
    (member : (decision, total) ∈ Tally.totals (ballots votes)) :
    total = support votes decision := by
  have hsum := Tally.mem_totals_iff.mp member
  have hne : Tally.amountsOf decision (ballots votes) ≠ [] := by
    intro hnil
    rw [hnil] at hsum
    cases hsum
  rw [Tally.sum?_eq_some_sum hne, amountsOf_ballots, Option.some.injEq] at hsum
  exact hsum.symm

theorem mem_totals_ballots_iff {votes : List (Vote ℚ)} {decision : String} {total : ℚ} :
    (decision, total) ∈ Tally.totals (ballots votes) ↔
      decision ∈ votes.map Vote.decision ∧ total = support votes decision := by
  rw [← map_fst_ballots, ← Tally.mem_names_totals_iff]
  constructor
  · intro hmem
    exact ⟨List.mem_map_of_mem hmem, total_eq_support hmem⟩
  · rintro ⟨hnamed, rfl⟩
    obtain ⟨⟨name, total⟩, hmem, rfl⟩ := List.mem_map.mp hnamed
    rw [← total_eq_support hmem]
    exact hmem

theorem leads_of_first {votes : List (Vote ℚ)} {decision : String} {sum : ℚ}
    (found : Tally.first Prod.snd (Tally.totals (ballots votes)) = some (decision, sum)) :
    Leads votes decision := by
  obtain ⟨hnamed, rfl⟩ := mem_totals_ballots_iff.mp (Tally.mem_of_first found)
  have hgroup : ∀ other ∈ votes.map Vote.decision,
      (other, support votes other) ∈ Tally.totals (ballots votes) := by
    intro other hother
    exact mem_totals_ballots_iff.mpr ⟨hother, rfl⟩
  refine ⟨hnamed, ?_, ?_⟩
  · intro other hother
    exact Tally.le_of_first found _ (hgroup other hother)
  · intro other hother heq
    -- The totals before the chosen one are smaller, those behind it have been voted for later.
    obtain ⟨before, after, hsplit, hless, -⟩ := Tally.exists_split_of_first found
    have horder := Tally.pairwise_totals (ballots votes)
    rw [map_fst_ballots, hsplit, List.map_append, List.pairwise_append] at horder
    have hplace := hgroup other hother
    rw [hsplit, List.mem_append, List.mem_cons] at hplace
    rcases hplace with hbefore | hself | hafter
    · exact absurd heq (hless _ hbefore).ne
    · obtain rfl : other = decision := congrArg Prod.fst hself
      exact le_rfl
    · have hlater := (List.pairwise_cons.mp horder.2.1).1 other (List.mem_map_of_mem hafter)
      exact hlater.le

/-- The decision with the greatest total leads, and its share is taken of all weights. -/
theorem leads_of_byWeight {votes : List (Vote ℚ)} {outcome : Outcome ℚ}
    (found : byWeight votes = some outcome) :
    Leads votes outcome.decision ∧
      outcome.confidence = share (support votes outcome.decision) (totalWeight votes) := by
  obtain ⟨total, htotal, hfound⟩ := Option.bind_eq_some_iff.mp found
  obtain ⟨⟨decision, sum⟩, hfirst, rfl⟩ := Option.map_eq_some_iff.mp hfound
  have hmem : (decision, sum) ∈ Tally.totals (ballots votes) := Tally.mem_of_first hfirst
  have hall : total = totalWeight votes := by
    have hne : (Tally.totals (ballots votes)).map Prod.snd ≠ [] :=
      List.ne_nil_of_mem (List.mem_map_of_mem hmem)
    have hsum : Tally.sum? ((Tally.totals (ballots votes)).map Prod.snd) = some total := htotal
    rw [Tally.sum?_eq_some_sum hne, Tally.sum_totals, map_snd_ballots, Option.some.injEq] at hsum
    exact hsum.symm
  refine ⟨leads_of_first hfirst, ?_⟩
  rw [hall, total_eq_support hmem]

end Strategy
end Verdict
