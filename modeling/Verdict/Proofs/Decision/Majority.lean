import Verdict.Proofs.Decision.Confidence
import Verdict.Proofs.Decision.Selection

/-!
# Totals and majorities

A tally has one total for each name, the sum of the amounts that were given to the name
(`Tally.lookup_totals`).  If more than half of the votes name one decision, the greatest total is
the one to look at (`Strategy.exists_byMajority_eq`).
-/

namespace Verdict

namespace Tally

variable {α β : Type}

def amountsOf (name : String) (votes : List (String × α)) : List α :=
  votes.filterMap fun vote => if vote.1 = name then some vote.2 else none

theorem sum?_append_singleton [Add α] (amounts : List α) (amount : α) :
    sum? (amounts ++ [amount]) = some ((sum? amounts).elim amount (· + amount)) := by
  cases amounts with
  | nil => rfl
  | cons first rest =>
      have hfold : (rest ++ [amount]).foldl (· + ·) first = rest.foldl (· + ·) first + amount := by
        rw [List.foldl_append, List.foldl_cons, List.foldl_nil]
      exact congrArg some hfold

theorem lookup_add [Add α] (name other : String) (amount : α) (groups : List (String × α)) :
    (add name amount groups).lookup other =
      if other = name then some ((groups.lookup name).elim amount (· + amount))
      else groups.lookup other := by
  induction groups with
  | nil =>
      by_cases hother : other = name
      · simp [add, hother]
      · simp [add, hother]
  | cons group rest ih =>
      obtain ⟨key, total⟩ := group
      by_cases hkey : key = name
      · by_cases hother : other = name
        · simp [add, hkey, hother]
        · have hne : (other == name) = false := beq_eq_false_iff_ne.mpr hother
          simp [add, hkey, hother, List.lookup_cons, hne]
      · have hname : (name == key) = false := beq_eq_false_iff_ne.mpr (Ne.symm hkey)
        rw [add, if_neg hkey, List.lookup_cons, List.lookup_cons, List.lookup_cons, ih, hname]
        by_cases hfound : other = key
        · simp [hfound, hkey]
        · rw [beq_eq_false_iff_ne.mpr hfound]

theorem map_fst_add [Add α] (name : String) (amount : α) (groups : List (String × α)) :
    (add name amount groups).map Prod.fst =
      if name ∈ groups.map Prod.fst then groups.map Prod.fst
      else groups.map Prod.fst ++ [name] := by
  induction groups with
  | nil => rfl
  | cons group rest ih =>
      obtain ⟨key, total⟩ := group
      by_cases hkey : key = name
      · simp [add, hkey]
      · rw [add, if_neg hkey, List.map_cons, ih]
        by_cases hrest : name ∈ rest.map Prod.fst
        · have hmem : name ∈ ((key, total) :: rest).map Prod.fst := List.mem_cons_of_mem key hrest
          rw [if_pos hrest, if_pos hmem]
          rfl
        · have hnot : name ∉ ((key, total) :: rest).map Prod.fst := by
            intro hmem
            rcases List.mem_cons.mp hmem with heq | hmem
            · exact hkey heq.symm
            · exact hrest hmem
          rw [if_neg hrest, if_neg hnot]
          rfl

theorem totals_append_singleton [Add α] (votes : List (String × α)) (vote : String × α) :
    totals (votes ++ [vote]) = add vote.1 vote.2 (totals votes) := by
  rw [totals, List.foldl_append, List.foldl_cons, List.foldl_nil, ← totals]

theorem lookup_totals [Add α] (votes : List (String × α)) (name : String) :
    (totals votes).lookup name = sum? (amountsOf name votes) := by
  induction votes using List.reverseRecOn with
  | nil => rfl
  | append_singleton earlier vote ih =>
      have hsplit : amountsOf name (earlier ++ [vote]) =
          amountsOf name earlier ++ amountsOf name [vote] := List.filterMap_append
      rw [totals_append_singleton, lookup_add, hsplit]
      by_cases hname : name = vote.1
      · have hlast : amountsOf name [vote] = [vote.2] := by simp [amountsOf, hname]
        rw [if_pos hname, hlast, sum?_append_singleton, ← ih, hname]
      · have hlast : amountsOf name [vote] = [] := by simp [amountsOf, Ne.symm hname]
        rw [if_neg hname, hlast, List.append_nil, ih]

theorem nodup_totals [Add α] (votes : List (String × α)) :
    ((totals votes).map Prod.fst).Nodup := by
  induction votes using List.reverseRecOn with
  | nil => exact List.nodup_nil
  | append_singleton earlier vote ih =>
      rw [totals_append_singleton, map_fst_add]
      by_cases hmem : vote.1 ∈ (totals earlier).map Prod.fst
      · rw [if_pos hmem]
        exact ih
      · rw [if_neg hmem]
        rw [← List.concat_eq_append]
        exact ih.concat hmem

theorem lookup_eq_some_iff_mem {groups : List (String × α)}
    (distinct : (groups.map Prod.fst).Nodup) {name : String} {total : α} :
    groups.lookup name = some total ↔ (name, total) ∈ groups := by
  induction groups with
  | nil => simp
  | cons group rest ih =>
      obtain ⟨key, value⟩ := group
      rw [List.map_cons, List.nodup_cons] at distinct
      by_cases hname : name = key
      · have hnot : ∀ other, (name, other) ∉ rest := by
          intro other hmem
          exact distinct.1 (List.mem_map.mpr ⟨(name, other), hmem, hname⟩)
        simp [hname, hname ▸ hnot total, eq_comm]
      · have hne : (name == key) = false := beq_eq_false_iff_ne.mpr hname
        rw [List.lookup_cons, hne, List.mem_cons, ← ih distinct.2]
        simp [hname]

theorem mem_totals_iff [Add α] {votes : List (String × α)} {name : String} {total : α} :
    (name, total) ∈ totals votes ↔ sum? (amountsOf name votes) = some total := by
  rw [← lookup_totals, lookup_eq_some_iff_mem (nodup_totals votes)]

theorem name_mem_of_mem_totals [Add α] {votes : List (String × α)} {group : String × α}
    (member : group ∈ totals votes) : group.1 ∈ votes.map Prod.fst := by
  have hsum : sum? (amountsOf group.1 votes) = some group.2 := mem_totals_iff.mp member
  have hne : amountsOf group.1 votes ≠ [] := by
    intro hnil
    rw [hnil] at hsum
    cases hsum
  obtain ⟨amount, hamount⟩ := List.exists_mem_of_ne_nil _ hne
  obtain ⟨vote, hvote, hfound⟩ := List.mem_filterMap.mp hamount
  by_cases hname : vote.1 = group.1
  · exact List.mem_map.mpr ⟨vote, hvote, hname⟩
  · simp [hname] at hfound

/-! ## The greatest entry -/

theorem le_of_first [LinearOrder α] {measure : β → α} {entries : List β} {best : β}
    (found : first measure entries = some best) :
    ∀ entry ∈ entries, measure entry ≤ measure best := by
  obtain ⟨_, hbest⟩ := exists_firstGreatest_of_first (totallyOrdered_of_linearOrder _) found
  exact hbest.greatest

/-! ## Counting -/

theorem sum?_replicate_one (count : Nat) :
    sum? (List.replicate count 1) = if count = 0 then none else some count := by
  cases count with
  | zero => rfl
  | succ count =>
      have hfold : ∀ start : Nat, (List.replicate count 1).foldl (· + ·) start = start + count := by
        intro start
        induction count generalizing start with
        | zero => rfl
        | succ count ih =>
            rw [List.replicate_succ, List.foldl_cons, ih]
            omega
      rw [List.replicate_succ, sum?, hfold, if_neg (Nat.succ_ne_zero count), Nat.add_comm]

theorem amountsOf_ones (name : String) (names : List String) :
    amountsOf name (names.map fun key => (key, 1)) = List.replicate (names.count name) 1 := by
  induction names with
  | nil => rfl
  | cons key rest ih =>
      have hcons : amountsOf name ((key :: rest).map fun key => (key, 1)) =
          (if key = name then [1] else []) ++ amountsOf name (rest.map fun key => (key, 1)) := by
        by_cases hkey : key = name
        · simp [amountsOf, hkey]
        · simp [amountsOf, hkey]
      rw [hcons, ih]
      by_cases hkey : key = name
      · simp [hkey, List.replicate_succ]
      · simp [hkey]

theorem mem_counts_iff {names : List String} {name : String} {total : Nat} :
    (name, total) ∈ totals (names.map fun key => (key, 1)) ↔
      total = names.count name ∧ total ≠ 0 := by
  rw [mem_totals_iff, amountsOf_ones, sum?_replicate_one]
  by_cases hzero : names.count name = 0
  · simp only [if_pos hzero, reduceCtorEq, false_iff, not_and, not_not]
    exact fun heq => heq.trans hzero
  · simp only [if_neg hzero, Option.some.injEq]
    constructor
    · intro heq
      exact ⟨heq.symm, heq ▸ hzero⟩
    · exact fun h => h.1.symm

end Tally

namespace Strategy

section Names

variable {α : Type} {votes : List (Vote α)}

/-- More than half of the names are this one. -/
def Majority (names : List String) (name : String) : Prop :=
  names.length < 2 * names.count name

theorem count_add_count_le {names : List String} {name other : String} (distinct : name ≠ other) :
    names.count name + names.count other ≤ names.length := by
  have hother : names.count other ≤ names.countP fun key => decide ¬(key == name) = true := by
    apply List.countP_mono_left
    intro key _ hkey
    rw [eq_of_beq hkey]
    simpa using distinct.symm
  have hsplit : names.length = names.count name +
      names.countP fun key => decide ¬(key == name) = true :=
    List.length_eq_countP_add_countP (· == name)
  omega

theorem Majority.unique {names : List String} {name other : String}
    (hname : Majority names name) (hother : Majority names other) : name = other := by
  by_contra hne
  have hle : names.count name + names.count other ≤ names.length := count_add_count_le hne
  rw [Majority] at hname hother
  omega

theorem Majority.mem {names : List String} {name : String} (h : Majority names name) :
    name ∈ names := by
  rw [Majority] at h
  apply List.count_pos_iff.mp
  omega

theorem count_le_length (votes : List (Vote α)) (name : String) :
    (votes.map Vote.decision).count name ≤ votes.length := by
  rw [← List.length_map (f := Vote.decision)]
  exact List.count_le_length

theorem length_pos_of_named {name : String} (named : name ∈ votes.map Vote.decision) :
    0 < votes.length := by
  rw [← List.length_map (f := Vote.decision)]
  exact List.length_pos_of_mem named

theorem majority_votes_iff {name : String} :
    Majority (votes.map Vote.decision) name ↔
      votes.length < 2 * (votes.map Vote.decision).count name := by
  rw [Majority, List.length_map]

end Names

variable {α : Type} [Amount α] {votes : List (Vote α)}

def fallback? : Strategy α → Option String
  | threshold _ fallback => some fallback
  | _ => none

def agreedOutcome (votes : List (Vote α)) (name : String) : Outcome α :=
  ⟨name, Amount.ofCount ((votes.map Vote.decision).count name) / Amount.ofCount votes.length,
    .majority name ((votes.map Vote.decision).count name) votes.length⟩

def dividedOutcome (votes : List (Vote α)) : Outcome α :=
  ⟨inconclusive, Amount.ofCount 0, .noMajority votes.length⟩

theorem exists_byMajority_eq (occupied : votes ≠ []) :
    ∃ name,
      (∀ other, (votes.map Vote.decision).count other ≤ (votes.map Vote.decision).count name) ∧
      byMajority votes =
        some (if votes.length < 2 * (votes.map Vote.decision).count name then
          agreedOutcome votes name else dividedOutcome votes) := by
  have hcounts : votes.map (fun vote => (vote.decision, 1)) =
      (votes.map Vote.decision).map fun name => (name, 1) := by
    rw [List.map_map]
    rfl
  cases hfirst : Tally.first Prod.snd (Tally.totals
      (votes.map fun vote => (vote.decision, 1))) with
  | none =>
      rw [Tally.first_eq_none_iff, Tally.totals_eq_nil_iff, List.map_eq_nil_iff] at hfirst
      exact absurd hfirst occupied
  | some group =>
      obtain ⟨name, agreeing⟩ := group
      have hgroup := Tally.mem_of_first hfirst
      rw [hcounts] at hgroup
      obtain ⟨rfl, -⟩ := Tally.mem_counts_iff.mp hgroup
      refine ⟨name, ?_, by rw [byMajority, hfirst]; rfl⟩
      intro other
      by_cases hzero : (votes.map Vote.decision).count other = 0
      · rw [hzero]
        exact Nat.zero_le _
      · have hmem := Tally.mem_counts_iff.mpr ⟨rfl, hzero⟩
        rw [← hcounts] at hmem
        exact Tally.le_of_first hfirst _ hmem

theorem byMajority_of_majority {name : String}
    (agreed : Majority (votes.map Vote.decision) name) :
    byMajority votes = some (agreedOutcome votes name) := by
  have occupied : votes ≠ [] := List.ne_nil_of_length_pos (length_pos_of_named agreed.mem)
  obtain ⟨greatest, hle, hfound⟩ := exists_byMajority_eq occupied
  have hgreatest : Majority (votes.map Vote.decision) greatest :=
    agreed.trans_le (Nat.mul_le_mul_left 2 (hle name))
  obtain rfl := agreed.unique hgreatest
  rw [hfound, if_pos (majority_votes_iff.mp agreed)]

theorem byMajority_of_no_majority (occupied : votes ≠ [])
    (divided : ∀ name, ¬ Majority (votes.map Vote.decision) name) :
    byMajority votes = some (dividedOutcome votes) := by
  obtain ⟨greatest, -, hfound⟩ := exists_byMajority_eq occupied
  rw [hfound, if_neg (mt majority_votes_iff.mpr (divided greatest))]

/-- The consensus chooses the decision of a majority, and is inconclusive without one. -/
theorem byMajority_cases {outcome : Outcome α} (found : byMajority votes = some outcome) :
    (∃ name, Majority (votes.map Vote.decision) name ∧ outcome = agreedOutcome votes name) ∨
      (∀ name, ¬ Majority (votes.map Vote.decision) name) ∧ outcome = dividedOutcome votes := by
  by_cases agreed : ∃ name, Majority (votes.map Vote.decision) name
  · obtain ⟨name, hname⟩ := agreed
    rw [byMajority_of_majority hname, Option.some.injEq] at found
    exact Or.inl ⟨name, hname, found.symm⟩
  · have occupied : votes ≠ [] := by
      rintro rfl
      cases found
    rw [byMajority_of_no_majority occupied (not_exists.mp agreed), Option.some.injEq] at found
    exact Or.inr ⟨not_exists.mp agreed, found.symm⟩

theorem decision_mem_of_byWeight {outcome : Outcome α}
    (found : byWeight votes = some outcome) : outcome.decision ∈ votes.map Vote.decision := by
  rw [byWeight, Option.bind_eq_some_iff] at found
  obtain ⟨total, -, hfound⟩ := found
  obtain ⟨group, hfirst, rfl⟩ := Option.map_eq_some_iff.mp hfound
  have hname := Tally.name_mem_of_mem_totals (Tally.mem_of_first hfirst)
  rw [List.map_map] at hname
  exact hname

/-- Where the consensus has a majority to follow, every strategy chooses a decision that is voted
for or its fallback. -/
theorem decision_mem_named {strategy : Strategy α} {outcome : Outcome α}
    (found : strategy.outcome votes = some outcome)
    (agreed : strategy = .consensus → ∃ name, Majority (votes.map Vote.decision) name) :
    outcome.decision ∈ votes.map Vote.decision ++ strategy.fallback?.toList := by
  cases strategy with
  | weightedAverage => exact List.mem_append_left _ (decision_mem_of_byWeight found)
  | maxWeight =>
      obtain ⟨vote, hfirst, rfl⟩ := Option.map_eq_some_iff.mp found
      exact List.mem_append_left _ (List.mem_map_of_mem (Tally.mem_of_first hfirst))
  | consensus =>
      refine List.mem_append_left _ ?_
      rcases byMajority_cases found with ⟨name, hmajority, rfl⟩ | ⟨hnone, -⟩
      · exact hmajority.mem
      · obtain ⟨name, hname⟩ := agreed rfl
        exact absurd hname (hnone name)
  | threshold cutoff fallback =>
      obtain ⟨heaviest, hheaviest, rfl⟩ := Option.map_eq_some_iff.mp found
      have hdecision := decision_mem_of_byWeight hheaviest
      split
      · exact List.mem_append_left _ hdecision
      · exact List.mem_append_right _ List.mem_cons_self

end Strategy
end Verdict
