import Verdict.Proofs.Decision.Leading

/-!
# Strategies over other amounts

A strategy uses its amounts by sums, comparisons, counts and quotients alone.  Of quotients only
those by positive amounts have to be kept: no strategy divides by anything else.
-/

namespace Verdict

section Maps

variable {α β : Type}

def Vote.map (h : α → β) (vote : Vote α) : Vote β :=
  ⟨vote.decision, h vote.weight, vote.source⟩

def Strategy.map (h : α → β) : Strategy α → Strategy β
  | weightedAverage => weightedAverage
  | maxWeight => maxWeight
  | consensus => consensus
  | threshold cutoff fallback => threshold (h cutoff) fallback

def Finding.map (h : α → β) : Finding α → Finding β
  | heaviestSum decision sum total => heaviestSum decision (h sum) (h total)
  | heaviestVote vote => heaviestVote (vote.map h)
  | majority decision agreeing votes => majority decision agreeing votes
  | noMajority votes => noMajority votes
  | exceeded decision share cutoff => exceeded decision (h share) (h cutoff)
  | notExceeded decision share cutoff fallback =>
    notExceeded decision (h share) (h cutoff) fallback

def Outcome.map (h : α → β) (outcome : Outcome α) : Outcome β :=
  ⟨outcome.decision, h outcome.confidence, outcome.finding.map h⟩

end Maps

/-- A translation keeps what strategies use of amounts. -/
structure Translation {α β : Type} [Amount α] [Amount β] (h : α → β) : Prop where
  add : ∀ a b, h (a + b) = h a + h b
  le_iff : ∀ a b, h a ≤ h b ↔ a ≤ b
  lt_iff : ∀ a b, h a < h b ↔ a < b
  ofCount : ∀ count, h (Amount.ofCount count) = Amount.ofCount count
  ofCount_pos : ∀ count, 0 < count → (Amount.ofCount 0 : α) < Amount.ofCount count
  div : ∀ a b, Amount.ofCount 0 < b → h (a / b) = h a / h b

namespace Tally

variable {α β γ δ : Type}

theorem add_map [Add α] [Add β] {h : α → β} (hadd : ∀ a b, h (a + b) = h a + h b)
    (name : String) (amount : α) (groups : List (String × α)) :
    add name (h amount) (groups.map (Prod.map id h)) =
      (add name amount groups).map (Prod.map id h) := by
  induction groups with
  | nil => rfl
  | cons group rest ih =>
      obtain ⟨key, total⟩ := group
      by_cases hkey : key = name
      · simp [add, hkey, hadd]
      · simp [add, hkey, ih]

theorem totals_map [Add α] [Add β] {h : α → β} (hadd : ∀ a b, h (a + b) = h a + h b)
    (votes : List (String × α)) :
    totals (votes.map (Prod.map id h)) = (totals votes).map (Prod.map id h) := by
  induction votes using List.reverseRecOn with
  | nil => rfl
  | append_singleton earlier vote ih =>
      rw [List.map_append, List.map_singleton, totals_append_singleton, totals_append_singleton, ih]
      exact add_map hadd vote.1 vote.2 (totals earlier)

theorem sum?_map [Add α] [Add β] {h : α → β} (hadd : ∀ a b, h (a + b) = h a + h b)
    (amounts : List α) : sum? (amounts.map h) = (sum? amounts).map h := by
  induction amounts using List.reverseRecOn with
  | nil => rfl
  | append_singleton earlier amount ih =>
      rw [List.map_append, List.map_singleton, sum?_append_singleton, sum?_append_singleton, ih]
      cases sum? earlier with
      | none => rfl
      | some total => exact congrArg some (hadd total amount).symm

theorem first_map [LE α] [DecidableLE α] [LE β] [DecidableLE β] {measure : γ → α}
    {other : δ → β} {f : γ → δ} (hle : ∀ a b, other (f a) ≤ other (f b) ↔ measure a ≤ measure b)
    (entries : List γ) : first other (entries.map f) = (first measure entries).map f := by
  induction entries using List.reverseRecOn with
  | nil => rfl
  | append_singleton earlier entry ih =>
      rw [List.map_append, List.map_singleton, first_append_singleton, first_append_singleton, ih]
      cases first measure earlier with
      | none => rfl
      | some held =>
          simp only [Option.map_some]
          by_cases hentry : measure entry ≤ measure held
          · rw [if_pos hentry, if_pos ((hle entry held).mpr hentry), Option.map_some]
          · rw [if_neg hentry, if_neg (mt (hle entry held).mp hentry), Option.map_some]

end Tally

namespace Strategy

variable {α β : Type} [Amount α] [Amount β] {h : α → β} (translation : Translation h)

include translation

theorem share_map (part total : α) : share (h part) (h total) = h (share part total) := by
  have hpos : (Amount.ofCount 0 : β) < h total ↔ (Amount.ofCount 0 : α) < total := by
    rw [← translation.ofCount, translation.lt_iff]
  by_cases htotal : (Amount.ofCount 0 : α) < total
  · rw [share, share, if_pos htotal, if_pos (hpos.mpr htotal), translation.div _ _ htotal]
  · rw [share, share, if_neg htotal, if_neg (mt hpos.mp htotal), translation.ofCount]

theorem byWeight_map (votes : List (Vote α)) :
    byWeight (votes.map (Vote.map h)) = (byWeight votes).map (Outcome.map h) := by
  have hballots : (votes.map (Vote.map h)).map (fun vote => (vote.decision, vote.weight)) =
      (votes.map fun vote => (vote.decision, vote.weight)).map (Prod.map id h) := by
    rw [List.map_map, List.map_map]
    rfl
  have hamounts : ∀ groups : List (String × α),
      (groups.map (Prod.map id h)).map Prod.snd = (groups.map Prod.snd).map h := by
    intro groups
    rw [List.map_map, List.map_map]
    rfl
  have hfirst : ∀ groups : List (String × α),
      Tally.first Prod.snd (groups.map (Prod.map id h)) =
        (Tally.first Prod.snd groups).map (Prod.map id h) := by
    intro groups
    exact Tally.first_map (fun a b => translation.le_iff a.2 b.2) groups
  rw [byWeight, byWeight, hballots, Tally.totals_map translation.add, hamounts,
    Tally.sum?_map translation.add, hfirst]
  cases Tally.sum? ((Tally.totals
      (votes.map fun vote => (vote.decision, vote.weight))).map Prod.snd) with
  | none => rfl
  | some total =>
      cases Tally.first Prod.snd (Tally.totals
          (votes.map fun vote => (vote.decision, vote.weight))) with
      | none => rfl
      | some group =>
          simp only [Option.map_some, Option.bind_some, Outcome.map, Finding.map, Prod.map_fst,
            Prod.map_snd, id_eq, share_map translation]

theorem byHeaviest_map (votes : List (Vote α)) :
    byHeaviest (votes.map (Vote.map h)) = (byHeaviest votes).map (Outcome.map h) := by
  have hfirst : Tally.first Vote.weight (votes.map (Vote.map h)) =
      (Tally.first Vote.weight votes).map (Vote.map h) :=
    Tally.first_map (fun a b => translation.le_iff a.weight b.weight) votes
  rw [byHeaviest, byHeaviest, hfirst, Option.map_map, Option.map_map]
  rfl

theorem byMajority_map (votes : List (Vote α)) :
    byMajority (votes.map (Vote.map h)) = (byMajority votes).map (Outcome.map h) := by
  have hnames : (votes.map (Vote.map h)).map Vote.decision = votes.map Vote.decision := by
    rw [List.map_map]
    rfl
  by_cases agreed : ∃ name, Majority (votes.map Vote.decision) name
  · obtain ⟨name, hname⟩ := agreed
    have hmapped : Majority ((votes.map (Vote.map h)).map Vote.decision) name := by rwa [hnames]
    have hvotes := translation.ofCount_pos _ (length_pos_of_named hname.mem)
    rw [byMajority_of_majority hname, byMajority_of_majority hmapped, agreedOutcome, hnames,
      List.length_map, Option.map_some, agreedOutcome, Outcome.map, translation.div _ _ hvotes,
      translation.ofCount, translation.ofCount]
    rfl
  · by_cases occupied : votes = []
    · subst occupied
      rfl
    · have hoccupied : votes.map (Vote.map h) ≠ [] := mt List.map_eq_nil_iff.mp occupied
      have divided := not_exists.mp agreed
      have hdivided : ∀ name, ¬ Majority ((votes.map (Vote.map h)).map Vote.decision) name := by
        rwa [hnames]
      rw [byMajority_of_no_majority occupied divided, byMajority_of_no_majority hoccupied hdivided,
        dividedOutcome, List.length_map, Option.map_some, dividedOutcome, Outcome.map,
        translation.ofCount]
      rfl

theorem byThreshold_map (cutoff : α) (fallback : String) (votes : List (Vote α)) :
    byThreshold (h cutoff) fallback (votes.map (Vote.map h)) =
      (byThreshold cutoff fallback votes).map (Outcome.map h) := by
  rw [byThreshold, byThreshold, byWeight_map translation, Option.map_map, Option.map_map]
  congr 1
  funext outcome
  have hexceeded : h cutoff < (outcome.map h).confidence ↔ cutoff < outcome.confidence :=
    translation.lt_iff cutoff outcome.confidence
  by_cases hcutoff : cutoff < outcome.confidence
  · simp only [Function.comp_apply, if_pos hcutoff, if_pos (hexceeded.mpr hcutoff)]
    rfl
  · simp only [Function.comp_apply, if_neg hcutoff, if_neg (mt hexceeded.mp hcutoff)]
    rfl

/-- The outcome of translated votes is the translated outcome. -/
theorem outcome_map (strategy : Strategy α) (votes : List (Vote α)) :
    (strategy.map h).outcome (votes.map (Vote.map h)) =
      (strategy.outcome votes).map (Outcome.map h) := by
  cases strategy with
  | weightedAverage => exact byWeight_map translation votes
  | maxWeight => exact byHeaviest_map translation votes
  | consensus => exact byMajority_map translation votes
  | threshold cutoff fallback => exact byThreshold_map translation cutoff fallback votes

end Strategy
end Verdict
