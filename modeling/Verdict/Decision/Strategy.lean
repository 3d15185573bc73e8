import Verdict.Decision.Tally

/-!
# Strategies

A strategy makes one decision out of the votes of the evaluators.  It has no answer exactly for no
votes.
-/

namespace Verdict

/-- A decision that an evaluator votes for, with its weight and the name of the evaluator. -/
structure Vote (α : Type) where
  decision : String
  weight : α
  source : String

inductive Strategy (α : Type) where
  /-- The decision with the greatest sum of weights. -/
  | weightedAverage
  /-- The decision of the single heaviest vote. -/
  | maxWeight
  /-- The decision of more than half of the votes. -/
  | consensus
  /-- The decision with the greatest sum of weights if its share exceeds a cutoff, and otherwise a
  fallback. -/
  | threshold (cutoff : α) (fallback : String)

inductive Finding (α : Type) where
  | heaviestSum (decision : String) (sum total : α)
  | heaviestVote (vote : Vote α)
  | majority (decision : String) (agreeing votes : Nat)
  | noMajority (votes : Nat)
  | exceeded (decision : String) (share cutoff : α)
  | notExceeded (decision : String) (share cutoff : α) (fallback : String)

structure Outcome (α : Type) where
  decision : String
  confidence : α
  finding : Finding α

namespace Strategy

/-- The decision where no strict majority agrees. -/
def inconclusive : String := "inconclusive"

def name {α : Type} : Strategy α → String
  | weightedAverage => "weighted_average"
  | maxWeight => "max_weight"
  | consensus => "consensus"
  | threshold _ _ => "threshold"

variable {α : Type} [Amount α]

/-- A part of a total, zero if the total is not positive. -/
def share (part total : α) : α :=
  if Amount.ofCount 0 < total then part / total else Amount.ofCount 0

def byWeight (votes : List (Vote α)) : Option (Outcome α) :=
  let totals := Tally.totals (votes.map fun vote => (vote.decision, vote.weight))
  (Tally.sum? (totals.map Prod.snd)).bind fun total =>
    (Tally.first Prod.snd totals).map fun (decision, sum) =>
      ⟨decision, share sum total, .heaviestSum decision sum total⟩

def byHeaviest (votes : List (Vote α)) : Option (Outcome α) :=
  (Tally.first Vote.weight votes).map fun vote =>
    ⟨vote.decision, vote.weight, .heaviestVote vote⟩

def byMajority (votes : List (Vote α)) : Option (Outcome α) :=
  let counts := Tally.totals (votes.map fun vote => (vote.decision, 1))
  (Tally.first Prod.snd counts).map fun (decision, agreeing) =>
    if votes.length < 2 * agreeing then
      ⟨decision, Amount.ofCount agreeing / Amount.ofCount votes.length,
        .majority decision agreeing votes.length⟩
    else ⟨inconclusive, Amount.ofCount 0, .noMajority votes.length⟩

def byThreshold (cutoff : α) (fallback : String) (votes : List (Vote α)) : Option (Outcome α) :=
  (byWeight votes).map fun outcome =>
    if cutoff < outcome.confidence then
      ⟨outcome.decision, outcome.confidence,
        .exceeded outcome.decision outcome.confidence cutoff⟩
    else
      ⟨fallback, outcome.confidence,
        .notExceeded outcome.decision outcome.confidence cutoff fallback⟩

def outcome : Strategy α → List (Vote α) → Option (Outcome α)
  | weightedAverage => byWeight
  | maxWeight => byHeaviest
  | consensus => byMajority
  | threshold cutoff fallback => byThreshold cutoff fallback

def clamp (value : α) : α :=
  if value < Amount.ofCount 0 then Amount.ofCount 0
  else if Amount.ofCount 1 < value then Amount.ofCount 1
  else value

end Strategy
end Verdict
