import Verdict.Decision.Evaluation
import Verdict.Decision.Strategy

/-!
# Decisions

`Decision.score` lets a strategy decide between evaluations and explains the result.  Two decisions
are no policy of anyone: the one for no evaluations at all and the one for no majority.
-/

namespace Verdict

structure Decision where
  decision : String
  confidence : Float
  explanations : List String
  evaluations : List Evaluation

def Evaluation.vote (evaluation : Evaluation) : Vote Float :=
  ⟨evaluation.decision, evaluation.weight, evaluation.source⟩

def Finding.line : Finding Float → String
  | heaviestSum decision sum total =>
    "weighted average: " ++ decision ++ " with " ++ Decimal.fixed 2 sum ++ " of " ++
      Decimal.fixed 2 total ++ " total weight"
  | heaviestVote vote =>
    "max weight: " ++ vote.decision ++ " from " ++ vote.source ++ " (weight " ++
      Decimal.fixed 2 vote.weight ++ ")"
  | majority decision agreeing votes =>
    "consensus: " ++ Nat.repr agreeing ++ " of " ++ Nat.repr votes ++ " evaluations agree on " ++
      decision
  | noMajority votes =>
    "consensus: no strict majority among " ++ Nat.repr votes ++ " evaluations"
  | exceeded decision share cutoff =>
    "threshold: " ++ decision ++ " confidence " ++ Decimal.fixed 2 share ++ " exceeds " ++
      Decimal.fixed 2 cutoff
  | notExceeded decision share cutoff fallback =>
    "threshold: " ++ decision ++ " confidence " ++ Decimal.fixed 2 share ++
      " does not exceed " ++ Decimal.fixed 2 cutoff ++ ", falling back to " ++ fallback

namespace Decision

/-- The decision where there is nothing to score. -/
def none : Decision := ⟨"no_decision", 0, ["No evaluations to score"], []⟩

/-- Whether a decision is one that an evaluation or a fallback named. -/
def isConclusive (decision : Decision) : Bool :=
  decision.decision != none.decision && decision.decision != Strategy.inconclusive

def score (strategy : Strategy Float) (evaluations : List Evaluation) : Decision :=
  match strategy.outcome (evaluations.map Evaluation.vote) with
  | .none => none
  | some outcome =>
    { decision := outcome.decision
      confidence := Strategy.clamp outcome.confidence
      explanations := evaluations.map Evaluation.line ++ [outcome.finding.line]
      evaluations := evaluations }

def toJson (decision : Decision) : Json :=
  .object [("decision", .string decision.decision), ("confidence", .ofFloat decision.confidence),
    ("explanations", .array (decision.explanations.map .string)),
    ("evaluations", .array (decision.evaluations.map Evaluation.toJson))]

end Decision
end Verdict
