import Verdict.Audit.Sink
import Verdict.Decision.Settings
import Verdict.Evaluator.Basic

/-!
# Agents

An agent asks its evaluators in order, lets its strategy decide between their evaluations and hands
a record of every decision to its sink.
-/

namespace Verdict

inductive AgentError where
  | noEvaluators
  | invalidCutoff (cutoff : Float)
  | emptyFallback

def AgentError.message : AgentError → String
  | noEvaluators => "Agent requires at least one evaluator"
  | invalidCutoff cutoff =>
    "Threshold must be within [0, 1], got " ++ FloatNotation.plain.text cutoff
  | emptyFallback => "Threshold fallback decision must not be empty"

/-- Evaluators, a strategy and where to record what was decided. -/
structure Agent (σ : Type) where
  evaluators : List Evaluator
  strategy : Strategy Float
  sink : Option (Sink AuditRecord σ)
  /-- Whether traces are kept on every call. -/
  tracing : Bool

namespace Agent

variable {σ : Type}

def checkStrategy : Strategy Float → Except AgentError Unit
  | .threshold cutoff fallback =>
    if !(cutoff.isFinite && 0 ≤ cutoff && cutoff ≤ 1) then .error (.invalidCutoff cutoff)
    else if fallback.isEmpty then .error .emptyFallback
    else .ok ()
  | _ => .ok ()

/-- An agent, if it has an evaluator and its strategy can be used. -/
def make (evaluators : List Evaluator) (strategy : Strategy Float)
    (sink : Option (Sink AuditRecord σ)) (tracing : Bool) : Except AgentError (Agent σ) :=
  if evaluators.isEmpty then .error .noEvaluators
  else (checkStrategy strategy).map fun _ => ⟨evaluators, strategy, sink, tracing⟩

def names (agent : Agent σ) : List String :=
  agent.evaluators.map Evaluator.name

/-! ## Deciding -/

/-- The answer of one evaluator; traces are added only if they are to be kept. -/
def consult (tracing : Bool) (context : Context) (traces : RuleTraces) (evaluator : Evaluator) :
    Except Breakdown (Option Evaluation × RuleTraces) :=
  if tracing then evaluator.evaluateTraced context traces
  else (evaluator.evaluate context).map fun evaluation => (evaluation, traces)

/-- The evaluations of all evaluators that have an opinion, in order, and all traces. -/
def consultAll (tracing : Bool) (context : Context) :
    List Evaluator → RuleTraces → Except Breakdown (List Evaluation × RuleTraces)
  | [], traces => .ok ([], traces)
  | evaluator :: rest, traces => do
    let (evaluation, traces) ← consult tracing context traces evaluator
    let (evaluations, traces) ← consultAll tracing context rest traces
    return (evaluation.toList ++ evaluations, traces)

def run (agent : Agent σ) (tracing : Bool) (context : Context) :
    Except Breakdown (Decision × RuleTraces) :=
  (consultAll tracing context agent.evaluators []).map fun (evaluations, traces) =>
    (Decision.score agent.strategy evaluations, traces)

def audit (agent : Agent σ) (record : AuditRecord) (state : σ) : σ :=
  match agent.sink with
  | some sink => (sink record state).2
  | none => state

/-- Decides with or without traces and records the decision at an instant.  An evaluator that
breaks down leaves nothing to record. -/
def decideWith (agent : Agent σ) (tracing : Bool) (now : Instant) (context : Context)
    (feedback : Option Json) (state : σ) : Except Breakdown (Decision × RuleTraces) × σ :=
  match agent.run tracing context with
  | .error breakdown => (.error breakdown, state)
  | .ok (decision, traces) =>
    (.ok (decision, traces), agent.audit ⟨decision, traces, feedback, now⟩ state)

def decide (agent : Agent σ) (now : Instant) (context : Context) (feedback : Option Json)
    (state : σ) : Except Breakdown Decision × σ :=
  let (result, state) := agent.decideWith agent.tracing now context feedback state
  (result.map Prod.fst, state)

/-- Decides and gives the traces back, whether the agent keeps them or not. -/
def decideTraced (agent : Agent σ) (now : Instant) (context : Context) (feedback : Option Json)
    (state : σ) : Except Breakdown (Decision × RuleTraces) × σ :=
  agent.decideWith true now context feedback state

/-! ## Time -/

/-- How long a decision takes: evaluators are asked one after another, and none behind one that
breaks down. -/
def delay (context : Context) : List Evaluator → Duration
  | [] => .zero
  | evaluator :: rest =>
    if evaluator.breaksDown context then evaluator.delay
    else evaluator.delay + delay context rest

/-! ## Diagnostics -/

def description (agent : Agent σ) : String :=
  let flag (value : Bool) : String := if value then "true" else "false"
  "Agent \x7b evaluators: " ++ Text.quotedList agent.names ++ ", strategy: " ++
    agent.strategy.description ++ ", audit: " ++ flag agent.sink.isSome ++ ", trace: " ++
    flag agent.tracing ++ " \x7d"

end Agent
end Verdict
