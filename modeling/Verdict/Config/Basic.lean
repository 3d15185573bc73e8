import Verdict.Decision.Settings
import Verdict.Time.Duration

/-!
# Configurations

A configuration chooses the strategy, the time limit of a call, whether traces are kept, and how
many records the audit queue holds.
-/

namespace Verdict

structure Config where
  strategy : Strategy Float
  timeLimit : Duration
  trace : Bool
  queueCapacity : Nat

inductive ConfigError where
  | noTime
  | noCapacity
  | cutoffOutOfRange (cutoff : Float)

def ConfigError.message : ConfigError → String
  | noTime => "Invalid configuration: decide_timeout must be greater than zero"
  | noCapacity => "Invalid configuration: audit.queue_capacity must be at least 1"
  | cutoffOutOfRange cutoff =>
    "Invalid configuration: strategy.threshold must be within [0, 1], got " ++
      FloatNotation.plain.text cutoff

namespace Config

/-- The configuration in which everything is left out. -/
def default : Config :=
  { strategy := .weightedAverage
    timeLimit := .ofSeconds 5
    trace := false
    queueCapacity := 1024 }

/-- The first reason why a configuration cannot be used, if there is one. -/
def check (config : Config) : Except ConfigError Config :=
  if config.timeLimit.nanos = 0 then .error .noTime
  else if config.queueCapacity = 0 then .error .noCapacity
  else
    match config.strategy with
    | .threshold cutoff _ =>
      if 0 ≤ cutoff && cutoff ≤ 1 then .ok config else .error (.cutoffOutOfRange cutoff)
    | _ => .ok config

def toJson (config : Config) : Json :=
  .object [("strategy", config.strategy.toJson), ("decide_timeout", .string config.timeLimit.text),
    ("trace", .bool config.trace),
    ("audit", .object [("queue_capacity", .ofInt config.queueCapacity)])]

/-! ## Drafts -/

def capacityName : String := "queue_capacity"

/-- The settings that a document gives. -/
structure Draft where
  strategy : Option (Strategy Float)
  timeLimit : Option Duration
  trace : Option Bool
  queueCapacity : Option Nat

def Draft.empty : Draft := ⟨none, none, none, none⟩

def ofDraft (draft : Draft) : Config :=
  { strategy := draft.strategy.getD default.strategy
    timeLimit := draft.timeLimit.getD default.timeLimit
    trace := draft.trace.getD default.trace
    queueCapacity := draft.queueCapacity.getD default.queueCapacity }

end Config
end Verdict
