import Verdict.Decision.Strategy
import Verdict.Json.Value
import Verdict.Decimal.Notation
import Verdict.Text.Quoted

/-!
# Strategies as settings

A strategy is chosen by the name of its type; a threshold may be given a cutoff and a fallback.
Settings come as named values or as a list in order.
-/

namespace Verdict

/-- What is given for a strategy besides its type. -/
inductive Settings where
  /-- Named values; a key that is not a name has none. -/
  | named (entries : List (Option String × Json))
  /-- Values in the order of their names. -/
  | listed (items : List Json)

namespace Settings

def valuesOf (name : String) (entries : List (Option String × Json)) : List Json :=
  entries.filterMap fun (key, value) => if key = some name then some value else none

/-- The values under two names, each of which may be given once or left out. -/
def pair? (first second : String) : Settings → Option (Option Json × Option Json)
  | named entries =>
    if entries.any fun (key, _) => key.isNone then none
    else
      match valuesOf first entries, valuesOf second entries with
      | [], [] => some (none, none)
      | [a], [] => some (some a, none)
      | [], [b] => some (none, some b)
      | [a], [b] => some (some a, some b)
      | _, _ => none
  | listed [] => some (none, none)
  | listed [a] => some (some a, none)
  | listed [a, b] => some (some a, some b)
  | listed _ => none

/-- Whether nothing has to be taken from the settings. -/
def isIgnorable : Settings → Bool
  | named _ => true
  | listed items => items.isEmpty

end Settings

namespace Strategy

def defaultCutoff : Float := 0.7

def defaultFallback : String := "review"

def defaultThreshold : Strategy Float := threshold defaultCutoff defaultFallback

def types : List String := ["weighted_average", "max_weight", "consensus", "threshold"]

def ofSettings? (type : String) (settings : Settings) : Option (Strategy Float) :=
  match type with
  | "weighted_average" => if settings.isIgnorable then some weightedAverage else none
  | "max_weight" => if settings.isIgnorable then some maxWeight else none
  | "consensus" => if settings.isIgnorable then some consensus else none
  | "threshold" => do
    let (cutoff, fallback) ← settings.pair? "threshold" "fallback"
    let cutoff ← (cutoff.map Json.float?).getD (some defaultCutoff)
    let fallback ← (fallback.map Json.string?).getD (some defaultFallback)
    return threshold cutoff fallback
  | _ => none

def typeName : String := "type"

def ofJson? : Json → Option (Strategy Float)
  | .object fields => do
    let type ← (← Fields.get? fields typeName).string?
    let others := fields.filter fun (name, _) => name ≠ typeName
    ofSettings? type (.named (others.map fun (name, value) => (some name, value)))
  | .array (type :: items) => do ofSettings? (← type.string?) (.listed items)
  | _ => none

def toJson (strategy : Strategy Float) : Json :=
  match strategy with
  | threshold cutoff fallback =>
    .object [(typeName, .string strategy.name), ("threshold", .ofFloat cutoff),
      ("fallback", .string fallback)]
  | _ => .object [(typeName, .string strategy.name)]

/-- Whether two strategies are equal, cutoffs being compared as numbers. -/
def equal : Strategy Float → Strategy Float → Bool
  | threshold a fallback, threshold b other => a == b && fallback == other
  | a, b => a.name == b.name && a.name != "threshold"

def description : Strategy Float → String
  | weightedAverage => "WeightedAverage"
  | maxWeight => "MaxWeight"
  | consensus => "Consensus"
  | threshold cutoff fallback =>
    "Threshold \x7b threshold: " ++ FloatNotation.precise.text cutoff ++ ", fallback: " ++
      Text.quoted fallback ++ " \x7d"

end Strategy
end Verdict
