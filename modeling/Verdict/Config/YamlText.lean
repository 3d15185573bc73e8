import Verdict.Config.Document
import Verdict.Yaml.Value

/-!
# Configurations from YAML text

The settings are the entries of a mapping.  What is given for a strategy is read by the meaning of
its scalars, the other settings by their texts.
-/

namespace Verdict.Config

open Yaml (Names Node Resolving Meaning)

/-- The entries of a mapping; where nothing is written there are none. -/
def entriesOf (names : Names) (node : Node) : Resolving (List (Node × Node)) := do
  let resolved ← names.resolve node
  if resolved.isAbsent then return []
  else
    match resolved with
    | .mapping _ entries => return entries
    | _ => failure

def namedEntries (names : Names) (entries : List (Node × Node)) :
    Resolving (List (String × Node)) :=
  entries.mapM fun (key, value) => do return (← names.text key, value)

/-- The value under a name that may be given once. -/
def once (name : String) (entries : List (String × Node)) : Resolving (Option Node) :=
  match entries.filter fun entry => entry.1 == name with
  | [] => return none
  | [entry] => return some entry.2
  | _ => failure

def orFail {α : Type} : Option α → Resolving α
  | some value => return value
  | none => failure

def setting {α : Type} (read : Node → Resolving α) : Option Node → Resolving (Option α)
  | none => return none
  | some node => do return some (← read node)

/-- The text of a scalar that a tag or its style allows to be more than a text. -/
def openText (names : Names) (tagName : String) (node : Node) : Resolving String := do
  match ← names.resolve node with
  | .scalar tag text style =>
    if style == .plain || (style == .literal && tag == some (Meaning.coreTag tagName)) then
      return text
    else failure
  | _ => failure

def boolOf (names : Names) (node : Node) : Resolving Bool := do
  orFail (Meaning.bool? (← openText names "bool" node))

def countOf (names : Names) (node : Node) : Resolving Nat := do
  orFail (Meaning.unsigned? (powerOfTwo 64) (← openText names "int" node).toList)

def durationOf (names : Names) (node : Node) : Resolving Duration := do
  orFail (Duration.ofText? (← names.text node))

/-! ## Strategies -/

/-- The name of a key: a text, or the place of a name in the order of names. -/
def keyName : Json → Option String
  | .string name => some name
  | .number (.int 0) => some "threshold"
  | .number (.int 1) => some "fallback"
  | .number (.int place) => if 0 ≤ place then some "" else none
  | _ => none

def strategyEntries (names : Names) (depth : Nat) (type : Option String)
    (given : List (Option String × Json)) :
    List (Node × Node) → Resolving (String × List (Option String × Json))
  | [] => do return (← orFail type, given.reverse)
  | (key, value) :: rest => do
    let key ← names.content depth key
    match key with
    | .string name =>
      if name = Strategy.typeName then
        if type.isSome then failure
        else strategyEntries names depth (some (← names.text value)) given rest
      else
        let value ← names.content depth value
        strategyEntries names depth type ((some name, value) :: given) rest
    | key =>
      let value ← names.content depth value
      strategyEntries names depth type ((keyName key, value) :: given) rest

def strategyOf (names : Names) (depth : Nat) (node : Node) : Resolving (Strategy Float) := do
  match ← names.resolve node with
  | .mapping tag entries =>
    if depth = 0 || Meaning.isLocalTag tag then failure
    else
      let (type, given) ← strategyEntries names (depth - 1) none [] entries
      orFail (Strategy.ofSettings? type (.named given))
  | .sequence tag (type :: items) =>
    if depth = 0 || Meaning.isLocalTag tag then failure
    else
      let type ← names.text type
      let items ← items.mapM (names.content (depth - 1))
      orFail (Strategy.ofSettings? type (.listed items))
  | _ => failure

def strategyOfYaml? (text : String) : Option (Strategy Float) :=
  (Yaml.Document.ofText? text).bind fun document =>
    document.run? fun names node => strategyOf names Yaml.maxDepth node

/-! ## Configurations -/

def configOf (names : Names) (node : Node) : Resolving Config := do
  let entries ← namedEntries names (← entriesOf names node)
  let strategy ← setting (strategyOf names (Yaml.maxDepth - 1)) (← once "strategy" entries)
  let timeLimit ← setting (durationOf names) (← once "decide_timeout" entries)
  let trace ← setting (boolOf names) (← once "trace" entries)
  let capacity ← setting (fun node => do
    let entries ← namedEntries names (← entriesOf names node)
    setting (countOf names) (← once capacityName entries)) (← once "audit" entries)
  return ofDraft
    { strategy := strategy
      timeLimit := timeLimit
      trace := trace
      queueCapacity := capacity.join }

/-- The configuration that a text gives. -/
def ofYamlText? (text : String) : Option Config :=
  (Yaml.Document.ofText? text).bind fun document => document.run? configOf

end Verdict.Config
