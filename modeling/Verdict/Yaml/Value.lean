import Verdict.Context
import Verdict.Yaml.Core

/-!
# Values of documents

A document is read as a JSON value.  There is a limit on nesting and one on how often names are
followed, so documents that stand for themselves or for far more than they say are refused.
-/

namespace Verdict.Yaml

/-! ## Nodes of numbers -/

mutual

def Node.numbered : Node → List (Nat × Node)
  | .anchored number node => (number, node) :: node.numbered
  | .sequence _ items => numberedItems items
  | .mapping _ entries => numberedEntries entries
  | .scalar _ _ _ | .alias _ => []

def numberedItems : List Node → List (Nat × Node)
  | [] => []
  | item :: rest => item.numbered ++ numberedItems rest

def numberedEntries : List (Node × Node) → List (Nat × Node)
  | [] => []
  | (key, value) :: rest => key.numbered ++ value.numbered ++ numberedEntries rest

end

mutual

/-- The size of a node: one for a scalar or a name, two for a start and an end. -/
def Node.size : Node → Nat
  | .scalar _ _ _ | .alias _ => 1
  | .anchored _ node => node.size
  | .sequence _ items => sizeOfItems items + 2
  | .mapping _ entries => sizeOfEntries entries + 2

def sizeOfItems : List Node → Nat
  | [] => 0
  | item :: rest => item.size + sizeOfItems rest

def sizeOfEntries : List (Node × Node) → Nat
  | [] => 0
  | (key, value) :: rest => key.size + value.size + sizeOfEntries rest

end

/-! ## Reading -/

/-- What reading depends on: the nodes of numbers, the last one of each number first. -/
structure Names where
  nodes : List (Nat × Node)

/-- A step of reading; it counts how often names may still be followed. -/
abbrev Resolving := StateT Nat Option

def followsPerPart : Nat := 100

def maxDepth : Nat := 128

/-- A node without its number, or the node that a name stands for. -/
def Names.resolve (names : Names) (node : Node) : Resolving Node := do
  match node with
  | .alias number =>
    match ← get with
    | 0 => failure
    | left + 1 =>
      set left
      match names.nodes.lookup number with
      | some node => return node
      | none => failure
  | .anchored _ node => return node
  | node => return node

def Names.text (names : Names) (node : Node) : Resolving String := do
  match ← names.resolve node with
  | .scalar _ text _ => return text
  | _ => failure

/-- The value of a node at a place where `depth` more levels are allowed. -/
def Names.value (names : Names) (depth : Nat) (node : Node) : Resolving Json := do
  match ← names.resolve node with
  | .scalar tag text style =>
    match Meaning.ofScalar? tag text style with
    | some (.float value) => return .ofFloat value
    | some meaning => return meaning.toJson
    | none => failure
  | .sequence tag items =>
    match depth with
    | 0 => failure
    | depth + 1 =>
      if Meaning.isLocalTag tag then failure
      else return .array (← items.mapM (names.value depth))
  | .mapping tag entries =>
    match depth with
    | 0 => failure
    | depth + 1 =>
      if Meaning.isLocalTag tag then failure
      else
        let pairs ← entries.mapM fun (key, value) => do
          return (← names.text key, ← names.value depth value)
        return .ofFields pairs
  | _ => failure

/-- A node with whatever it holds, of which only scalars are kept.  Keys can be anything. -/
def Names.content (names : Names) (depth : Nat) (node : Node) : Resolving Json := do
  match ← names.resolve node with
  | .scalar tag text style =>
    match Meaning.ofScalar? tag text style with
    | some meaning => return meaning.toJson
    | none => failure
  | .sequence tag items =>
    match depth with
    | 0 => failure
    | depth + 1 =>
      if Meaning.isLocalTag tag then failure
      else return .array (← items.mapM (names.content depth))
  | .mapping tag entries =>
    match depth with
    | 0 => failure
    | depth + 1 =>
      if Meaning.isLocalTag tag then failure
      else
        let _ ← entries.mapM fun (key, value) => do
          let _ ← names.content depth key
          names.content depth value
        return .object []
  | _ => failure

namespace Document

/-- The node of a document; an empty text stands for nothing. -/
def node (document : Document) : Node := document.root.getD .absent

def run? {α : Type} (document : Document) (read : Names → Node → Resolving α) : Option α :=
  let nodes := document.node.numbered.reverse
  let limit := document.node.size * followsPerPart
  ((read ⟨nodes⟩ document.node).run limit).map Prod.fst

def value? (document : Document) : Option Json :=
  document.run? fun names node => names.value maxDepth node

end Document

def parse? (text : String) : Option Json :=
  (Document.ofText? text).bind Document.value?

/-- Whether a node is a plain scalar without a text, as where nothing is written. -/
def Node.isAbsent : Node → Bool
  | .scalar _ text style => text.isEmpty && style == .plain
  | _ => false

/-- The context that a text gives: a mapping, or no data for an empty text. -/
def parseContext? (text : String) : Option Context := do
  let document ← Document.ofText? text
  let fields ← document.run? fun names node => do
    let resolved ← names.resolve node
    if resolved.isAbsent then return []
    else
      match resolved with
      | .mapping _ entries => do
        let pairs ← entries.mapM fun (key, value) => do
          return (← names.text key, ← names.value (maxDepth - 1) value)
        return Fields.ofList pairs
      | _ => failure
  return Context.ofObject fields

end Verdict.Yaml
