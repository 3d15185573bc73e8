import Verdict.Yaml.Lexer

/-!
# Nodes

A text that is one document has a node: scalars, sequences and mappings with their tags.  A name is
used by its number, which is the number of names in use when the node is met.
-/

namespace Verdict.Yaml

inductive Node where
  | scalar (tag : Option String) (text : String) (style : Style)
  | sequence (tag : Option String) (items : List Node)
  | mapping (tag : Option String) (entries : List (Node × Node))
  /-- A node with a number. -/
  | anchored (number : Nat) (node : Node)
  /-- The node of a number. -/
  | alias (number : Nat)

namespace Node

def absent : Node := .scalar none "" .plain

/-! ## From tokens -/

/-- What is read: the tokens to come, the names in use with their numbers, and the handles of
tags. -/
structure Source where
  tokens : List Token
  names : List (String × Nat)
  handles : List (String × String)

abbrev Reader := StateT Source Option

def peek : Reader Token := do
  return (← get).tokens.head?.getD .finish

def advance : Reader Unit :=
  modify fun source => { source with tokens := source.tokens.drop 1 }

def enlist (name : String) : Reader Nat := do
  let source ← get
  let number := source.names.length
  set { source with names := (name, number) :: source.names.filter fun entry => entry.1 ≠ name }
  return number

def resolveTag (handle rest : String) : Reader String := do
  if handle.isEmpty then return rest
  else
    match (← get).handles.lookup handle with
    | some start => return start ++ rest
    | none => failure

def properties : Reader (Option String × Option String) := do
  let readTag : Reader (Option String) := do
    match ← peek with
    | .tag handle rest =>
      advance
      return some (← resolveTag handle rest)
    | _ => return none
  let readName : Reader (Option String) := do
    match ← peek with
    | .anchor name =>
      advance
      return some name
    | _ => return none
  match ← readName with
  | some name => return (some name, ← readTag)
  | none =>
    let tag ← readTag
    return (← readName, tag)

/-- Gives a node its number, if it has a name, before its parts are read. -/
def named (name : Option String) (read : Reader Node) : Reader Node := do
  match name with
  | some name =>
    let number ← enlist name
    return .anchored number (← read)
  | none => read

def endsBlockEntry : Token → Bool
  | .key | .value | .blockEnd => true
  | _ => false

def endsFlowEntry (closing : Token) (token : Token) : Bool :=
  token == .flowEntry || token == closing

/-- The tag of a scalar; the mark alone is none. -/
def scalarTag (tag : Option String) : Option String :=
  tag.filter fun tag => tag ≠ "!"

mutual

/-- Reads a node.  Outside of brackets it may be a block, and behind a key it may be a sequence
without an indentation of its own. -/
def read (fuel : Nat) (block unindented : Bool) : Reader Node :=
  match fuel with
  | 0 => failure
  | fuel + 1 => do
    match ← peek with
    | .alias name =>
      advance
      match (← get).names.lookup name with
      | some number => return .alias number
      | none => failure
    | _ =>
      let (name, tag) ← properties
      match ← peek with
      | .blockEntry =>
        if unindented then named name do return .sequence tag (← unindentedItems fuel)
        else if name.isSome || tag.isSome then named name (pure (.scalar tag "" .plain))
        else failure
      | .scalar text style =>
        advance
        named name (pure (.scalar (scalarTag tag) text style))
      | .flowSequence =>
        advance
        named name do return .sequence tag (← flowItems fuel true)
      | .flowMapping =>
        advance
        named name do return .mapping tag (← flowEntries fuel true)
      | .blockSequence =>
        if block then
          advance
          named name do return .sequence tag (← blockItems fuel)
        else if name.isSome || tag.isSome then named name (pure (.scalar tag "" .plain))
        else failure
      | .blockMapping =>
        if block then
          advance
          named name do return .mapping tag (← blockEntries fuel)
        else if name.isSome || tag.isSome then named name (pure (.scalar tag "" .plain))
        else failure
      | _ =>
        if name.isSome || tag.isSome then named name (pure (.scalar tag "" .plain))
        else failure

def blockItems (fuel : Nat) : Reader (List Node) :=
  match fuel with
  | 0 => failure
  | fuel + 1 => do
    match ← peek with
    | .blockEntry =>
      advance
      let item ←
        match ← peek with
        | .blockEntry | .blockEnd => pure absent
        | _ => read fuel true false
      return item :: (← blockItems fuel)
    | .blockEnd =>
      advance
      return []
    | _ => failure

/-- Reads the items of a sequence that has no block of its own. -/
def unindentedItems (fuel : Nat) : Reader (List Node) :=
  match fuel with
  | 0 => failure
  | fuel + 1 => do
    match ← peek with
    | .blockEntry =>
      advance
      let item ←
        match ← peek with
        | .blockEntry | .key | .value | .blockEnd => pure absent
        | _ => read fuel true false
      return item :: (← unindentedItems fuel)
    | _ => return []

def blockEntries (fuel : Nat) : Reader (List (Node × Node)) :=
  match fuel with
  | 0 => failure
  | fuel + 1 => do
    match ← peek with
    | .key =>
      advance
      let key ← if endsBlockEntry (← peek) then pure absent else read fuel true true
      let value ←
        match ← peek with
        | .value =>
          advance
          if endsBlockEntry (← peek) then pure absent else read fuel true true
        | _ => pure absent
      return (key, value) :: (← blockEntries fuel)
    | .blockEnd =>
      advance
      return []
    | _ => failure

/-- Reads the items of a sequence to its closing bracket; `first` says that none has been read. -/
def flowItems (fuel : Nat) (first : Bool) : Reader (List Node) :=
  match fuel with
  | 0 => failure
  | fuel + 1 => do
    if (← peek) == .flowSequenceEnd then
      advance
      return []
    else
      if !first then
        if (← peek) == .flowEntry then advance else failure
      match ← peek with
      | .flowSequenceEnd =>
        advance
        return []
      | .key =>
        advance
        let item ← flowPair fuel
        return item :: (← flowItems fuel false)
      | _ =>
        let item ← read fuel false false
        return item :: (← flowItems fuel false)

/-- Reads a mapping of one entry behind the sign of its key.  Where the key is left out, the token
behind it is passed over. -/
def flowPair (fuel : Nat) : Reader Node :=
  match fuel with
  | 0 => failure
  | fuel + 1 => do
    let token ← peek
    let key ←
      if token == .value || endsFlowEntry .flowSequenceEnd token then do
        advance
        pure absent
      else read fuel false false
    let value ← flowValue fuel .flowSequenceEnd
    return .mapping none [(key, value)]

def flowValue (fuel : Nat) (closing : Token) : Reader Node :=
  match fuel with
  | 0 => failure
  | fuel + 1 => do
    match ← peek with
    | .value =>
      advance
      if endsFlowEntry closing (← peek) then return absent else read fuel false false
    | _ => return absent

def flowEntries (fuel : Nat) (first : Bool) : Reader (List (Node × Node)) :=
  match fuel with
  | 0 => failure
  | fuel + 1 => do
    if (← peek) == .flowMappingEnd then
      advance
      return []
    else
      if !first then
        if (← peek) == .flowEntry then advance else failure
      match ← peek with
      | .flowMappingEnd =>
        advance
        return []
      | .key =>
        advance
        let token ← peek
        let key ←
          if token == .value || endsFlowEntry .flowMappingEnd token then pure absent
          else read fuel false false
        let value ← flowValue fuel .flowMappingEnd
        return (key, value) :: (← flowEntries fuel false)
      | _ =>
        let key ← read fuel false false
        return (key, absent) :: (← flowEntries fuel false)

end

/-! ## Documents -/

def standardHandles : List (String × String) :=
  [("!", "!"), ("!!", "tag:yaml.org,2002:")]

/-- Reads directives: a version at most once, which must be known, and each handle at most once. -/
def directives (versionSeen : Bool) (handles : List (String × String)) :
    List Token → Option (List (String × String) × List Token)
  | .version major minor :: rest =>
    if versionSeen || major ≠ 1 || (minor ≠ 1 && minor ≠ 2) then none
    else directives true handles rest
  | .shorthand handle start :: rest =>
    if (handles.lookup handle).isSome then none
    else directives versionSeen ((handle, start) :: handles) rest
  | tokens => some (handles, tokens)

def endsDocument : Token → Bool
  | .version _ _ | .shorthand _ _ | .documentStart | .documentEnd | .finish => true
  | _ => false

def readDocument (fuel : Nat) (explicit : Bool) : Reader Node := do
  if explicit && endsDocument (← peek) then return absent else read fuel true false

/-- The node of a document and the tokens behind it.  A text may be empty. -/
def ofTokens? (tokens : List Token) : Option (Option Node) := do
  let (handles, rest) ← directives false [] tokens
  let handles := handles ++ standardHandles
  let fuel := 4 * tokens.length + 4
  let read (explicit : Bool) (tokens : List Token) : Option (Option Node) := do
    let (node, source) ← (readDocument fuel explicit).run ⟨tokens, [], handles⟩
    match source.tokens.dropWhile (· == .documentEnd) with
    | [.finish] => return some node
    | _ => none
  match tokens.head?, rest with
  | some .finish, _ => return none
  | _, .documentStart :: rest => read true rest
  | some (.version _ _), _ | some (.shorthand _ _), _ => none
  | _, _ => read false rest

end Node

structure Document where
  root : Option Node

namespace Document

def ofText? (text : String) : Option Document :=
  (Token.list? text.toList).bind fun tokens => (Node.ofTokens? tokens).map fun root => ⟨root⟩

end Document
end Verdict.Yaml
