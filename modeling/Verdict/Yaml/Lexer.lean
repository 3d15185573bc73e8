import Verdict.Yaml.Token

/-!
# From text to tokens

A lexer goes through a text token by token.  When a colon shows that a key has started, the tokens
for the key and for the start of its block are put in at the place where it did.
-/

namespace Verdict.Yaml

/-- A place where a key may have started. -/
structure KeyStart where
  /-- The number of tokens before it. -/
  position : Nat
  /-- Whether there must be a key, because a block goes on here. -/
  required : Bool
  index : Nat
  line : Nat
  column : Nat

structure Lexer where
  cursor : Cursor
  tokens : Array Token
  /-- The column of the innermost block, -1 outside of all blocks. -/
  indent : Int
  outer : List Int
  /-- Places of keys, one for the block and one for each bracket around the cursor. -/
  keys : List (Option KeyStart)
  keyAllowed : Bool

namespace Lexer

def start (text : List Char) : Lexer :=
  ⟨.start text, #[], -1, [], [none], true⟩

def inFlow (lexer : Lexer) : Bool := 1 < lexer.keys.length

def emit (lexer : Lexer) (token : Token) (length : Nat) : Lexer :=
  { lexer with cursor := lexer.cursor.skip length, tokens := lexer.tokens.push token }

def insert (lexer : Lexer) (position : Nat) (token : Token) : Lexer :=
  { lexer with tokens := lexer.tokens.insertIdxIfInBounds position token }

/-! ## Keys -/

def maxKeyLength : Nat := 1024

/-- Gives up a place where a key cannot be any more: keys are short and do not go on to another
line. -/
def refresh? (cursor : Cursor) : Option KeyStart → Option (Option KeyStart)
  | none => some none
  | some key =>
    if key.line < cursor.line ∨ key.index + maxKeyLength < cursor.index then
      if key.required then none else some none
    else some (some key)

def dropStaleKeys? (lexer : Lexer) : Option Lexer :=
  (lexer.keys.mapM (refresh? lexer.cursor)).map fun keys => { lexer with keys := keys }

def setKey (lexer : Lexer) (key : Option KeyStart) : Lexer :=
  { lexer with keys := key :: lexer.keys.drop 1 }

def key? (lexer : Lexer) : Option KeyStart := lexer.keys.head?.join

/-- Gives up the place of a key, unless there must be one. -/
def forgetKey? (lexer : Lexer) : Option Lexer :=
  if lexer.key?.any KeyStart.required then none else some (lexer.setKey none)

def rememberKey? (lexer : Lexer) : Option Lexer :=
  if lexer.keyAllowed then
    let required := !lexer.inFlow && lexer.indent == lexer.cursor.column
    let key : KeyStart :=
      ⟨lexer.tokens.size, required, lexer.cursor.index, lexer.cursor.line, lexer.cursor.column⟩
    lexer.forgetKey?.map fun lexer => lexer.setKey (some key)
  else some lexer

def allowKey (lexer : Lexer) (allowed : Bool) : Lexer :=
  { lexer with keyAllowed := allowed }

/-! ## Blocks -/

def closeBlocks (column indent : Int) (tokens : Array Token) :
    List Int → Int × List Int × Array Token
  | [] => (indent, [], tokens)
  | next :: outer =>
    if column < indent then closeBlocks column next (tokens.push .blockEnd) outer
    else (indent, next :: outer, tokens)

/-- Ends blocks back to a column; brackets end no blocks. -/
def unroll (lexer : Lexer) (column : Int) : Lexer :=
  if lexer.inFlow then lexer
  else
    let (indent, outer, tokens) := closeBlocks column lexer.indent lexer.tokens lexer.outer
    { lexer with indent := indent, outer := outer, tokens := tokens }

/-- Starts a block at a column, if it is indented further than the one around it. -/
def roll (lexer : Lexer) (column : Nat) (position : Nat) (token : Token) : Lexer :=
  if !lexer.inFlow && decide (lexer.indent < column) then
    { lexer.insert position token with indent := column, outer := lexer.indent :: lexer.outer }
  else lexer

def rollHere (lexer : Lexer) (token : Token) : Lexer :=
  lexer.roll lexer.cursor.column lexer.tokens.size token

/-! ## Tokens -/

/-- Goes past blanks, comments and breaks.  Tabs do not indent a line on which a key may start. -/
def skipGap (fuel : Nat) (lexer : Lexer) : Lexer :=
  match fuel with
  | 0 => lexer
  | fuel + 1 =>
    let cursor := lexer.cursor
    let cursor :=
      if cursor.column == 0 && cursor.isAt byteOrderMark then cursor.skip 1 else cursor
    let tabs := lexer.inFlow || !lexer.keyAllowed
    let cursor := cursor.skipWhile fun c => c == ' ' || (tabs && c == '\t')
    let cursor := if cursor.isAt '#' then cursor.skipWhile (!isBreak ·) else cursor
    if cursor.satisfies isBreak then
      skipGap fuel
        { lexer with cursor := cursor.skipBreak, keyAllowed := lexer.keyAllowed || !lexer.inFlow }
    else { lexer with cursor := cursor }

def documentMark? (lexer : Lexer) (token : Token) : Option Lexer :=
  (lexer.unroll (-1)).forgetKey?.map fun lexer => (lexer.allowKey false).emit token 3

def directive? (lexer : Lexer) : Option Lexer := do
  let lexer ← (lexer.unroll (-1)).forgetKey?
  let (token, cursor) ← Token.directive? lexer.cursor
  return { (lexer.allowKey false).emit token 0 with cursor := cursor }

def finish? (lexer : Lexer) : Option Lexer :=
  (lexer.unroll (-1)).forgetKey?.map fun lexer => lexer.emit .finish 0

def openBracket? (lexer : Lexer) (token : Token) : Option Lexer :=
  lexer.rememberKey?.map fun lexer =>
    ({ lexer with keys := none :: lexer.keys }.allowKey true).emit token 1

def closeBracket? (lexer : Lexer) (token : Token) : Option Lexer :=
  lexer.forgetKey?.map fun lexer =>
    let keys := if lexer.inFlow then lexer.keys.drop 1 else lexer.keys
    ({ lexer with keys := keys }.allowKey false).emit token 1

def comma? (lexer : Lexer) : Option Lexer :=
  lexer.forgetKey?.map fun lexer => (lexer.allowKey true).emit .flowEntry 1

def dash? (lexer : Lexer) : Option Lexer :=
  if !lexer.inFlow && !lexer.keyAllowed then none
  else
    (lexer.rollHere .blockSequence).forgetKey?.map fun lexer =>
      (lexer.allowKey true).emit .blockEntry 1

def question? (lexer : Lexer) : Option Lexer :=
  if !lexer.inFlow && !lexer.keyAllowed then none
  else
    (lexer.rollHere .blockMapping).forgetKey?.map fun lexer =>
      (lexer.allowKey (!lexer.inFlow)).emit .key 1

/-- A colon.  It shows that a key started at the place remembered, if there is one. -/
def colon? (lexer : Lexer) : Option Lexer :=
  match lexer.key? with
  | some key =>
    let lexer := (lexer.insert key.position .key).roll key.column key.position .blockMapping
    some (((lexer.setKey none).allowKey false).emit .value 1)
  | none =>
    if !lexer.inFlow && !lexer.keyAllowed then none
    else
      let lexer := lexer.rollHere .blockMapping
      some ((lexer.allowKey (!lexer.inFlow)).emit .value 1)

def word? (lexer : Lexer) (read : Cursor → Option (Token × Cursor)) : Option Lexer := do
  let lexer ← lexer.rememberKey?
  let (token, cursor) ← read lexer.cursor
  return { (lexer.allowKey false).emit token 0 with cursor := cursor }

def quoted? (lexer : Lexer) : Option Lexer :=
  lexer.word? fun cursor => (Yaml.quoted? cursor).map fun (text, cursor) =>
    (.scalar (String.ofList text) .other, cursor)

def block? (lexer : Lexer) (literal : Bool) : Option Lexer := do
  let lexer ← lexer.forgetKey?
  let (text, cursor) ← Yaml.block? literal lexer.indent (lexer.cursor.skip 1)
  let style := if literal then Style.literal else .other
  return { (lexer.allowKey true).emit (.scalar (String.ofList text) style) 0 with cursor := cursor }

/-- A plain scalar.  Behind it a key may start if it has come to another line. -/
def plain? (lexer : Lexer) : Option Lexer := do
  let lexer ← lexer.rememberKey?
  let (text, broken, cursor) ← Yaml.plain? lexer.inFlow lexer.indent lexer.cursor
  return { (lexer.allowKey broken).emit (.scalar (String.ofList text) .plain) 0 with
    cursor := cursor }

def startsPlain (flow : Bool) (c : Char) (rest : List Char) : Bool :=
  if c == '-' then !(rest.head?.any isBlank)
  else if c == '?' || c == ':' then !flow && !startsGap rest
  else !isBlank c && !("[]\x7b\x7d,#&*!|>'\"%@\x60".toList.contains c)

def next? (lexer : Lexer) : Option Lexer := do
  let lexer ← (lexer.skipGap lexer.cursor.bound).dropStaleKeys?
  let lexer := lexer.unroll lexer.cursor.column
  let cursor := lexer.cursor
  match cursor.rest with
  | [] => lexer.finish?
  | c :: rest =>
    let flow := lexer.inFlow
    if cursor.column == 0 && c == '%' then lexer.directive?
    else if cursor.atMarker '-' then lexer.documentMark? .documentStart
    else if cursor.atMarker '.' then lexer.documentMark? .documentEnd
    else if c == '[' then lexer.openBracket? .flowSequence
    else if c == '\x7b' then lexer.openBracket? .flowMapping
    else if c == ']' then lexer.closeBracket? .flowSequenceEnd
    else if c == '\x7d' then lexer.closeBracket? .flowMappingEnd
    else if c == ',' then lexer.comma?
    else if c == '-' && startsGap rest then lexer.dash?
    else if c == '?' && (flow || startsGap rest) then lexer.question?
    else if c == ':' && (flow || startsGap rest) then lexer.colon?
    else if c == '*' then lexer.word? fun cursor =>
      (Token.name? cursor).map fun (name, cursor) => (.alias name, cursor)
    else if c == '&' then lexer.word? fun cursor =>
      (Token.name? cursor).map fun (name, cursor) => (.anchor name, cursor)
    else if c == '!' then lexer.word? (Token.tag? flow)
    else if c == '|' && !flow then lexer.block? true
    else if c == '>' && !flow then lexer.block? false
    else if c == '\'' || c == '"' then lexer.quoted?
    else if startsPlain flow c rest then lexer.plain?
    else none

def run? (fuel : Nat) (lexer : Lexer) : Option (List Token) :=
  match fuel with
  | 0 => none
  | fuel + 1 =>
    lexer.next?.bind fun lexer =>
      if lexer.tokens.back? == some .finish then some lexer.tokens.toList else run? fuel lexer

end Lexer

/-- The tokens of a text that holds no other characters than it may. -/
def Token.list? (text : List Char) : Option (List Token) :=
  if text.all isAllowed then (Lexer.start text).run? (text.length + 1) else none

end Verdict.Yaml
