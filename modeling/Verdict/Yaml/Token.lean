import Verdict.Yaml.Scalar

/-!
# Tokens

Some tokens are not written: the start and the end of a block, which the indentation shows, and the
sign in front of a key.
-/

namespace Verdict.Yaml

inductive Token where
  | version (major minor : Nat)
  | shorthand (handle start : String)
  | documentStart
  | documentEnd
  | blockSequence
  | blockMapping
  | blockEnd
  | blockEntry
  | flowSequence
  | flowSequenceEnd
  | flowMapping
  | flowMappingEnd
  | flowEntry
  | key
  | value
  | alias (name : String)
  | anchor (name : String)
  | tag (handle rest : String)
  | scalar (text : String) (style : Style)
  | finish
deriving DecidableEq

namespace Token

/-! ## Anchors and aliases -/

def endsName (cursor : Cursor) : Bool :=
  cursor.atGap || cursor.satisfies fun c => "?:,]\x7d%@\x60".toList.contains c

def name? (cursor : Cursor) : Option (String × Cursor) :=
  let (name, cursor) := (cursor.skip 1).takeWhile isNameChar
  if name.isEmpty || !endsName cursor then none else some (String.ofList name, cursor)

/-! ## Tags -/

/-- Whether a character may stand in a tag; brackets and commas only between angle brackets. -/
def isTagChar (verbatim : Bool) (c : Char) : Bool :=
  isNameChar c || ";/?:@&=+$.!~*'()".toList.contains c ||
    (verbatim && (c == ',' || c == '[' || c == ']'))

def escapedByte? : List Char → Option (Nat × List Char)
  | '%' :: a :: b :: rest => (Text.hexNumeral? [a, b]).map fun value => (value, rest)
  | _ => none

/-- How many bytes a character has that starts with a byte. -/
def byteWidth? (byte : Nat) : Option Nat :=
  if byte < 0x80 then some 1
  else if 0xC0 ≤ byte ∧ byte < 0xE0 then some 2
  else if 0xE0 ≤ byte ∧ byte < 0xF0 then some 3
  else if 0xF0 ≤ byte ∧ byte < 0xF8 then some 4
  else none

def trailingBytes? (count : Nat) (text : List Char) : Option (List Nat × List Char) :=
  match count with
  | 0 => some ([], text)
  | count + 1 => do
    let (byte, rest) ← escapedByte? text
    if 0x80 ≤ byte ∧ byte < 0xC0 then
      let (bytes, rest) ← trailingBytes? count rest
      return (byte :: bytes, rest)
    else none

def escapedChars? (text : List Char) : Option (List Char × List Char) := do
  let (byte, rest) ← escapedByte? text
  let width ← byteWidth? byte
  let (bytes, rest) ← trailingBytes? (width - 1) rest
  let decoded ← String.fromUTF8? ⟨((byte :: bytes).map UInt8.ofNat).toArray⟩
  return (decoded.toList, rest)

def tagChars? (verbatim : Bool) (fuel : Nat) (text : List Char) (cursor : Cursor) :
    Option (List Char × Cursor) :=
  match fuel, cursor.next? with
  | fuel + 1, some c =>
    if c == '%' then do
      let (decoded, rest) ← escapedChars? cursor.rest
      tagChars? verbatim fuel (text ++ decoded) (cursor.skip (cursor.rest.length - rest.length))
    else if isTagChar verbatim c then tagChars? verbatim fuel (text ++ [c]) (cursor.skip 1)
    else some (text, cursor)
  | _, _ => some (text, cursor)

/-- Reads the rest of a tag behind a start of it, which together must not be empty. -/
def tagText? (verbatim : Bool) (start : List Char) (cursor : Cursor) :
    Option (List Char × Cursor) :=
  (tagChars? verbatim cursor.bound [] cursor).bind fun (text, cursor) =>
    if start.isEmpty && text.isEmpty then none else some (start.drop 1 ++ text, cursor)

/-- Reads a handle: an exclamation mark, letters, and maybe another mark. -/
def handle? (cursor : Cursor) : Option (List Char × Cursor) :=
  if cursor.isAt '!' then
    let (name, cursor) := (cursor.skip 1).takeWhile isNameChar
    if cursor.isAt '!' then some ('!' :: name ++ ['!'], cursor.skip 1)
    else some ('!' :: name, cursor)
  else none

def isClosed (handle : List Char) : Bool :=
  2 ≤ handle.length && handle.getLast? == some '!'

def tag? (flow : Bool) (cursor : Cursor) : Option (Token × Cursor) := do
  let (handle, rest, cursor) ←
    if (cursor.skip 1).isAt '<' then do
      let (text, cursor) ← tagText? true [] (cursor.skip 2)
      if cursor.isAt '>' then some ([], text, cursor.skip 1) else none
    else do
      let (handle, cursor) ← handle? cursor
      if isClosed handle then
        let (text, cursor) ← tagText? false [] cursor
        some (handle, text, cursor)
      else
        let (text, cursor) ← tagText? false handle cursor
        if text.isEmpty then some ([], ['!'], cursor) else some (['!'], text, cursor)
  if cursor.atGap || (flow && cursor.isAt ',') then
    some (.tag (String.ofList handle) (String.ofList rest), cursor)
  else none

/-! ## Directives -/

def number? (cursor : Cursor) : Option (Nat × Cursor) :=
  let (digits, cursor) := cursor.takeWhile Char.isDigit
  if digits.isEmpty || 9 < digits.length then none
  else
    some (Text.numeral digits, cursor)

def version? (cursor : Cursor) : Option (Token × Cursor) := do
  let (major, cursor) ← number? (cursor.skipWhile isBlank)
  if cursor.isAt '.' then
    let (minor, cursor) ← number? (cursor.skip 1)
    return (.version major minor, cursor)
  else none

def tagHandle? (cursor : Cursor) : Option (Token × Cursor) := do
  let (handle, cursor) ← handle? (cursor.skipWhile isBlank)
  if !isClosed handle && handle ≠ ['!'] then none
  else if !cursor.satisfies isBlank then none
  else
    let (start, cursor) ← tagText? true [] (cursor.skipWhile isBlank)
    if cursor.atGap then some (.shorthand (String.ofList handle) (String.ofList start), cursor)
    else none

def directive? (cursor : Cursor) : Option (Token × Cursor) := do
  let (name, cursor) := (cursor.skip 1).takeWhile isNameChar
  if !cursor.atGap then none
  else
    let (token, cursor) ←
      match String.ofList name with
      | "YAML" => version? cursor
      | "TAG" => tagHandle? cursor
      | _ => none
    return (token, ← cursor.skipToLineEnd?)

end Token
end Verdict.Yaml
