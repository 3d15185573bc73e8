/-!
# Places in a text

A cursor stands in front of the rest of a text and knows its line and column.
-/

namespace Verdict.Yaml

/-! ## Characters -/

def isBlank (c : Char) : Bool := c == ' ' || c == '\t'

def isBreak (c : Char) : Bool :=
  c == '\n' || c == '\r' || c == '\u0085' || c == '\u2028' || c == '\u2029'

def isNameChar (c : Char) : Bool :=
  c.isAlphanum || c == '_' || c == '-'

def isFlowIndicator (c : Char) : Bool :=
  c == ',' || c == '[' || c == ']' || c == '\x7b' || c == '\x7d'

def byteOrderMark : Char := '\uFEFF'

def isAllowed (c : Char) : Bool :=
  let code := c.toNat
  code == 0x09 || code == 0x0A || code == 0x0D || (0x20 ≤ code && code ≤ 0x7E) || code == 0x85 ||
    (0xA0 ≤ code && code ≤ 0xFFFD) || 0x10000 ≤ code

/-- Whether a text starts with a blank or a break or has ended. -/
def startsGap : List Char → Bool
  | [] => true
  | c :: _ => isBlank c || isBreak c

/-! ## Cursors -/

structure Cursor where
  rest : List Char
  index : Nat
  line : Nat
  column : Nat
  /-- More than the number of all characters of the text, which no loop over it exceeds. -/
  bound : Nat

namespace Cursor

def start (text : List Char) : Cursor := ⟨text, 0, 0, 0, text.length + 1⟩

def next? (cursor : Cursor) : Option Char := cursor.rest.head?

def isAt (cursor : Cursor) (c : Char) : Bool := cursor.next? == some c

def satisfies (cursor : Cursor) (p : Char → Bool) : Bool := cursor.next?.any p

def atGap (cursor : Cursor) : Bool := startsGap cursor.rest

def atEnd (cursor : Cursor) : Bool := cursor.rest.isEmpty

def skip (cursor : Cursor) (count : Nat) : Cursor :=
  { cursor with
    rest := cursor.rest.drop count
    index := cursor.index + count
    column := cursor.column + count }

def skipWhile (cursor : Cursor) (p : Char → Bool) : Cursor :=
  cursor.skip (cursor.rest.takeWhile p).length

def takeWhile (cursor : Cursor) (p : Char → Bool) : List Char × Cursor :=
  let found := cursor.rest.takeWhile p
  (found, cursor.skip found.length)

def nextLine (cursor : Cursor) (count : Nat) : Cursor :=
  { cursor.skip count with line := cursor.line + 1, column := 0 }

/-- Reads a break, if there is one, as the text it stands for. -/
def takeBreak (cursor : Cursor) : List Char × Cursor :=
  match cursor.rest with
  | '\r' :: '\n' :: _ => (['\n'], cursor.nextLine 2)
  | c :: _ =>
    if isBreak c then
      let text := if c == '\u2028' || c == '\u2029' then [c] else ['\n']
      (text, cursor.nextLine 1)
    else ([], cursor)
  | [] => ([], cursor)

def skipBreak (cursor : Cursor) : Cursor := cursor.takeBreak.2

/-- Goes past blanks and a comment to the end of the line, which must come next. -/
def skipToLineEnd? (cursor : Cursor) : Option Cursor :=
  let cursor := cursor.skipWhile isBlank
  let cursor := if cursor.isAt '#' then cursor.skipWhile (!isBreak ·) else cursor
  if cursor.atEnd || cursor.satisfies isBreak then some cursor.skipBreak else none

/-- Whether a line starts with three of the characters given and then a gap. -/
def atMarker (cursor : Cursor) (c : Char) : Bool :=
  cursor.column == 0 &&
    match cursor.rest with
    | x :: y :: z :: rest => x == c && y == c && z == c && startsGap rest
    | _ => false

def atAnyMarker (cursor : Cursor) : Bool := cursor.atMarker '-' || cursor.atMarker '.'

end Cursor
end Verdict.Yaml
