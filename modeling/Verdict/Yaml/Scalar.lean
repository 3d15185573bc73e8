import Verdict.Text.Digit
import Verdict.Yaml.Cursor

/-!
# Scalars

A scalar is a text in one of four styles.  Folding makes a single break a space and drops one break
of several.
-/

namespace Verdict.Yaml

/-- What the style of a scalar says about its meaning: only a plain one can be anything but a text,
and a literal one can if a tag says so. -/
inductive Style where
  | plain
  | literal
  | other
deriving DecidableEq

/-! ## Gaps -/

/-- What stands between two runs of characters: blanks, or breaks with the blanks around them. -/
inductive Gap where
  | blanks (text : List Char)
  /-- The first break and the others.  The first one has no text if it was escaped. -/
  | breaks (first more : List Char)

namespace Gap

def text : Gap → List Char
  | blanks text => text
  | breaks ['\n'] [] => [' ']
  | breaks ['\n'] more => more
  | breaks first more => first ++ more

def isBroken : Gap → Bool
  | blanks _ => false
  | breaks _ _ => true

/-- Reads a gap to its end.  Where blanks indent a line, no tab may stand left of the column
`least`. -/
def read? (least : Int) (fuel : Nat) (gap : Gap) (cursor : Cursor) : Option (Gap × Cursor) :=
  match fuel, cursor.next? with
  | fuel + 1, some c =>
    if isBlank c then
      match gap with
      | blanks text => read? least fuel (blanks (text ++ [c])) (cursor.skip 1)
      | breaks _ _ =>
        if c == '\t' && cursor.column < least then none
        else read? least fuel gap (cursor.skip 1)
    else if isBreak c then
      let (text, after) := cursor.takeBreak
      match gap with
      | blanks _ => read? least fuel (breaks text []) after
      | breaks first more => read? least fuel (breaks first (more ++ text)) after
    else some (gap, cursor)
  | _, _ => some (gap, cursor)

end Gap

/-! ## Plain scalars -/

/-- The characters of a plain scalar up to a gap or to what ends it.  In the flow style a colon must
not stand in front of an indicator. -/
def plainRun? (flow : Bool) : List Char → Option (List Char)
  | [] => some []
  | c :: rest =>
    if isBlank c || isBreak c then some []
    else if flow && c == ':' && rest.head?.any (fun d => d == '?' || isFlowIndicator d) then none
    else if c == ':' && startsGap rest then some []
    else if flow && isFlowIndicator c then some []
    else (plainRun? flow rest).map (c :: ·)

/-- Reads a plain scalar behind what has been seen of it, the last character first.  In the block
style its lines are indented up to the column `least`.  The flag says whether the cursor has come to
another line behind the scalar. -/
def plainLoop? (flow : Bool) (least : Int) (fuel : Nat) (seen : List Char) (gap : Gap)
    (cursor : Cursor) : Option (List Char × Bool × Cursor) :=
  match fuel with
  | 0 => none
  | fuel + 1 =>
    if cursor.atAnyMarker || cursor.isAt '#' then some (seen.reverse, gap.isBroken, cursor)
    else
      (plainRun? flow cursor.rest).bind fun run =>
        let seen := if run.isEmpty then seen else run.reverse ++ (gap.text.reverse ++ seen)
        let gap := if run.isEmpty then gap else .blanks []
        let cursor := cursor.skip run.length
        if cursor.satisfies fun c => isBlank c || isBreak c then
          (gap.read? least cursor.bound cursor).bind fun (gap, cursor) =>
            if !flow && cursor.column < least then some (seen.reverse, gap.isBroken, cursor)
            else plainLoop? flow least fuel seen gap cursor
        else some (seen.reverse, gap.isBroken, cursor)

def plain? (flow : Bool) (indent : Int) (cursor : Cursor) : Option (List Char × Bool × Cursor) :=
  plainLoop? flow (indent + 1) cursor.bound [] (.blanks []) cursor

/-! ## Quoted scalars -/

def escapeLetter? : Char → Option Char
  | '0' => some '\x00'
  | 'a' => some '\x07'
  | 'b' => some '\x08'
  | 't' | '\t' => some '\t'
  | 'n' => some '\n'
  | 'v' => some '\x0b'
  | 'f' => some '\x0c'
  | 'r' => some '\r'
  | 'e' => some '\x1b'
  | ' ' => some ' '
  | '"' => some '"'
  | '/' => some '/'
  | '\\' => some '\\'
  | 'N' => some '\u0085'
  | '_' => some '\u00a0'
  | 'L' => some '\u2028'
  | 'P' => some '\u2029'
  | _ => none

def escapeWidth? : Char → Option Nat
  | 'x' => some 2
  | 'u' => some 4
  | 'U' => some 8
  | _ => none

/-- The character that an escape stands for, and the length of the escape behind its backslash. -/
def escape? : List Char → Option (Char × Nat)
  | [] => none
  | letter :: rest =>
    match escapeWidth? letter with
    | some width => do
      let digits := rest.take width
      let code ← if digits.length = width then Text.hexNumeral? digits else none
      if (0xD800 ≤ code ∧ code ≤ 0xDFFF) ∨ 0x10FFFF < code then none
      else some (Char.ofNat code, width + 1)
    | none => (escapeLetter? letter).map fun c => (c, 1)

/-- Reads up to a gap or to the closing quote, behind what has been seen of the scalar, the last
character first.  The flag says that a break was escaped. -/
def quotedRun? (quote : Char) (fuel : Nat) (seen : List Char) (cursor : Cursor) :
    Option (List Char × Bool × Cursor) :=
  match fuel, cursor.rest with
  | fuel + 1, c :: rest =>
    if isBlank c || isBreak c then some (seen, false, cursor)
    else if c == quote then
      if quote == '\'' && rest.head? == some quote then
        quotedRun? quote fuel (quote :: seen) (cursor.skip 2)
      else some (seen, false, cursor)
    else if quote == '"' && c == '\\' then
      if rest.head?.any isBreak then some (seen, true, (cursor.skip 1).skipBreak)
      else
        (escape? rest).bind fun (c, length) =>
          quotedRun? quote fuel (c :: seen) (cursor.skip (length + 1))
    else quotedRun? quote fuel (c :: seen) (cursor.skip 1)
  | _, _ => some (seen, false, cursor)

def quotedLoop? (quote : Char) (fuel : Nat) (seen : List Char) (cursor : Cursor) :
    Option (List Char × Cursor) :=
  match fuel with
  | 0 => none
  | fuel + 1 =>
    if cursor.atAnyMarker || cursor.atEnd then none
    else
      (quotedRun? quote cursor.bound seen cursor).bind fun (seen, escaped, cursor) =>
        if cursor.isAt quote then some (seen.reverse, cursor.skip 1)
        else
          let gap := if escaped then Gap.breaks [] [] else .blanks []
          (gap.read? 0 cursor.bound cursor).bind fun (gap, cursor) =>
            quotedLoop? quote fuel (gap.text.reverse ++ seen) cursor

def quoted? (cursor : Cursor) : Option (List Char × Cursor) :=
  cursor.next?.bind fun quote => quotedLoop? quote cursor.bound [] (cursor.skip 1)

/-! ## Block scalars -/

inductive Chomping where
  | strip
  | clip
  | keep
deriving DecidableEq

def chomping (cursor : Cursor) : Option Chomping × Cursor :=
  if cursor.isAt '+' then (some .keep, cursor.skip 1)
  else if cursor.isAt '-' then (some .strip, cursor.skip 1)
  else (none, cursor)

def indentDigit? (cursor : Cursor) : Option (Nat × Cursor) :=
  match cursor.next? with
  | some c =>
    if c == '0' then none
    else if c.isDigit then some (Text.digitValue c, cursor.skip 1)
    else some (0, cursor)
  | none => some (0, cursor)

/-- Reads what follows the indicator of a block: the sign and the digit in either order. -/
def blockHeader? (cursor : Cursor) : Option (Chomping × Nat × Cursor) := do
  let (sign, cursor) := chomping cursor
  let (digit, cursor) ← indentDigit? cursor
  let (late, cursor) := if sign.isNone && digit ≠ 0 then chomping cursor else (none, cursor)
  return ((sign.or late).getD .clip, digit, ← cursor.skipToLineEnd?)

/-- Reads indentation and breaks in front of a line that is not empty.  An indentation of zero is
not known yet; then all spaces count, and `widest` is the greatest column reached.  A tab cannot
indent. -/
def blockBreaks? (indent : Nat) (fuel widest : Nat) (breaks : List Char) (cursor : Cursor) :
    Option (Nat × List Char × Cursor) :=
  match fuel with
  | 0 => none
  | fuel + 1 =>
    let room := if indent = 0 then cursor.bound else indent - cursor.column
    let spaces := ((cursor.rest.take room).takeWhile (· == ' ')).length
    let cursor := cursor.skip spaces
    let widest := max widest cursor.column
    if (indent = 0 || cursor.column < indent) && cursor.isAt '\t' then none
    else if cursor.satisfies isBreak then
      let (text, cursor) := cursor.takeBreak
      blockBreaks? indent fuel widest (breaks ++ text) cursor
    else some (widest, breaks, cursor)

structure BlockText where
  /-- The characters seen, the last one first. -/
  seen : List Char
  /-- The break at the end of the last line. -/
  lastBreak : List Char
  breaks : List Char
  wasIndented : Bool

def blockLines? (literal : Bool) (indent : Nat) (fuel : Nat) (lines : BlockText)
    (cursor : Cursor) : Option (BlockText × Cursor) :=
  match fuel with
  | 0 => none
  | fuel + 1 =>
    if cursor.column = indent && !cursor.atEnd then
      let isIndented := cursor.satisfies isBlank
      let folds := !literal && lines.lastBreak == ['\n'] && !lines.wasIndented && !isIndented
      let joint :=
        if folds then (if lines.breaks.isEmpty then [' '] else lines.breaks)
        else lines.lastBreak ++ lines.breaks
      let (line, cursor) := cursor.takeWhile (!isBreak ·)
      let (lastBreak, cursor) := cursor.takeBreak
      (blockBreaks? indent cursor.bound 0 [] cursor).bind fun (_, breaks, cursor) =>
        blockLines? literal indent fuel
          ⟨line.reverse ++ (joint.reverse ++ lines.seen), lastBreak, breaks, isIndented⟩ cursor
    else some (lines, cursor)

/-- Reads a block behind its indicator, inside a block that is indented to the column `outer`. -/
def block? (literal : Bool) (outer : Int) (cursor : Cursor) : Option (List Char × Cursor) := do
  let (ending, digit, cursor) ← blockHeader? cursor
  let given := if digit = 0 then 0 else (if 0 ≤ outer then outer.toNat else 0) + digit
  let (widest, breaks, cursor) ← blockBreaks? given cursor.bound 0 [] cursor
  let indent := if given = 0 then max (max widest (outer + 1).toNat) 1 else given
  let (lines, cursor) ←
    blockLines? literal indent cursor.bound ⟨[], [], breaks, false⟩ cursor
  let lastBreak := if ending = .strip then [] else lines.lastBreak
  let breaks := if ending = .keep then lines.breaks else []
  return (lines.seen.reverse ++ lastBreak ++ breaks, cursor)

end Verdict.Yaml
