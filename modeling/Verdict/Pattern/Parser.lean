import Verdict.Pattern.Syntax
import Verdict.Text.Blank
import Verdict.Text.Digit
import Verdict.Unicode.Property

/-!
# Reading patterns

`Pattern.parse?` refuses look-around, references to groups, unknown escapes and flags, unbalanced
brackets, repetition of nothing, counts out of order, two groups of one name, and nesting deeper
than 250.
-/

namespace Verdict.Pattern

/-! ## Characters -/

def isMeta (c : Char) : Bool :=
  ['\\', '.', '+', '*', '?', '(', ')', '|', '[', ']', '\x7b', '\x7d', '^', '$', '#', '&', '-',
    '~'].contains c

/-- Whether a backslash may stand before a character that it does not change. -/
def isEscapable (c : Char) : Bool :=
  c.toNat < 128 && !c.isAlphanum && c != '<' && c != '>'

/-- The rest of a text behind blanks and comments.  `comment` says that one is being skipped. -/
def skipSpaceLoop (comment : Bool) : List Char → List Char
  | [] => []
  | c :: rest =>
    if comment then skipSpaceLoop (c != '\n') rest
    else if Text.isBlank c then skipSpaceLoop false rest
    else if c == '#' then skipSpaceLoop true rest
    else c :: rest

def skipSpace (verbose : Bool) (text : List Char) : List Char :=
  if verbose then skipSpaceLoop false text else text

/-- The character that is next behind blanks, if these are ignored.  One comment sign is passed
over like a blank. -/
def peekSpace (verbose : Bool) (text : List Char) : Option Char :=
  if verbose then
    match text.dropWhile Text.isBlank with
    | '#' :: rest =>
      match rest.dropWhile Text.isBlank with
      | c :: _ => some c
      | [] => text.head?
    | c :: _ => some c
    | [] => text.head?
  else text.head?

/-- A text behind its first character and the blanks that are ignored there; it must go on. -/
def advance? (verbose : Bool) (text : List Char) : Option (List Char) :=
  match skipSpace verbose text with
  | [] => none
  | rest => some rest

/-! ## Numbers -/

def decimalDigits (fuel : Nat) (verbose : Bool) (text : List Char) : List Char × List Char :=
  match fuel, text with
  | fuel + 1, c :: rest =>
    if c.isDigit then
      let (digits, rest) := decimalDigits fuel verbose (skipSpace verbose rest)
      (c :: digits, rest)
    else ([], text)
  | _, _ => ([], text)

/-- A decimal number between blanks.  The outer answer is `none` for a number that is too large,
the inner one for no digits. -/
def decimal (verbose : Bool) (text : List Char) : Option (Option Nat × List Char) :=
  let (digits, rest) := decimalDigits text.length verbose (Text.trimStart text)
  let rest := Text.trimStart (skipSpace verbose (Text.trimStart rest))
  if digits.isEmpty then some (none, rest)
  else
    let value := Text.numeral digits
    if value < 4294967296 then some (some value, rest) else none

def charOfCode? (code : Nat) : Option Char :=
  if code < 0xD800 ∨ (0xDFFF < code ∧ code ≤ 0x10FFFF) then some (Char.ofNat code) else none

def hexDigits (verbose : Bool) : Nat → Nat → List Char → Option (Nat × List Char)
  | 0, value, text => some (value, text)
  | _ + 1, _, [] => none
  | count + 1, value, c :: rest =>
    (Text.hexDigit? c).bind fun digit =>
      hexDigits verbose count (value * 16 + digit) (skipSpace verbose rest)

def hexBraced (fuel : Nat) (verbose : Bool) (seen : Bool) (value : Nat) (text : List Char) :
    Option (Nat × List Char) :=
  match fuel, text with
  | fuel + 1, c :: rest =>
    if c == '\x7d' then (if seen then some (value, skipSpace verbose rest) else none)
    else
      (Text.hexDigit? c).bind fun digit =>
        hexBraced fuel verbose true (value * 16 + digit) (skipSpace verbose rest)
  | _, _ => none

/-! ## Escapes -/

inductive Escape where
  | literal (value : Literal)
  | assertion (kind : Assertion)
  | shorthand (value : Shorthand) (negated : Bool)
  | property (value : PropertyName) (negated : Bool)

/-- A code escape behind its letter, with the number of digits it has without braces. -/
def codeEscape (verbose : Bool) (width : Nat) (text : List Char) :
    Option (Literal × List Char) := do
  let text ← advance? verbose text
  let braced := text.head? == some '\x7b'
  let (code, rest) ←
    if braced then hexBraced text.length verbose false 0 (skipSpace verbose (text.drop 1))
    else hexDigits verbose width 0 text
  let char ← charOfCode? code
  return (⟨char, width == 2 && !braced⟩, rest)

def bracedName (fuel : Nat) (verbose : Bool) (text : List Char) :
    Option (List Char × List Char) :=
  match fuel, text with
  | fuel + 1, c :: rest =>
    if c == '\x7d' then some ([], rest)
    else
      (bracedName fuel verbose (skipSpace verbose rest)).map fun (name, rest) => (c :: name, rest)
  | _, _ => none

/-- Splits a text before the first place where the other text starts, and drops that. -/
def splitAtText? (mark : List Char) : List Char → Option (List Char × List Char)
  | [] => none
  | c :: rest =>
    if mark.isPrefixOf (c :: rest) then some ([], (c :: rest).drop mark.length)
    else (splitAtText? mark rest).map fun (front, back) => (c :: front, back)

def PropertyName.ofText (text : List Char) : PropertyName :=
  match (splitAtText? ['!', '='] text).or
      ((splitAtText? [':'] text).or (splitAtText? ['='] text)) with
  | some (property, value) => .valued property value
  | none => .named text

def propertyEscape (verbose : Bool) (text : List Char) : Option (PropertyName × List Char) := do
  let text ← advance? verbose text
  match text with
  | '\x7b' :: rest =>
    let (name, rest) ← bracedName text.length verbose (skipSpace verbose rest)
    return (.ofText name, rest)
  | '\\' :: _ => none
  | c :: rest => return (.named [c], skipSpace verbose rest)
  | [] => none

/-- The letters of the name of a word boundary, which ignored blanks may separate. -/
def boundaryName (fuel : Nat) (verbose : Bool) (text : List Char) : List Char × List Char :=
  match fuel, text with
  | fuel + 1, c :: rest =>
    if c.isAlpha || c == '-' then
      let (name, rest) := boundaryName fuel verbose (skipSpace verbose rest)
      (c :: name, rest)
    else ([], text)
  | _, _ => ([], text)

/-- The assertion behind `\b`: a name in braces makes it one-sided.  Braces that do not start with
a letter or a dash are left to be read as a count. -/
def boundary (verbose : Bool) (text : List Char) : Option (Assertion × List Char) :=
  match text with
  | '\x7b' :: rest => do
    let inner ← advance? verbose rest
    if inner.head?.any fun c => c.isAlpha || c == '-' then
      match boundaryName inner.length verbose inner with
      | (name, '\x7d' :: rest) =>
        let kind ← (match String.ofList name with
          | "start" => some Assertion.wordStart
          | "end" => some .wordEnd
          | "start-half" => some .wordStartHalf
          | "end-half" => some .wordEndHalf
          | _ => none)
        return (kind, rest)
      | _ => none
    else return (.wordBoundary, text)
  | _ => some (.wordBoundary, text)

def escape (verbose : Bool) (text : List Char) : Option (Escape × List Char) :=
  match text with
  | [] => none
  | c :: rest =>
    let plain (char : Char) : Option (Escape × List Char) := some (.literal ⟨char, false⟩, rest)
    let code (width : Nat) : Option (Escape × List Char) :=
      (codeEscape verbose width rest).map fun (value, rest) => (.literal value, rest)
    let property (negated : Bool) : Option (Escape × List Char) :=
      (propertyEscape verbose rest).map fun (value, rest) => (.property value negated, rest)
    match c with
    | 'x' => code 2
    | 'u' => code 4
    | 'U' => code 8
    | 'p' => property false
    | 'P' => property true
    | 'd' => some (.shorthand .digit false, rest)
    | 'D' => some (.shorthand .digit true, rest)
    | 's' => some (.shorthand .space false, rest)
    | 'S' => some (.shorthand .space true, rest)
    | 'w' => some (.shorthand .word false, rest)
    | 'W' => some (.shorthand .word true, rest)
    | 'a' => plain '\x07'
    | 'f' => plain '\x0c'
    | 't' => plain '\t'
    | 'n' => plain '\n'
    | 'r' => plain '\r'
    | 'v' => plain '\x0b'
    | 'A' => some (.assertion .textStart, rest)
    | 'z' => some (.assertion .textEnd, rest)
    | 'b' => (boundary verbose rest).map fun (kind, rest) => (.assertion kind, rest)
    | 'B' => some (.assertion .notWordBoundary, rest)
    | '<' => some (.assertion .wordStart, rest)
    | '>' => some (.assertion .wordEnd, rest)
    | c => if isMeta c || isEscapable c then plain c else none

/-! ## Classes -/

def AsciiClass.ofName? : String → Option AsciiClass
  | "alnum" => some .alnum
  | "alpha" => some .alpha
  | "ascii" => some .ascii
  | "blank" => some .blank
  | "cntrl" => some .cntrl
  | "digit" => some .digit
  | "graph" => some .graph
  | "lower" => some .lower
  | "print" => some .print
  | "punct" => some .punct
  | "space" => some .space
  | "upper" => some .upper
  | "word" => some .word
  | "xdigit" => some .xdigit
  | _ => none

/-- Reads a named class of ASCII behind its opening bracket, such as `:alpha:]`. -/
def asciiClass? (text : List Char) : Option (ClassItem × List Char) :=
  match text with
  | ':' :: rest =>
    let negated := rest.head? == some '^'
    let rest := if negated then rest.drop 1 else rest
    let name := rest.takeWhile (· != ':')
    match rest.dropWhile (· != ':') with
    | ':' :: ']' :: rest =>
      (AsciiClass.ofName? (String.ofList name)).map fun value => (.ascii value negated, rest)
    | _ => none
  | _ => none

/-- One end of a range, or an item on its own. -/
def classPrimitive (verbose : Bool) (text : List Char) : Option (Escape × List Char) :=
  match text with
  | [] => none
  | '\\' :: rest => escape verbose rest
  | c :: rest => some (.literal ⟨c, false⟩, rest)

/-- Reads an item that is not a bracket: a range, or what stands alone. -/
def classRange (verbose : Bool) (text : List Char) : Option (ClassItem × List Char) := do
  let (first, rest) ← classPrimitive verbose text
  let rest ← advance? verbose rest
  let next := peekSpace verbose (rest.drop 1)
  if rest.head? != some '-' || next == some ']' || next == some '-' then
    match first with
    | .literal value => return (.literal value, rest)
    | .shorthand value negated => return (.shorthand value negated, rest)
    | .property value negated => return (.property value negated, rest)
    | .assertion _ => none
  else
    let rest ← advance? verbose (rest.drop 1)
    let (last, rest) ← classPrimitive verbose rest
    match first, last with
    | .literal first, .literal last =>
      if first.char ≤ last.char then return (.range first last, rest) else none
    | _, _ => none

def leadingDashes (fuel : Nat) (verbose : Bool) (text : List Char) :
    Option (List ClassItem × List Char) :=
  match fuel, text with
  | fuel + 1, '-' :: rest => do
    let rest ← advance? verbose rest
    let (items, rest) ← leadingDashes fuel verbose rest
    return (.literal ⟨'-', false⟩ :: items, rest)
  | _, _ => some ([], text)

/-- Reads the start of a class behind its bracket: whether it is negated, and the dashes or the
closing bracket that stand for themselves there. -/
def classOpening (verbose : Bool) (text : List Char) :
    Option (Bool × List ClassItem × List Char) := do
  let text ← advance? verbose text
  let negated := text.head? == some '^'
  let text ← if negated then advance? verbose (text.drop 1) else some text
  let (dashes, text) ← leadingDashes text.length verbose text
  if dashes.isEmpty && text.head? == some ']' then
    let text ← advance? verbose (text.drop 1)
    return (negated, [.literal ⟨']', false⟩], text)
  else return (negated, dashes, text)

def combine (left : Option (SetOperation × ClassBody)) (items : List ClassItem) : ClassBody :=
  match left with
  | none => .union items.reverse
  | some (kind, left) => .operation kind left (.union items.reverse)

/-- Reads the body of a class up to its closing bracket.  `items` holds the items of the current
union, the last one first; `left` is what stands to the left of the last operator. -/
def classBody (fuel : Nat) (verbose : Bool) (left : Option (SetOperation × ClassBody))
    (items : List ClassItem) (text : List Char) : Option (ClassBody × List Char) :=
  match fuel with
  | 0 => none
  | fuel + 1 =>
    match skipSpace verbose text with
    | [] => none
    | '[' :: rest =>
      match asciiClass? rest with
      | some (item, rest) => classBody fuel verbose left (item :: items) rest
      | none => do
        let (negated, opening, rest) ← classOpening verbose rest
        let (body, rest) ← classBody fuel verbose none opening.reverse rest
        classBody fuel verbose left (.nested negated body :: items) rest
    | ']' :: rest => some (combine left items, rest)
    | '&' :: '&' :: rest =>
      classBody fuel verbose (some (.intersection, combine left items)) [] rest
    | '-' :: '-' :: rest =>
      classBody fuel verbose (some (.difference, combine left items)) [] rest
    | '~' :: '~' :: rest =>
      classBody fuel verbose (some (.symmetricDifference, combine left items)) [] rest
    | text => do
      let (item, rest) ← classRange verbose text
      classBody fuel verbose left (item :: items) rest

def bracketed (verbose : Bool) (text : List Char) : Option (Node × List Char) := do
  let (negated, opening, rest) ← classOpening verbose text
  let (body, rest) ← classBody (2 * text.length + 1) verbose none opening.reverse rest
  return (.set negated body, rest)

/-! ## Repetition -/

/-- What a repetition operator applies to: the last part, unless that matches nothing by itself. -/
def repeatable? : List Node → Option (Node × List Node)
  | [] | .empty :: _ | .flags _ :: _ => none
  | part :: seen => some (part, seen)

def dropLazy (text : List Char) : List Char :=
  if text.head? == some '?' then text.drop 1 else text

def counts (verbose : Bool) (text : List Char) : Option ((Nat × Option Nat) × List Char) := do
  let text ← advance? verbose text
  let (least, text) ← decimal verbose text
  let (range, text) ← (match text with
    | ',' :: rest => do
      let rest ← advance? verbose rest
      let least ← least
      if rest.head? == some '\x7d' then some ((least, none), rest)
      else
        let (most, rest) ← decimal verbose rest
        let most ← most
        some ((least, some most), rest)
    | text => do
      let least ← least
      some ((least, some least), text))
  match text with
  | '\x7d' :: rest =>
    if range.2.all (range.1 ≤ ·) then return (range, dropLazy (skipSpace verbose rest)) else none
  | _ => none

/-! ## Groups -/

def Flag.ofChar? : Char → Option Flag
  | 'i' => some .caseInsensitive
  | 'm' => some .multiLine
  | 's' => some .dotMatchesNewLine
  | 'U' => some .swapGreed
  | 'u' => some .unicode
  | 'R' => some .crlf
  | 'x' => some .ignoreBlanks
  | _ => none

/-- Reads flags up to a colon or a parenthesis.  No flag may occur twice, nor the dash, and a
flag must follow the dash. -/
def flagChanges (negated : Bool) (seen : FlagChanges) (dangling : Bool) :
    List Char → Option (FlagChanges × List Char)
  | [] => none
  | c :: rest =>
    if c == ':' || c == ')' then (if dangling then none else some (seen.reverse, c :: rest))
    else if c == '-' then (if negated then none else flagChanges true seen true rest)
    else
      (Flag.ofChar? c).bind fun flag =>
        if seen.any fun change => change.1 == flag then none
        else flagChanges negated ((flag, !negated) :: seen) false rest

def isNameChar (first : Bool) (c : Char) : Bool :=
  if first then c == '_' || Unicode.alphabetic.contains c.toNat
  else
    c == '_' || c == '.' || c == '[' || c == ']' || Unicode.alphabetic.contains c.toNat ||
      Unicode.numeric.contains c.toNat

def groupName (text : List Char) : Option (List Char × List Char) :=
  let name := text.takeWhile (· != '>')
  match text.dropWhile (· != '>'), name with
  | '>' :: rest, c :: others =>
    if isNameChar true c && others.all (isNameChar false) then some (name, rest) else none
  | _, _ => none

inductive Opening where
  | setFlags (changes : FlagChanges)
  | group (changes : FlagChanges) (name : Option (List Char))

def opening (verbose : Bool) (text : List Char) : Option (Opening × List Char) :=
  let named (rest : List Char) : Option (Opening × List Char) :=
    (groupName rest).map fun (name, rest) => (.group [] (some name), rest)
  match skipSpace verbose text with
  | '?' :: '=' :: _ | '?' :: '!' :: _ => none
  | '?' :: '<' :: '=' :: _ | '?' :: '<' :: '!' :: _ => none
  | '?' :: 'P' :: '<' :: rest => named rest
  | '?' :: '<' :: rest => named rest
  | '?' :: rest =>
    match flagChanges false [] false rest with
    | some (changes, ')' :: rest) =>
      if changes.isEmpty then none else some (.setFlags changes, rest)
    | some (changes, ':' :: rest) => some (.group changes none, rest)
    | _ => none
  | rest => some (.group [] none, rest)

def verboseAfter (verbose : Bool) (changes : FlagChanges) : Bool :=
  match changes.find? fun change => change.1 == .ignoreBlanks with
  | some (_, on) => on
  | none => verbose

/-! ## Patterns -/

/-- Where reading stands: the text to go, whether blanks are ignored, the names of groups so far. -/
structure Cursor where
  text : List Char
  verbose : Bool
  names : List (List Char)

/-- Reads alternatives up to the end of the text or of the group.  `parts` holds the parts of the
current alternative and `branches` the alternatives before it, the last one first. -/
def alternatives (fuel : Nat) (cursor : Cursor) (branches parts : List Node) :
    Option (Node × Cursor) :=
  match fuel with
  | 0 => none
  | fuel + 1 =>
    let finish := Node.ofBranches ((Node.ofParts parts.reverse :: branches).reverse)
    let verbose := cursor.verbose
    let repeated (least : Nat) (most : Option Nat) (rest : List Char) : Option (Node × Cursor) :=
      (repeatable? parts).bind fun (part, seen) =>
        alternatives fuel { cursor with text := rest } branches
          (.repetition least most part :: seen)
    let single (part : Node) (rest : List Char) : Option (Node × Cursor) :=
      alternatives fuel { cursor with text := rest } branches (part :: parts)
    match skipSpace verbose cursor.text with
    | [] => some (finish, { cursor with text := [] })
    | ')' :: rest => some (finish, { cursor with text := ')' :: rest })
    | '|' :: rest =>
      alternatives fuel { cursor with text := rest } (Node.ofParts parts.reverse :: branches) []
    | '(' :: rest => do
      let (start, rest) ← opening verbose rest
      match start with
      | .setFlags changes =>
        alternatives fuel ⟨rest, verboseAfter verbose changes, cursor.names⟩ branches
          (.flags changes :: parts)
      | .group changes name =>
        let names := name.toList ++ cursor.names
        if name.any cursor.names.contains then none
        else
          let (body, inner) ←
            alternatives fuel ⟨rest, verboseAfter verbose changes, names⟩ [] []
          match inner.text with
          | ')' :: rest =>
            alternatives fuel ⟨rest, verbose, inner.names⟩ branches
              (.group changes body :: parts)
          | _ => none
    | '[' :: rest => do
      let (chars, rest) ← bracketed verbose rest
      single chars rest
    | '?' :: rest => repeated 0 (some 1) (dropLazy rest)
    | '*' :: rest => repeated 0 none (dropLazy rest)
    | '+' :: rest => repeated 1 none (dropLazy rest)
    | '\x7b' :: rest => do
      let ((least, most), rest) ← counts verbose rest
      repeated least most rest
    | '\\' :: rest => do
      let (found, rest) ← escape verbose rest
      match found with
      | .literal value => single (.literal value) rest
      | .assertion kind => single (.assertion kind) rest
      | .shorthand value negated => single (.shorthand value negated) rest
      | .property value negated => single (.property value negated) rest
    | '.' :: rest => single .dot rest
    | '^' :: rest => single (.assertion .lineStart) rest
    | '$' :: rest => single (.assertion .lineEnd) rest
    | c :: rest => single (.literal ⟨c, false⟩) rest

def maxHeight : Nat := 250

def parse? (text : List Char) : Option Node := do
  let (node, cursor) ← alternatives (text.length + 1) ⟨text, false, []⟩ [] []
  if cursor.text.isEmpty && node.height ≤ maxHeight then some node else none

end Verdict.Pattern
