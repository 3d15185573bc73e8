import Verdict.Pattern.Basic
import Verdict.Pattern.Parser
import Verdict.Unicode.Folding

/-!
# The meaning of patterns

Flags hold from where they are set to the end of the group around them.  With Unicode off, classes
hold ASCII only, and a class that would go beyond ASCII is refused, as is the dot.  Case is folded
before a class is negated.
-/

namespace Verdict.Pattern

structure Flags where
  caseInsensitive : Bool := false
  multiLine : Bool := false
  dotMatchesNewLine : Bool := false
  unicode : Bool := true
  crlf : Bool := false

/-- Turns one flag on or off.  Greed and blanks have no part in what a pattern means. -/
def Flags.change (flags : Flags) : Flag × Bool → Flags
  | (.caseInsensitive, on) => { flags with caseInsensitive := on }
  | (.multiLine, on) => { flags with multiLine := on }
  | (.dotMatchesNewLine, on) => { flags with dotMatchesNewLine := on }
  | (.unicode, on) => { flags with unicode := on }
  | (.crlf, on) => { flags with crlf := on }
  | (.swapGreed, _) | (.ignoreBlanks, _) => flags

def Flags.changed (flags : Flags) (changes : FlagChanges) : Flags :=
  changes.foldl Flags.change flags

/-! ## Classes -/

def charRanges (ranges : List (Char × Char)) : CharSet :=
  CharSet.ofRanges (ranges.map fun (first, last) => (first.toNat, last.toNat))

def asciiWords : CharSet := charRanges [('0', '9'), ('A', 'Z'), ('_', '_'), ('a', 'z')]

def AsciiClass.chars : AsciiClass → CharSet
  | .alnum => charRanges [('0', '9'), ('A', 'Z'), ('a', 'z')]
  | .alpha => charRanges [('A', 'Z'), ('a', 'z')]
  | .ascii => CharSet.range 0 0x7F
  | .blank => charRanges [('\t', '\t'), (' ', ' ')]
  | .cntrl => CharSet.ofRanges [(0, 0x1F), (0x7F, 0x7F)]
  | .digit => charRanges [('0', '9')]
  | .graph => charRanges [('!', '~')]
  | .lower => charRanges [('a', 'z')]
  | .print => charRanges [(' ', '~')]
  | .punct => charRanges [('!', '/'), (':', '@'), ('[', '\x60'), ('\x7b', '~')]
  | .space => CharSet.ofRanges [(9, 13), (32, 32)]
  | .upper => charRanges [('A', 'Z')]
  | .word => asciiWords
  | .xdigit => charRanges [('0', '9'), ('A', 'F'), ('a', 'f')]

def Shorthand.chars (unicode : Bool) : Shorthand → CharSet
  | .digit => if unicode then Unicode.digits else AsciiClass.digit.chars
  | .space => if unicode then Unicode.spaces else AsciiClass.space.chars
  | .word => if unicode then Unicode.words else asciiWords

/-- Refuses a class beyond ASCII while Unicode is off. -/
def allowed (flags : Flags) (chars : CharSet) : Option CharSet :=
  if flags.unicode || chars.isAscii then some chars else none

def folded (flags : Flags) (chars : CharSet) : CharSet :=
  if flags.caseInsensitive then
    (if flags.unicode then Unicode.foldCase chars else Unicode.foldAsciiCase chars)
  else chars

def negatedIf (negated : Bool) (chars : CharSet) : CharSet :=
  if negated then chars.complement else chars

def shorthandChars (flags : Flags) (value : Shorthand) (negated : Bool) : Option CharSet :=
  allowed flags (negatedIf negated (value.chars flags.unicode))

def PropertyName.chars? : PropertyName → Option CharSet
  | .named name => Unicode.named? name
  | .valued property value => Unicode.valued? property value

/-- The set of a property or its complement; properties need Unicode. -/
def propertyChars (flags : Flags) (value : PropertyName) (negated : Bool) : Option CharSet :=
  if flags.unicode then value.chars?.map fun chars => negatedIf negated (folded flags chars)
  else none

/-- A character as a member of a class.  While Unicode is off it must be one of ASCII. -/
def memberCode (flags : Flags) (value : Literal) : Option Nat :=
  if flags.unicode || value.char.toNat < 128 then some value.char.toNat else none

mutual

def ClassItem.chars (flags : Flags) : ClassItem → Option CharSet
  | .literal value => (memberCode flags value).map fun code => CharSet.range code code
  | .range first last =>
    (memberCode flags first).bind fun first =>
      (memberCode flags last).map fun last => CharSet.range first last
  | .shorthand value negated => shorthandChars flags value negated
  | .ascii value negated => allowed flags (negatedIf negated (folded flags value.chars))
  | .property value negated => propertyChars flags value negated
  | .nested negated body =>
    (body.chars flags).bind fun chars => allowed flags (negatedIf negated (folded flags chars))

/-- The members of the body of a class, before its case is folded. -/
def ClassBody.chars (flags : Flags) : ClassBody → Option CharSet
  | .union items => (itemsChars flags items).map CharSet.ofRanges
  | .operation kind left right =>
    (left.chars flags).bind fun left =>
      (right.chars flags).map fun right =>
        let left := folded flags left
        let right := folded flags right
        match kind with
        | .intersection => left.intersection right
        | .difference => left.difference right
        | .symmetricDifference => left.symmetricDifference right

def itemsChars (flags : Flags) : List ClassItem → Option (List (Nat × Nat))
  | [] => some []
  | item :: rest =>
    (item.chars flags).bind fun chars =>
      (itemsChars flags rest).map fun ranges => chars.ranges ++ ranges

end

/-! ## Patterns -/

def dotChars (flags : Flags) : CharSet :=
  if flags.dotMatchesNewLine then .full
  else if flags.crlf then (charRanges [('\n', '\n'), ('\r', '\r')]).complement
  else (CharSet.single '\n').complement

def Assertion.look (flags : Flags) (kind : Assertion) : Look :=
  let words := Shorthand.word.chars flags.unicode
  match kind with
  | .lineStart =>
    if flags.multiLine then (if flags.crlf then .mixedLineStart else .lineStart) else .start
  | .lineEnd =>
    if flags.multiLine then (if flags.crlf then .mixedLineFinish else .lineFinish) else .finish
  | .textStart => .start
  | .textEnd => .finish
  | .wordBoundary => .boundary words
  | .notWordBoundary => .notBoundary words
  | .wordStart => .wordStart words
  | .wordEnd => .wordFinish words
  | .wordStartHalf => .noWordBefore words
  | .wordEndHalf => .noWordAfter words

/-- A literal character; a byte escape beyond ASCII is refused while Unicode is off. -/
def literalPattern (flags : Flags) (value : Literal) : Option Pattern :=
  if !flags.unicode && value.byteEscape && 128 ≤ value.char.toNat then none
  else some (.set (folded flags (.single value.char)))

mutual

/-- What a part means under the flags in force, and the flags in force behind it. -/
def Node.meaning (flags : Flags) : Node → Option (Pattern × Flags)
  | .empty => some (.empty, flags)
  | .flags changes => some (.empty, flags.changed changes)
  | .literal value => (literalPattern flags value).map fun pattern => (pattern, flags)
  | .dot => if flags.unicode then some (.set (dotChars flags), flags) else none
  | .assertion kind => some (.look (kind.look flags), flags)
  | .shorthand value negated =>
    (shorthandChars flags value negated).map fun chars => (.set chars, flags)
  | .property value negated =>
    (propertyChars flags value negated).map fun chars => (.set chars, flags)
  | .set negated body =>
    (body.chars flags).bind fun chars =>
      (allowed flags (negatedIf negated (folded flags chars))).map fun chars =>
        (.set chars, flags)
  | .repetition least most body =>
    (body.meaning flags).map fun (pattern, flags) => (.repetition least most pattern, flags)
  | .group changes body =>
    (body.meaning (flags.changed changes)).map fun (pattern, _) => (pattern, flags)
  | .alternation branches =>
    (nodesMeaning flags branches).map fun (patterns, flags) => (ofBranches patterns, flags)
  | .concatenation parts =>
    (nodesMeaning flags parts).map fun (patterns, flags) => (ofParts patterns, flags)

def nodesMeaning (flags : Flags) : List Node → Option (List Pattern × Flags)
  | [] => some ([], flags)
  | node :: rest =>
    (node.meaning flags).bind fun (pattern, flags) =>
      (nodesMeaning flags rest).map fun (patterns, flags) => (pattern :: patterns, flags)

end

end Verdict.Pattern
