/-!
# Patterns as they are written

The structure of a pattern text before flags and named classes are given a meaning.  A literal
remembers whether it was written as a byte escape.
-/

namespace Verdict.Pattern

inductive Flag where
  | caseInsensitive
  | multiLine
  | dotMatchesNewLine
  | swapGreed
  | unicode
  | crlf
  | ignoreBlanks
deriving DecidableEq

/-- Flags turned on and off, in the order written. -/
abbrev FlagChanges := List (Flag × Bool)

structure Literal where
  char : Char
  byteEscape : Bool
deriving DecidableEq

/-- The classes `\d`, `\s` and `\w`. -/
inductive Shorthand where
  | digit
  | space
  | word
deriving DecidableEq

/-- The named classes of ASCII, such as `[:alpha:]`. -/
inductive AsciiClass where
  | alnum | alpha | ascii | blank | cntrl | digit | graph | lower | print | punct | space | upper
  | word | xdigit
deriving DecidableEq

/-- A property of code points, named alone or with a value. -/
inductive PropertyName where
  | named (name : List Char)
  | valued (property value : List Char)

inductive SetOperation where
  | intersection
  | difference
  | symmetricDifference

mutual

inductive ClassItem where
  | literal (value : Literal)
  | range (first last : Literal)
  | shorthand (value : Shorthand) (negated : Bool)
  | ascii (value : AsciiClass) (negated : Bool)
  | property (value : PropertyName) (negated : Bool)
  | nested (negated : Bool) (body : ClassBody)

inductive ClassBody where
  | union (items : List ClassItem)
  | operation (kind : SetOperation) (left right : ClassBody)

end

inductive Assertion where
  | lineStart
  | lineEnd
  | textStart
  | textEnd
  | wordBoundary
  | notWordBoundary
  | wordStart
  | wordEnd
  | wordStartHalf
  | wordEndHalf
deriving DecidableEq

/-- A pattern as it is written. -/
inductive Node where
  | empty
  | flags (changes : FlagChanges)
  | literal (value : Literal)
  | dot
  | assertion (kind : Assertion)
  | shorthand (value : Shorthand) (negated : Bool)
  | property (value : PropertyName) (negated : Bool)
  | set (negated : Bool) (body : ClassBody)
  | repetition (least : Nat) (most : Option Nat) (body : Node)
  | group (changes : FlagChanges) (body : Node)
  | alternation (branches : List Node)
  | concatenation (parts : List Node)

/-! ## Nesting -/

mutual

def ClassItem.height : ClassItem → Nat
  | .nested _ body => body.height + 1
  | _ => 0

/-- How deep the parts of a class are nested.  A union counts if it has more than one item. -/
def ClassBody.height : ClassBody → Nat
  | .union [] => 0
  | .union [item] => item.height
  | .union (first :: second :: rest) =>
    max first.height (max second.height (itemsHeight rest)) + 1
  | .operation _ left right => max left.height right.height + 1

def itemsHeight : List ClassItem → Nat
  | [] => 0
  | item :: rest => max item.height (itemsHeight rest)

end

mutual

/-- How deep the parts of a pattern are nested. -/
def Node.height : Node → Nat
  | .set _ body => body.height + 1
  | .repetition _ _ body => body.height + 1
  | .group _ body => body.height + 1
  | .alternation branches => nodesHeight branches + 1
  | .concatenation parts => nodesHeight parts + 1
  | _ => 0

def nodesHeight : List Node → Nat
  | [] => 0
  | node :: rest => max node.height (nodesHeight rest)

end

/-- Several parts one after another; a single part stands alone. -/
def Node.ofParts : List Node → Node
  | [] => .empty
  | [part] => part
  | parts => .concatenation parts

def Node.ofBranches : List Node → Node
  | [branch] => branch
  | branches => .alternation branches

end Verdict.Pattern
