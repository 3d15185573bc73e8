import Verdict.Text.CharSet

/-!
# Patterns as sets of texts

A pattern leads from a place of a text to every place where a match that starts there can end.
`Moves.ends` follows a whole set of places at once, so that neither captures nor greed play a part.
-/

namespace Verdict

inductive Look where
  | start
  | finish
  | lineStart
  | lineFinish
  /-- The start of a line where a carriage return, a line feed or both of them end lines. -/
  | mixedLineStart
  | mixedLineFinish
  /-- A place between two characters of which exactly one belongs to a word. -/
  | boundary (words : CharSet)
  | notBoundary (words : CharSet)
  | wordStart (words : CharSet)
  | wordFinish (words : CharSet)
  | noWordBefore (words : CharSet)
  | noWordAfter (words : CharSet)

inductive Pattern where
  | empty
  | set (chars : CharSet)
  | look (condition : Look)
  | sequence (first second : Pattern)
  | choice (first second : Pattern)
  | repetition (least : Nat) (most : Option Nat) (body : Pattern)

/-- Whether a condition holds between two characters, either of which may be missing. -/
def Look.holds (condition : Look) (before after : Option Char) : Bool :=
  let inWord (words : CharSet) (char : Option Char) : Bool :=
    char.any fun c => words.contains c.toNat
  match condition with
  | start => before.isNone
  | finish => after.isNone
  | lineStart => before.isNone || before == some '\n'
  | lineFinish => after.isNone || after == some '\n'
  | mixedLineStart =>
    before.isNone || before == some '\n' || (before == some '\r' && after != some '\n')
  | mixedLineFinish =>
    after.isNone || after == some '\r' || (after == some '\n' && before != some '\r')
  | boundary words => inWord words before != inWord words after
  | notBoundary words => inWord words before == inWord words after
  | wordStart words => !inWord words before && inWord words after
  | wordFinish words => inWord words before && !inWord words after
  | noWordBefore words => !inWord words before
  | noWordAfter words => !inWord words after

/-- A set of places of a text: place `i` is a member if bit `i` is set. -/
abbrev Places := Nat

namespace Places

def upTo (last : Nat) (test : Nat → Bool) : Places :=
  (List.range (last + 1)).foldl (fun places i => if test i then places ||| 1 <<< i else places) 0

end Places

/-- A pattern over a given text. -/
inductive Moves where
  | stay
  | step (places : Places)
  | check (places : Places)
  | sequence (first second : Moves)
  | choice (first second : Moves)
  | repetition (least : Nat) (most : Option Nat) (body : Moves)

namespace Moves

/-- Applies a function so many times, or until it changes nothing any more. -/
def times (f : Places → Places) : Nat → Places → Places
  | 0, places => places
  | count + 1, places =>
    let next := f places
    if next = places then places else times f count next

/-- Where a pattern can end when it starts at one of the places.  A repetition without an upper
limit needs no more rounds than the text has places. -/
def ends (size : Nat) : Moves → Places → Places
  | stay, places => places
  | step allowed, places => (places &&& allowed) <<< 1
  | check allowed, places => places &&& allowed
  | sequence first second, places => second.ends size (first.ends size places)
  | choice first second, places => first.ends size places ||| second.ends size places
  | repetition least most body, places =>
    let required := times (body.ends size) least places
    let more := match most with
      | some most => most - least
      | none => size + 1
    times (fun places => places ||| body.ends size places) more required

end Moves

namespace Pattern

def placesOf (text : Array Char) (chars : CharSet) : Places :=
  Places.upTo text.size fun i => text[i]?.any fun c => chars.contains c.toNat

def placesWhere (text : Array Char) (condition : Look) : Places :=
  Places.upTo text.size fun i =>
    condition.holds (if i = 0 then none else text[i - 1]?) text[i]?

def moves (text : Array Char) : Pattern → Moves
  | empty => .stay
  | set chars => .step (placesOf text chars)
  | look condition => .check (placesWhere text condition)
  | sequence first second => .sequence (first.moves text) (second.moves text)
  | choice first second => .choice (first.moves text) (second.moves text)
  | repetition least most body => .repetition least most (body.moves text)

/-- Whether a pattern matches somewhere in a text. -/
def occursIn (pattern : Pattern) (text : List Char) : Bool :=
  let text := text.toArray
  (pattern.moves text).ends text.size (Places.upTo text.size fun _ => true) != 0

def ofParts : List Pattern → Pattern
  | [] => empty
  | [part] => part
  | part :: rest => sequence part (ofParts rest)

def ofBranches : List Pattern → Pattern
  | [] => set .empty
  | [branch] => branch
  | branch :: rest => choice branch (ofBranches rest)

end Pattern
end Verdict
