import Verdict.Text.Digit

/-!
# JSON text

Text is first read into a tree that keeps what the text says and where it stops making sense.
Whoever interprets the tree from left to right then meets the first problem of the text, whether it
is a fault of the grammar, a number out of range or a value of the wrong shape.
-/

namespace Verdict.Json

inductive Fault where
  /-- The text stops before the value is complete. -/
  | ended
  /-- The text is not JSON, or a number or string in it has no value. -/
  | malformed
  /-- The text is JSON of the wrong shape. -/
  | mismatch
deriving DecidableEq

structure Literal where
  negative : Bool
  whole : List Nat
  fraction : Option (List Nat)
  /-- The exponent, if there is one: whether it is negative, and its digits. -/
  exponent : Option (Bool × List Nat)

/-- A piece of a string: a character, or four hexadecimal digits that name a UTF-16 unit. -/
inductive Piece where
  | char (value : Char)
  | unit (value : Nat)

/-- A string as it is written, up to its end or its first fault. -/
structure Quoted where
  pieces : List Piece
  fault : Option Fault

inductive Ending where
  | closed
  /-- No bracket and no comma follows. -/
  | broken (fault : Fault)
  /-- A comma follows and then no item. -/
  | dangling (fault : Fault)

/-- A value as it is written.  Nothing is read behind a fault. -/
inductive Tree where
  | null
  | bool (value : Bool)
  | number (value : Literal)
  | string (value : Quoted)
  | array (items : List Tree) (ending : Ending)
  | object (fields : List (Quoted × Tree)) (fault : Option Fault)
  | fault (value : Fault)

/-- A text: one value, and whether anything but blanks follows it. -/
structure Document where
  value : Tree
  trailing : Bool

/-! ## Characters -/

/-- The four blanks of the grammar. -/
def isBlank (c : Char) : Bool :=
  c == ' ' || c == '\n' || c == '\t' || c == '\r'

def skipBlanks (text : List Char) : List Char :=
  text.dropWhile isBlank

/-- The fault met where the text does not go on as it has to. -/
def faultAt (text : List Char) : Fault :=
  if text.isEmpty then .ended else .malformed

def digits (text : List Char) : List Nat × List Char :=
  ((text.takeWhile Char.isDigit).map Text.digitValue, text.dropWhile Char.isDigit)

/-! ## Strings -/

/-- The fault where fewer than four characters follow `\u`: the text has ended if they are fewer
than four bytes. -/
def shortUnitFault (text : List Char) : Fault :=
  if (String.ofList text).utf8ByteSize < 4 then .ended else .malformed

def shortEscape? : Char → Option Char
  | '"' => some '"'
  | '\\' => some '\\'
  | '/' => some '/'
  | 'b' => some '\x08'
  | 'f' => some '\x0c'
  | 'n' => some '\n'
  | 'r' => some '\r'
  | 't' => some '\t'
  | _ => none

/-- Reads up to the closing quote; `seen` holds the pieces read so far, the last one first. -/
def quotedBehind (seen : List Piece) : List Char → Quoted × List Char
  | [] => (⟨seen.reverse, some .ended⟩, [])
  | '"' :: rest => (⟨seen.reverse, none⟩, rest)
  | '\\' :: [] => (⟨seen.reverse, some .ended⟩, [])
  | '\\' :: 'u' :: a :: b :: c :: d :: rest =>
    match Text.hexNumeral? [a, b, c, d] with
    | some value => quotedBehind (.unit value :: seen) rest
    | none => (⟨seen.reverse, some .malformed⟩, [])
  | '\\' :: 'u' :: rest => (⟨seen.reverse, some (shortUnitFault rest)⟩, [])
  | '\\' :: letter :: rest =>
    match shortEscape? letter with
    | some value => quotedBehind (.char value :: seen) rest
    | none => (⟨seen.reverse, some .malformed⟩, [])
  | c :: rest =>
    if c.toNat < 32 then (⟨seen.reverse, some .malformed⟩, [])
    else quotedBehind (.char c :: seen) rest

def quoted (text : List Char) : Quoted × List Char :=
  quotedBehind [] text

/-! ## Numbers -/

def exponentPart (text : List Char) : Except Fault (Option (Bool × List Nat) × List Char) :=
  let signed (negative : Bool) (text : List Char) :=
    match digits text with
    | ([], rest) => .error (faultAt rest)
    | (found, rest) => .ok (some (negative, found), rest)
  match text with
  | 'e' :: '+' :: rest | 'E' :: '+' :: rest => signed false rest
  | 'e' :: '-' :: rest | 'E' :: '-' :: rest => signed true rest
  | 'e' :: rest | 'E' :: rest => signed false rest
  | _ => .ok (none, text)

def fractionPart (text : List Char) : Except Fault (Option (List Nat) × List Char) :=
  match text with
  | '.' :: rest =>
    match digits rest with
    | ([], rest) => .error (faultAt rest)
    | (found, rest) => .ok (some found, rest)
  | _ => .ok (none, text)

/-- Reads the digits before the point, which start with zero only when they are one zero. -/
def wholePart (text : List Char) : Except Fault (List Nat × List Char) :=
  match digits text with
  | ([], rest) => .error (faultAt rest)
  | (0 :: _ :: _, _) => .error .malformed
  | found => .ok found

def literal (text : List Char) : Except Fault (Literal × List Char) := do
  let (negative, text) := match text with
    | '-' :: rest => (true, rest)
    | _ => (false, text)
  let (whole, text) ← wholePart text
  let (fraction, text) ← fractionPart text
  let (exponent, text) ← exponentPart text
  return (⟨negative, whole, fraction, exponent⟩, text)

/-! ## Values -/

def word (value : Tree) : List Char → List Char → Tree × List Char
  | [], text => (value, text)
  | _ :: _, [] => (.fault .ended, [])
  | c :: letters, d :: text => if c = d then word value letters text else (.fault .malformed, [])

mutual

/-- Reads a value.  The second part tells where to go on, and is missing behind a fault. -/
def valueTree (fuel : Nat) (text : List Char) : Tree × Option (List Char) :=
  match fuel with
  | 0 => (.fault .ended, none)
  | fuel + 1 =>
    let ofWord (value : Tree) (letters rest : List Char) : Tree × Option (List Char) :=
      match word value letters rest with
      | (.fault fault, _) => (.fault fault, none)
      | (value, rest) => (value, some rest)
    match skipBlanks text with
    | [] => (.fault .ended, none)
    | '[' :: rest =>
      match skipBlanks rest with
      | ']' :: rest => (.array [] .closed, some rest)
      | rest =>
        let (items, ending, rest) := itemTrees fuel false rest
        (.array items ending, rest)
    | '\x7b' :: rest =>
      match skipBlanks rest with
      | '\x7d' :: rest => (.object [] none, some rest)
      | rest =>
        let (fields, fault, rest) := fieldTrees fuel rest
        (.object fields fault, rest)
    | '"' :: rest =>
      match quoted rest with
      | (value, rest) => (.string value, if value.fault.isSome then none else some rest)
    | 'n' :: rest => ofWord .null ['u', 'l', 'l'] rest
    | 't' :: rest => ofWord (.bool true) ['r', 'u', 'e'] rest
    | 'f' :: rest => ofWord (.bool false) ['a', 'l', 's', 'e'] rest
    | c :: rest =>
      if c == '-' || c.isDigit then
        match literal (c :: rest) with
        | .ok (value, rest) => (.number value, some rest)
        | .error fault => (.fault fault, none)
      else (.fault .malformed, none)

/-- Reads items up to the closing bracket; `comma` says that one has just been read. -/
def itemTrees (fuel : Nat) (comma : Bool) (text : List Char) :
    List Tree × Ending × Option (List Char) :=
  match fuel with
  | 0 => ([], .broken .ended, none)
  | fuel + 1 =>
    match skipBlanks text with
    | [] => ([], if comma then .dangling .ended else .broken .ended, none)
    | ']' :: _ => ([], .dangling .malformed, none)
    | text =>
      match valueTree fuel text with
      | (value, none) => ([value], .closed, none)
      | (value, some rest) =>
        match skipBlanks rest with
        | ']' :: rest => ([value], .closed, some rest)
        | ',' :: rest =>
          let (items, ending, rest) := itemTrees fuel true rest
          (value :: items, ending, rest)
        | rest => ([value], .broken (faultAt rest), none)

def fieldTrees (fuel : Nat) (text : List Char) :
    List (Quoted × Tree) × Option Fault × Option (List Char) :=
  match fuel with
  | 0 => ([], some .ended, none)
  | fuel + 1 =>
    match skipBlanks text with
    | '"' :: rest =>
      match quoted rest with
      | (name, rest) =>
        if name.fault.isSome then ([(name, .null)], none, none)
        else
          match skipBlanks rest with
          | ':' :: rest =>
            match valueTree fuel rest with
            | (value, none) => ([(name, value)], none, none)
            | (value, some rest) =>
              match skipBlanks rest with
              | '\x7d' :: rest => ([(name, value)], none, some rest)
              | ',' :: rest =>
                let (fields, fault, rest) := fieldTrees fuel rest
                ((name, value) :: fields, fault, rest)
              | rest => ([(name, value)], some (faultAt rest), none)
          | rest => ([(name, .fault (faultAt rest))], none, none)
    | rest => ([], some (faultAt rest), none)

end

def Document.read (text : List Char) : Document :=
  match valueTree (2 * text.length + 2) text with
  | (value, none) => ⟨value, false⟩
  | (value, some rest) => ⟨value, !(skipBlanks rest).isEmpty⟩

/-! ## Faults of the grammar alone -/

mutual

/-- The first fault of the grammar in a tree.  Numbers out of range and unpaired surrogates are
none, so this is all that a reader minds in a value that it skips. -/
def Tree.grammarFault? : Tree → Option Fault
  | .null | .bool _ | .number _ => none
  | .string value => value.fault
  | .array items ending =>
    (itemsFault? items).or (match ending with
      | .closed => none
      | .broken fault | .dangling fault => some fault)
  | .object fields fault => (fieldsFault? fields).or fault
  | .fault value => some value

def itemsFault? : List Tree → Option Fault
  | [] => none
  | item :: rest => (item.grammarFault?).or (itemsFault? rest)

def fieldsFault? : List (Quoted × Tree) → Option Fault
  | [] => none
  | (name, value) :: rest => (name.fault.or value.grammarFault?).or (fieldsFault? rest)

end

end Verdict.Json
