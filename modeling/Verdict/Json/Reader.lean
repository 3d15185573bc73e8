import Verdict.Decimal.Reading
import Verdict.Json.Value
import Verdict.Json.Tree

/-!
# Reading values

`Json.parse` reads a text as a value; the first problem from left to right is the one reported.
-/

namespace Verdict

/-! ## Numbers -/

namespace Json.Literal

/-- Digits gathered into a significand of 64 bits, with the power of ten it is scaled by. -/
structure Significand where
  value : Nat
  exponent : Int

/-- Gathers digits while the significand stays below `2 ^ 64`; `some` rest means it was full. -/
def gather (value : Nat) : List Nat → Nat × List Nat
  | [] => (value, [])
  | digit :: rest =>
    if value * 10 + digit < powerOfTwo 64 then gather (value * 10 + digit) rest
    else (value, digit :: rest)

/-- The significand of the digits on both sides of the point.  Digits that no longer fit before
the point scale it, those that no longer fit behind the point are dropped. -/
def significand (number : Literal) : Significand :=
  let (whole, excess) := gather 0 number.whole
  let fraction := number.fraction.getD []
  let (value, dropped) := gather whole fraction
  ⟨value, (excess.length : Int) - (fraction.length - dropped.length : Nat)⟩

def greatestPower : Nat := 308

/-- `value · 10 ^ exponent` for a negative exponent, by at most `10 ^ 308` at a time. -/
def divideByPower (fuel : Nat) (value : Float) (exponent : Nat) : Float :=
  match fuel with
  | 0 => 0
  | fuel + 1 =>
    if exponent ≤ greatestPower then value / Decimal.nearest 1 exponent
    else if value == 0 then value
    else
      divideByPower fuel (value / Decimal.nearest 1 greatestPower)
        (exponent - greatestPower)

/-- `significand · 10 ^ exponent`, if it is finite. -/
def scale (significand : Nat) (exponent : Int) : Option Float :=
  let value := (UInt64.ofNat significand).toFloat
  if exponent < 0 then some (divideByPower 4 value exponent.natAbs)
  else if exponent.natAbs ≤ greatestPower then
    let value := value * Decimal.nearest 1 exponent
    if value.isInf then none else some value
  else if value == 0 then some value
  else none

def ofDigits (digits : List Nat) : Nat :=
  digits.foldl (fun total digit => total * 10 + digit) 0

/-- The magnitude of a literal as a float, if it is finite. -/
def magnitude? (number : Literal) : Option Float :=
  let found := number.significand
  match number.exponent with
  | none => scale found.value found.exponent
  | some (negative, digits) =>
    let power := ofDigits digits
    if 2147483647 < power then
      if found.value = 0 ∨ negative then some 0 else none
    else scale found.value (found.exponent + (if negative then -(power : Int) else (power : Int)))

/-- The number a literal stands for, if it is finite.  A whole number within 64 bits is an
integer; a negative zero is a float, as integers have none. -/
def number? (number : Literal) : Option Number :=
  let asFloat := number.magnitude?.map fun value =>
    Number.float (if number.negative then -value else value)
  match number.fraction, number.exponent with
  | none, none =>
    let value := ofDigits number.whole
    if number.negative then
      if value ≠ 0 ∧ Number.minInt ≤ -(value : Int) then some (.int (-value)) else asFloat
    else if value ≤ Number.maxInt then some (.int value)
    else asFloat
  | _, _ => asFloat

end Json.Literal

/-! ## Strings -/

namespace Json.Quoted

/-- The characters of the pieces.  A leading surrogate must be followed by a trailing one. -/
def charsLoop (fault : Option Fault) : List Piece → Except Fault (List Char)
  | [] =>
    match fault with
    | none => .ok []
    | some fault => .error fault
  | .char c :: rest => (charsLoop fault rest).map (c :: ·)
  | .unit lead :: rest =>
    if 0xDC00 ≤ lead ∧ lead < 0xE000 then .error .malformed
    else if 0xD800 ≤ lead ∧ lead < 0xDC00 then
      match rest with
      | [] => .error (fault.getD .malformed)
      | .unit trail :: rest =>
        if 0xDC00 ≤ trail ∧ trail < 0xE000 then
          let c := Char.ofNat (0x10000 + (lead - 0xD800) * 0x400 + (trail - 0xDC00))
          (charsLoop fault rest).map (c :: ·)
        else .error .malformed
      | .char _ :: _ => .error .malformed
    else (charsLoop fault rest).map (Char.ofNat lead :: ·)

def text (string : Quoted) : Except Fault String :=
  (charsLoop string.fault string.pieces).map String.ofList

end Json.Quoted

/-! ## Values -/

namespace Json

def maxDepth : Nat := 127

mutual

/-- The value of a tree at a place where `room` more levels of nesting are allowed. -/
def ofTree (room : Nat) : Tree → Except Fault Json
  | .null => .ok null
  | .bool value => .ok (bool value)
  | .number literal =>
    match literal.number? with
    | some value => .ok (number value)
    | none => .error .malformed
  | .string value => value.text.map string
  | .array items ending =>
    match room with
    | 0 => .error .malformed
    | room + 1 => do
      let items ← ofItems room items
      match ending with
      | .closed => .ok (array items)
      | .broken fault | .dangling fault => .error fault
  | .object fields fault =>
    match room with
    | 0 => .error .malformed
    | room + 1 => do
      let pairs ← ofFieldTrees room fields
      match fault with
      | none => .ok (ofFields pairs)
      | some fault => .error fault
  | .fault fault => .error fault

def ofItems (room : Nat) : List Tree → Except Fault (List Json)
  | [] => .ok []
  | item :: rest => do
    let value ← ofTree room item
    let values ← ofItems room rest
    return value :: values

def ofFieldTrees (room : Nat) : List (Quoted × Tree) → Except Fault (List (String × Json))
  | [] => .ok []
  | (name, value) :: rest => do
    let name ← name.text
    let value ← ofTree room value
    let pairs ← ofFieldTrees room rest
    return (name, value) :: pairs

end

def parse (text : String) : Except Fault Json := do
  let document := Document.read text.toList
  let value ← ofTree maxDepth document.value
  if document.trailing then .error .malformed else .ok value

end Json
end Verdict
