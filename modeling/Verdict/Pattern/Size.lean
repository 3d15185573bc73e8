import Verdict.Pattern.Basic
import Verdict.Decimal.Power

/-!
# The size of patterns

The size of a pattern is that of an automaton over the bytes of UTF-8: a repetition counts its body
as often as it is written out, and a set of characters counts the byte sequences of its members.
-/

namespace Verdict.Pattern

/-! ## Byte sequences -/

/-- The greatest code points with one, two and three bytes. -/
def lengthLimits : List Nat := [0x7F, 0x7FF, 0xFFFF]

def cutAt (first last : Nat) : List Nat → List (Nat × Nat)
  | [] => [(first, last)]
  | limit :: limits =>
    if first ≤ limit ∧ limit < last then (first, limit) :: cutAt (limit + 1) last limits
    else cutAt first last limits

/-- Cuts a range so that the low `bits` bits of its ends are all zeros and all ones, unless the
ends agree in all other bits. -/
def cutAligned (bits first last : Nat) : List (Nat × Nat) :=
  let block := powerOfTwo bits
  if first / block = last / block then [(first, last)]
  else
    let head := if first % block = 0 then [] else [(first, first / block * block + block - 1)]
    let start := if first % block = 0 then first else first / block * block + block
    let tail := if last % block = block - 1 then [] else [(last / block * block, last)]
    let stop := if last % block = block - 1 then last + 1 else last / block * block
    head ++ (if start < stop then [(start, stop - 1)] else []) ++ tail

def bytes (code : Nat) : List Nat :=
  if code < 0x80 then [code]
  else if code < 0x800 then [0xC0 + code / 64, 0x80 + code % 64]
  else if code < 0x10000 then [0xE0 + code / 4096, 0x80 + code / 64 % 64, 0x80 + code % 64]
  else
    [0xF0 + code / 262144, 0x80 + code / 4096 % 64, 0x80 + code / 64 % 64, 0x80 + code % 64]

/-- The sequences of byte ranges of a set of characters. -/
def byteSequences (chars : CharSet) : List (List (Nat × Nat)) :=
  let pieces := chars.ranges.flatMap fun (first, last) => cutAt first last lengthLimits
  let pieces := pieces.flatMap fun (first, last) => cutAligned 6 first last
  let pieces := pieces.flatMap fun (first, last) => cutAligned 12 first last
  let pieces := pieces.flatMap fun (first, last) => cutAligned 18 first last
  pieces.map fun (first, last) => (bytes first).zip (bytes last)

def sharedStart : List (Nat × Nat) → List (Nat × Nat) → Nat
  | a :: as, b :: bs => if a = b then sharedStart as bs + 1 else 0
  | _, _ => 0

/-- The states of an automaton that reads sequences given in order and shares their starts. -/
def sharedStates (last : List (Nat × Nat)) : List (List (Nat × Nat)) → Nat
  | [] => 0
  | current :: rest =>
    current.length - sharedStart last current + sharedStates current rest

/-! ## Sizes -/

def stateSize : Nat := 32

def setSize (chars : CharSet) : Nat :=
  if chars.isAscii then stateSize + 8 * chars.ranges.length
  else
    let sequences := byteSequences chars
    stateSize * (sharedStates [] sequences + 1) + 4 * sequences.length

def isWidthless : Pattern → Bool
  | empty | look _ => true
  | set _ => false
  | sequence first second => first.isWidthless && second.isWidthless
  | choice first second => first.isWidthless && second.isWidthless
  | repetition _ most body => most == some 0 || body.isWidthless

def size : Pattern → Nat
  | empty => stateSize
  | set chars => setSize chars
  | look _ => stateSize
  | sequence first second => first.size + second.size
  | choice first second => first.size + second.size + stateSize
  | repetition least most body =>
    let least := if body.isWidthless then min least 1 else least
    let most := if body.isWidthless then most.map (min 1) else most
    match most with
    | none => max least 1 * body.size + stateSize
    | some most => least * body.size + (most - least) * (body.size + stateSize)

def maxSize : Nat := powerOfTwo 20

end Verdict.Pattern
