/-!
# Sets of characters

A set of code points is a list of ranges in increasing order that neither overlap nor touch.  Tables
of code points are texts of numbers in base 26: the digits of a number are small letters, except
that the last one is a capital.
-/

namespace Verdict

/-- A set of code points as ranges from a first to a last one. -/
structure CharSet where
  ranges : List (Nat × Nat)
deriving DecidableEq, Inhabited

namespace CharSet

def maxCode : Nat := 0x10FFFF

def empty : CharSet := ⟨[]⟩

def full : CharSet := ⟨[(0, maxCode)]⟩

def range (first last : Nat) : CharSet :=
  if first ≤ last then ⟨[(first, last)]⟩ else empty

def single (c : Char) : CharSet := range c.toNat c.toNat

def contains (set : CharSet) (code : Nat) : Bool :=
  set.ranges.any fun (first, last) => first ≤ code && code ≤ last

def isAscii (set : CharSet) : Bool :=
  set.ranges.all fun (_, last) => last < 128

/-- Joins ranges that overlap or touch, given by increasing start. -/
def coalesce (current : Nat × Nat) : List (Nat × Nat) → List (Nat × Nat)
  | [] => [current]
  | next :: rest =>
    if next.1 ≤ current.2 + 1 then coalesce (current.1, max current.2 next.2) rest
    else current :: coalesce next rest

def ofRanges (ranges : List (Nat × Nat)) : CharSet :=
  match ranges.mergeSort fun a b => a.1 ≤ b.1 with
  | [] => empty
  | first :: rest => ⟨coalesce first rest⟩

def union (a b : CharSet) : CharSet :=
  ofRanges (a.ranges ++ b.ranges)

/-- The gaps between ranges, from a code point on. -/
def gaps (start : Nat) : List (Nat × Nat) → List (Nat × Nat)
  | [] => if start ≤ maxCode then [(start, maxCode)] else []
  | (first, last) :: rest =>
    if start < first then (start, first - 1) :: gaps (last + 1) rest else gaps (last + 1) rest

def complement (set : CharSet) : CharSet :=
  ⟨gaps 0 set.ranges⟩

def intersection (a b : CharSet) : CharSet :=
  (a.complement.union b.complement).complement

def difference (a b : CharSet) : CharSet :=
  a.intersection b.complement

def symmetricDifference (a b : CharSet) : CharSet :=
  (a.difference b).union (b.difference a)

end CharSet

namespace Unicode

/-- The numbers of a table; `value` is what the digits read so far are worth. -/
def decodeLoop (value : Nat) : List Char → List Nat
  | [] => []
  | c :: rest =>
    if 'a' ≤ c ∧ c ≤ 'z' then decodeLoop (value * 26 + (c.toNat - 'a'.toNat)) rest
    else (value * 26 + (c.toNat - 'A'.toNat)) :: decodeLoop 0 rest

/-- The numbers of a table, which may be cut into lines anywhere. -/
def decodeNumbers (table : List String) : List Nat :=
  decodeLoop 0 (table.flatMap String.toList)

/-- Runs that cover all code points from `start` on: a label with a first and a last one. -/
def runsFrom (start : Nat) : List Nat → List (Nat × Nat × Nat)
  | label :: length :: rest =>
    (label, start, start + length) :: runsFrom (start + length + 1) rest
  | _ => []

def decodeRuns (table : List String) : List (Nat × Nat × Nat) :=
  runsFrom 0 (decodeNumbers table)

/-- Ranges given by gaps and lengths, behind a code point. -/
def rangesFrom (last : Nat) : List Nat → List (Nat × Nat)
  | gap :: length :: rest =>
    (last + gap, last + gap + length) :: rangesFrom (last + gap + length) rest
  | _ => []

def decodeRanges (table : List String) : List (Nat × Nat) :=
  rangesFrom 0 (decodeNumbers table)

end Unicode
end Verdict
