/-!
# Dot paths

A path names a place inside nested objects by the names met on the way, joined by dots.  Every text
is a path, and segments may be empty.
-/

namespace Verdict.DotPath

def splitDots : List Char → List (List Char)
  | [] => [[]]
  | c :: rest =>
    if c = '.' then [] :: splitDots rest
    else
      match splitDots rest with
      | [] => [[c]]
      | part :: parts => (c :: part) :: parts

/-- The segments of a path. -/
def segments (path : String) : List String :=
  (splitDots path.toList).map String.ofList

/-- A path that can name a place: it is not empty and no segment of it is. -/
def isProper (path : String) : Bool :=
  (segments path).all fun segment => !segment.isEmpty

/-! ## Laws -/

theorem splitDots_ne_nil (text : List Char) : splitDots text ≠ [] := by
  cases text with
  | nil => simp [splitDots]
  | cons c rest =>
    unfold splitDots
    split
    · simp
    · split <;> simp

theorem segments_ne_nil (path : String) : segments path ≠ [] := by
  simp [segments, splitDots_ne_nil]

end Verdict.DotPath
