import Verdict.Operator.Geo
import Verdict.Proofs.Decimal.ExactValue
import Mathlib.Data.List.Rotate

/-!
# Rings written in other ways

A point lies in a ring if its ray crosses an odd number of the edges of the closed path around the
ring, from whichever vertex the path sets out (`Place.inRing_eq_oddCrossings`).  Nothing is assumed
of sums, differences, products and quotients here, so all of this holds however they are rounded.
-/

namespace Verdict
namespace Place

/-! ## Other ways to write a ring -/

section Lists

variable {α : Type} {vertices written : List (Place α)}

/-- The lists of vertices that a ring can be written as, step by step: from another vertex on, with
a vertex repeated right after itself, or closed by its first vertex. -/
inductive Rewritten (vertices : List (Place α)) : List (Place α) → Prop where
  | unchanged : Rewritten vertices vertices
  | rotated {written : List (Place α)} (h : Rewritten vertices written) (n : Nat) :
      Rewritten vertices (written.rotate n)
  | repeated {front : List (Place α)} {a : Place α} {back : List (Place α)}
      (h : Rewritten vertices (front ++ a :: back)) (times : Nat) :
      Rewritten vertices (front ++ List.replicate (times + 1) a ++ back)
  | closed {first : Place α} {rest : List (Place α)} (h : Rewritten vertices (first :: rest)) :
      Rewritten vertices (first :: rest ++ [first])

theorem Rewritten.length_le (h : Rewritten vertices written) :
    vertices.length ≤ written.length := by
  induction h with
  | unchanged => exact Nat.le_refl _
  | rotated h n ih => rwa [List.length_rotate]
  | repeated h times ih =>
      simp only [List.length_append, List.length_cons, List.length_replicate] at ih ⊢
      omega
  | closed h ih => exact ih.trans (by rw [List.length_append]; omega)

end Lists

section Numbers

variable {α : Type} [LT α] [DecidableLT α] [Add α] [Sub α] [Mul α] [Div α]

/-! ## Paths -/

/-- Whether the ray from a point crosses an odd number of the edges of a path. -/
def oddCrossings (point : Place α) : List (Place α) → Bool
  | a :: b :: rest => crosses point b a ^^ oddCrossings point (b :: rest)
  | _ => false

variable (point : Place α)

theorem oddCrossings_cons_cons (a b : Place α) (rest : List (Place α)) :
    oddCrossings point (a :: b :: rest) = (crosses point b a ^^ oddCrossings point (b :: rest)) :=
  rfl

theorem oddCrossings_append (front : List (Place α)) (a : Place α) (back : List (Place α)) :
    oddCrossings point (front ++ a :: back) =
      (oddCrossings point (front ++ [a]) ^^ oddCrossings point (a :: back)) := by
  induction front with
  | nil => exact (Bool.false_xor _).symm
  | cons first rest ih =>
      cases rest with
      | nil =>
          simp only [List.cons_append, List.nil_append, oddCrossings, Bool.xor_false]
      | cons second others =>
          simp only [List.cons_append, oddCrossings_cons_cons] at ih ⊢
          rw [ih, Bool.xor_assoc]

theorem crosses_self (a : Place α) : crosses point a a = false := by
  rw [crosses, straddles, bne_self_eq_false]
  rfl

/-! ## Rings -/

theorem foldl_edges (last : Place α) (vertices : List (Place α)) (inside : Bool) :
    (vertices.zip (last :: vertices)).foldl
        (fun inside edge => if crosses point edge.1 edge.2 then !inside else inside) inside =
      (inside ^^ oddCrossings point (last :: vertices)) := by
  induction vertices generalizing last inside with
  | nil => exact (Bool.xor_false inside).symm
  | cons vertex rest ih =>
      rw [List.zip_cons_cons, List.foldl_cons, ih vertex, oddCrossings_cons_cons, ← Bool.xor_assoc]
      cases crosses point vertex last with
      | false => rw [Bool.xor_false]; rfl
      | true => rw [Bool.xor_true]; rfl

/-- The path around a ring may set out from any vertex. -/
theorem inRing_eq_oddCrossings {front : List (Place α)} {a : Place α} {back : List (Place α)}
    (three : 3 ≤ (front ++ a :: back).length) :
    inRing point (front ++ a :: back) = oddCrossings point (a :: (back ++ front ++ [a])) := by
  have hring : ∀ last, (front ++ a :: back).getLast? = some last →
      inRing point (front ++ a :: back) = oddCrossings point (last :: (front ++ a :: back)) := by
    intro last hlast
    rw [inRing, if_neg (by omega), edges, hlast]
    exact (foldl_edges point last _ false).trans (Bool.false_xor _)
  cases back using List.reverseRecOn with
  | nil => exact hring a List.getLast?_concat
  | append_singleton back last =>
      have hlast : (front ++ a :: (back ++ [last])).getLast? = some last := by
        rw [← List.cons_append, ← List.append_assoc, List.getLast?_concat]
      calc
        inRing point (front ++ a :: (back ++ [last])) =
            oddCrossings point ((last :: front) ++ a :: (back ++ [last])) := hring last hlast
        _ = (oddCrossings point (last :: (front ++ [a])) ^^
              oddCrossings point (a :: back ++ [last])) := oddCrossings_append point _ a _
        _ = (oddCrossings point (a :: back ++ [last]) ^^
              oddCrossings point (last :: (front ++ [a]))) := Bool.xor_comm _ _
        _ = oddCrossings point (a :: back ++ last :: (front ++ [a])) :=
            (oddCrossings_append point _ last _).symm
        _ = oddCrossings point (a :: (back ++ [last] ++ front ++ [a])) := by
            simp only [List.cons_append, List.append_assoc, List.nil_append]

theorem inRing_cons_eq_oddCrossings {a : Place α} {back : List (Place α)}
    (three : 3 ≤ (a :: back).length) :
    inRing point (a :: back) = oddCrossings point (a :: (back ++ [a])) := by
  have hring : inRing point ([] ++ a :: back) = oddCrossings point (a :: (back ++ [] ++ [a])) :=
    inRing_eq_oddCrossings point three
  rwa [List.append_nil] at hring

theorem inRing_append_comm (front back : List (Place α)) :
    inRing point (back ++ front) = inRing point (front ++ back) := by
  cases back with
  | nil => rw [List.nil_append, List.append_nil]
  | cons a back =>
      have hlength : (a :: (back ++ front)).length = (front ++ a :: back).length := by
        simp only [List.length_cons, List.length_append]
        omega
      by_cases three : 3 ≤ (front ++ a :: back).length
      · rw [inRing_eq_oddCrossings point three]
        exact inRing_cons_eq_oddCrossings point (hlength ▸ three)
      · rw [inRing, inRing, if_pos (Nat.lt_of_not_le three), if_pos]
        exact hlength ▸ Nat.lt_of_not_le three

theorem inRing_rotate (vertices : List (Place α)) (n : Nat) :
    inRing point (vertices.rotate n) = inRing point vertices := by
  rw [List.rotate_eq_drop_append_take_mod, inRing_append_comm, List.take_append_drop]

theorem inRing_cons_cons_self {front : List (Place α)} {a : Place α} {back : List (Place α)}
    (three : 3 ≤ (front ++ a :: back).length) :
    inRing point (front ++ a :: a :: back) = inRing point (front ++ a :: back) := by
  have three' : 3 ≤ (front ++ a :: a :: back).length := by
    simp only [List.length_append, List.length_cons] at three ⊢
    omega
  rw [inRing_eq_oddCrossings point three', inRing_eq_oddCrossings point three]
  exact (congrArg (· ^^ _) (crosses_self point a)).trans (Bool.false_xor _)

theorem inRing_replicate {front : List (Place α)} {a : Place α} {back : List (Place α)}
    (three : 3 ≤ (front ++ a :: back).length) (times : Nat) :
    inRing point (front ++ List.replicate (times + 1) a ++ back) =
      inRing point (front ++ a :: back) := by
  induction times with
  | zero => rw [List.append_assoc]; rfl
  | succ times ih =>
      have three' : 3 ≤ (front ++ a :: (List.replicate times a ++ back)).length := by
        simp only [List.length_append, List.length_cons] at three ⊢
        omega
      have hrepeat := inRing_cons_cons_self point three'
      rw [← ih, List.append_assoc, List.append_assoc]
      exact hrepeat

theorem inRing_concat_first {first : Place α} {rest : List (Place α)}
    (three : 3 ≤ (first :: rest).length) :
    inRing point (first :: rest ++ [first]) = inRing point (first :: rest) := by
  have hrepeat : inRing point ([] ++ first :: first :: rest) = inRing point ([] ++ first :: rest) :=
    inRing_cons_cons_self point three
  rw [inRing_append_comm point [first]]
  exact hrepeat

theorem Rewritten.inRing_eq {vertices written : List (Place α)} (h : Rewritten vertices written)
    (three : 3 ≤ vertices.length) : inRing point written = inRing point vertices := by
  induction h with
  | unchanged => rfl
  | rotated h n ih => rw [inRing_rotate, ih]
  | repeated h times ih => rw [inRing_replicate point (three.trans h.length_le), ih]
  | closed h ih => rw [inRing_concat_first point (three.trans h.length_le), ih]

/-! ## Divisions -/

/-- The relation holds only between numbers that no comparison tells apart. -/
def Indistinct (same : α → α → Bool) : Prop :=
  ∀ a b c, same a b = true → (c < a ↔ c < b)

section Checked

variable (same : α → α → Bool)

def meetingLon? (point a b : Place α) : Option α :=
  if same a.lat b.lat then none else some (meetingLon point a b)

/-- Whether the ray from a point crosses an edge, without a result if a quotient is taken for an
edge that keeps to one latitude. -/
def crosses? (point a b : Place α) : Option Bool :=
  if straddles point a b then
    (meetingLon? same point a b).map fun lon => decide (point.lon < lon)
  else some false

def inRing? (point : Place α) (vertices : List (Place α)) : Option Bool :=
  if vertices.length < 3 then some false
  else
    (edges vertices).foldlM
      (fun inside edge =>
        (crosses? same point edge.1 edge.2).map fun crossed => if crossed then !inside else inside)
      false

variable {same} (indistinct : Indistinct same)

include indistinct

theorem crosses?_eq (a b : Place α) : crosses? same point a b = some (crosses point a b) := by
  by_cases hstraddles : straddles point a b = true
  · have hdifferent : ¬ same a.lat b.lat = true := by
      intro hsame
      have hiff := indistinct a.lat b.lat point.lat hsame
      simp [straddles, hiff] at hstraddles
    rw [crosses?, crosses, if_pos hstraddles, if_pos hstraddles, meetingLon?, if_neg hdifferent,
      Option.map_some]
  · rw [crosses?, crosses, if_neg hstraddles, if_neg hstraddles]

theorem inRing?_eq (vertices : List (Place α)) :
    inRing? same point vertices = some (inRing point vertices) := by
  rw [inRing?, inRing]
  split
  · rfl
  · simp only [crosses?_eq point indistinct, Option.map_some]
    exact List.foldlM_pure

end Checked

/-- From whichever vertex on a ring is written, with vertices repeated or closed by its first
vertex, the same points lie in it.  No quotient is taken on the way for an edge that keeps to one
latitude. -/
theorem inRing_of_rewritten {vertices written : List (Place α)} (three : 3 ≤ vertices.length)
    (rewritten : Rewritten vertices written) :
    inRing point written = inRing point vertices ∧
      ∀ same : α → α → Bool, Indistinct same →
        inRing? same point written = some (inRing point vertices) := by
  have heq := rewritten.inRing_eq point three
  refine ⟨heq, ?_⟩
  intro same indistinct
  rw [← heq]
  exact inRing?_eq point indistinct written

end Numbers

/-- Floats can be compared as equal and differ in the sign of a zero. -/
theorem indistinct_beq : Indistinct fun a b : Float => a == b :=
  fun _ _ _ h => ExactValue.lt_right_congr h _

def square : List (Place Float) :=
  [⟨0, 0⟩, ⟨-0, 10⟩, ⟨10, 10⟩, ⟨10, 0⟩]

def closedSquare : List (Place Float) :=
  [⟨10, 10⟩, ⟨10, 10⟩, ⟨10, 10⟩, ⟨10, 0⟩, ⟨0, 0⟩, ⟨-0, 10⟩, ⟨10, 10⟩]

theorem inRing_of_rewritten_closedSquare :
    3 ≤ square.length ∧ Rewritten square closedSquare ∧
      inRing ⟨5, 5⟩ closedSquare = inRing ⟨5, 5⟩ square ∧ inRing ⟨5, 5⟩ square = true ∧
      inRing? (fun a b : Float => a == b) ⟨5, 5⟩ closedSquare = some true := by
  have three : 3 ≤ square.length := by decide
  have rotated : Rewritten square ([] ++ ⟨10, 10⟩ :: [⟨10, 0⟩, ⟨0, 0⟩, ⟨-0, 10⟩]) :=
    .rotated .unchanged 2
  have rewritten : Rewritten square closedSquare := .closed (.repeated rotated 2)
  have inside : inRing ⟨5, 5⟩ square = true := by decide
  obtain ⟨heq, hchecked⟩ := inRing_of_rewritten ⟨5, 5⟩ three rewritten
  exact ⟨three, rewritten, heq, inside, inside ▸ hchecked _ indistinct_beq⟩

end Place
end Verdict
