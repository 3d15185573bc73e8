import Verdict.Proofs.Place.Writing
import Mathlib.Tactic.FieldSimp
import Mathlib.Tactic.Ring

/-!
# Rings cut in two

With exact numbers an edge is crossed in both directions or in none (`Place.crosses_comm`).  A chord
between two vertices of a ring cuts it in two, and each of the two rings has the chord for an edge:
what is crossed there is crossed twice.
-/

namespace Verdict
namespace Place

/-! ## Chords -/

/-- Two vertices of a ring, by their positions, that are not next to each other on either way around
it. -/
structure Chord {α : Type} (vertices : List (Place α)) where
  first : Nat
  second : Nat
  apart : first + 1 < second
  inside : second < vertices.length
  around : ¬ (first = 0 ∧ second + 1 = vertices.length)

namespace Chord

variable {α : Type} {vertices : List (Place α)}

/-- The vertices from one end of the chord on to the other. -/
def between (chord : Chord vertices) : List (Place α) :=
  (vertices.take (chord.second + 1)).drop chord.first

/-- The vertices that are not between the ends of the chord. -/
def beyond (chord : Chord vertices) : List (Place α) :=
  vertices.take (chord.first + 1) ++ vertices.drop chord.second

theorem nonempty_iff : Nonempty (Chord vertices) ↔ 4 ≤ vertices.length := by
  constructor
  · rintro ⟨first, second, apart, inside, around⟩
    omega
  · intro four
    exact ⟨0, 2, by omega, by omega, by omega⟩

theorem exists_parts (chord : Chord vertices) :
    ∃ front a middle b back, vertices = front ++ a :: (middle ++ b :: back) ∧
      chord.between = a :: (middle ++ [b]) ∧ chord.beyond = front ++ a :: b :: back ∧
        0 < middle.length ∧ 0 < (back ++ front).length := by
  obtain ⟨first, second, apart, inside, around⟩ := chord
  simp only [between, beyond]
  obtain ⟨front, a, tail, rfl, rfl⟩ : ∃ front a tail, vertices = front ++ a :: tail ∧
      front.length = first :=
    ⟨vertices.take first, vertices[first], vertices.drop (first + 1), by simp, by simp; omega⟩
  rw [List.length_append, List.length_cons] at inside around
  obtain ⟨middle, b, back, rfl, rfl⟩ : ∃ middle b back, tail = middle ++ b :: back ∧
      front.length + middle.length + 1 = second :=
    ⟨tail.take (second - front.length - 1), tail[second - front.length - 1],
      tail.drop (second - front.length - 1 + 1), by simp, by simp; omega⟩
  rw [List.length_append, List.length_cons] at inside around
  have hbehind : front ++ a :: (middle ++ b :: back) =
      (front ++ a :: (middle ++ [b])) ++ back := by simp
  have hbefore : front ++ a :: (middle ++ b :: back) =
      (front ++ [a]) ++ (middle ++ b :: back) := by simp
  have hmiddle : front ++ a :: (middle ++ b :: back) =
      (front ++ a :: middle) ++ b :: back := by simp
  refine ⟨front, a, middle, b, back, rfl, ?_, ?_, by omega, ?_⟩
  · rw [hbehind, List.take_left' (by simp; omega), List.drop_left]
  · have hfirst : ((front ++ [a]) ++ (middle ++ b :: back)).take (front ++ [a]).length =
        front ++ [a] := List.take_left
    have hsecond : ((front ++ a :: middle) ++ b :: back).drop (front ++ a :: middle).length =
        b :: back := List.drop_left
    rw [List.length_append, List.length_singleton, ← hbefore] at hfirst
    rw [List.length_append, List.length_cons, ← hmiddle] at hsecond
    rw [hfirst, Nat.add_assoc, hsecond, List.append_assoc, List.singleton_append]
  · rw [List.length_append]
    omega

end Chord

/-! ## Edges in both directions -/

section Exact

variable {α : Type} [Field α] [LT α] [DecidableLT α] (point : Place α)

theorem lat_ne_of_straddles {α : Type} [LT α] [DecidableLT α] {point a b : Place α}
    (h : straddles point a b = true) : a.lat ≠ b.lat := by
  intro heq
  rw [straddles, heq, bne_self_eq_false] at h
  cases h

theorem meetingLon_comm {α : Type} [Field α] (point : Place α) {a b : Place α}
    (h : a.lat ≠ b.lat) : meetingLon point a b = meetingLon point b a := by
  have hab : a.lat - b.lat ≠ 0 := sub_ne_zero.mpr h
  have hba : b.lat - a.lat ≠ 0 := sub_ne_zero.mpr h.symm
  rw [meetingLon, meetingLon]
  field_simp
  ring

theorem crosses_comm (a b : Place α) : crosses point a b = crosses point b a := by
  have hstraddles : straddles point a b = straddles point b a := Bool.xor_comm _ _
  rw [crosses, crosses, hstraddles]
  split
  · next h => rw [meetingLon_comm point (lat_ne_of_straddles h).symm]
  · rfl

theorem oddCrossings_reverse (path : List (Place α)) :
    oddCrossings point path.reverse = oddCrossings point path := by
  induction path with
  | nil => rfl
  | cons a rest ih =>
      cases rest with
      | nil => rfl
      | cons b others =>
          have hedge : oddCrossings point [b, a] = crosses point b a :=
            (Bool.xor_false _).trans (crosses_comm point a b)
          calc
            oddCrossings point (a :: b :: others).reverse =
                oddCrossings point (others.reverse ++ b :: [a]) := by
              rw [List.reverse_cons, List.reverse_cons, List.append_assoc, List.singleton_append]
            _ = (oddCrossings point (b :: others).reverse ^^ oddCrossings point [b, a]) := by
              rw [oddCrossings_append, List.reverse_cons]
            _ = (crosses point b a ^^ oddCrossings point (b :: others)) := by
              rw [ih, hedge, Bool.xor_comm]

/-! ## Rings -/

theorem inRing_reverse (vertices : List (Place α)) :
    inRing point vertices.reverse = inRing point vertices := by
  cases vertices with
  | nil => rfl
  | cons a back =>
      by_cases three : 3 ≤ (a :: back).length
      · have three' : 3 ≤ (a :: back.reverse).length := by
          rwa [List.length_cons, List.length_reverse]
        calc
          inRing point (a :: back).reverse = inRing point (a :: back.reverse) := by
            rw [List.reverse_cons, inRing_append_comm]
            rfl
          _ = oddCrossings point (a :: (back.reverse ++ [a])) :=
            inRing_cons_eq_oddCrossings point three'
          _ = oddCrossings point (a :: (back ++ [a])).reverse := by
            rw [List.reverse_cons, List.reverse_append, List.reverse_singleton,
              List.singleton_append, List.cons_append]
          _ = oddCrossings point (a :: (back ++ [a])) := oddCrossings_reverse point _
          _ = inRing point (a :: back) := (inRing_cons_eq_oddCrossings point three).symm
      · rw [inRing, inRing, if_pos (Nat.lt_of_not_le three), if_pos]
        rw [List.length_reverse]
        exact Nat.lt_of_not_le three

/-- The way around a ring goes from one end of a chord to the other and back.  Around both smaller
rings one of these parts is followed by the chord. -/
theorem inRing_cut {a b : Place α} {middle outer : List (Place α)} (hmiddle : 0 < middle.length)
    (houter : 0 < outer.length) :
    inRing point (a :: (middle ++ b :: outer)) =
      (inRing point (a :: (middle ++ [b])) ^^ inRing point (a :: b :: outer)) := by
  have hwhole : inRing point (a :: (middle ++ b :: outer)) =
      (oddCrossings point (a :: (middle ++ [b])) ^^ oddCrossings point (b :: (outer ++ [a]))) := by
    rw [inRing_cons_eq_oddCrossings point (by simp; omega), List.append_assoc, ← List.cons_append]
    exact oddCrossings_append point (a :: middle) b (outer ++ [a])
  have hone : inRing point (a :: (middle ++ [b])) =
      (oddCrossings point (a :: (middle ++ [b])) ^^ crosses point a b) := by
    rw [inRing_cons_eq_oddCrossings point (by simp; omega), List.append_assoc, ← List.cons_append,
      List.singleton_append, oddCrossings_append]
    exact congrArg (_ ^^ ·) (Bool.xor_false _)
  have hother : inRing point (a :: b :: outer) =
      (crosses point a b ^^ oddCrossings point (b :: (outer ++ [a]))) := by
    rw [inRing_cons_eq_oddCrossings point (by simp; omega), crosses_comm point a b]
    rfl
  rw [hwhole, hone, hother, Bool.xor_assoc, ← Bool.xor_assoc (crosses point a b), Bool.xor_self,
    Bool.false_xor]

/-- A chord cuts a ring in two.  A point lies in the whole ring if and only if it lies in one of the
two and not in the other, and it does not matter which way around the ring is written. -/
theorem inRing_cut_by_chord (point : Place α) (vertices : List (Place α)) :
    (∀ chord : Chord vertices,
        inRing point vertices = (inRing point chord.between ^^ inRing point chord.beyond)) ∧
      inRing point vertices.reverse = inRing point vertices := by
  refine ⟨?_, inRing_reverse point vertices⟩
  intro chord
  obtain ⟨front, a, middle, b, back, rfl, hbetween, hbeyond, hmiddle, houter⟩ :=
    chord.exists_parts
  have hwhole : inRing point (front ++ a :: (middle ++ b :: back)) =
      inRing point (a :: (middle ++ b :: (back ++ front))) := by
    rw [inRing_append_comm point (a :: (middle ++ b :: back)), List.cons_append, List.append_assoc,
      List.cons_append]
  have hother : inRing point (front ++ a :: b :: back) =
      inRing point (a :: b :: (back ++ front)) := by
    rw [inRing_append_comm point (a :: b :: back), List.cons_append, List.cons_append]
  rw [hbetween, hbeyond, hwhole, hother, inRing_cut point hmiddle houter]

end Exact

example :
    inRing (⟨5, 5⟩ : Place ℚ) [⟨0, 0⟩, ⟨0, 10⟩, ⟨10, 10⟩, ⟨10, 0⟩] = true ∧
      inRing (⟨5, 5⟩ : Place ℚ) [⟨0, 0⟩, ⟨0, 10⟩, ⟨10, 10⟩] = true ∧
      inRing (⟨5, 5⟩ : Place ℚ) [⟨0, 0⟩, ⟨10, 10⟩, ⟨10, 0⟩] = false := by
  norm_num [inRing, edges, crosses, straddles, meetingLon]

end Place
end Verdict
