import Verdict.Proofs.Place.Cutting
import Mathlib.Algebra.Order.Field.Basic
import Mathlib.Data.List.MinMax
import Mathlib.Tactic.GCongr

/-!
# The bounds of a ring

An edge that is crossed meets the latitude of the point further east, between its own ends
(`Place.meetingLon_bounds`).  For the west one edge is not enough: a path that comes back to where
it set out leads past a latitude an even number of times (`Place.oddCrossings_of_west`).
-/

namespace Verdict
namespace Place

/-! ## Sides of a latitude -/

section Order

variable {α : Type} [LinearOrder α] {point a b : Place α}

/-- A point is not beyond the outermost of the places given.  It may be level with the southernmost
and with the westernmost of them, but not with the other two. -/
structure WithinBounds (point : Place α) (places : List (Place α)) : Prop where
  south : (places.map lat).minimum ≤ point.lat
  north : point.lat < (places.map lat).maximum
  west : (places.map lon).minimum ≤ point.lon
  east : point.lon < (places.map lon).maximum

theorem straddles_iff :
    straddles point a b = true ↔
      a.lat ≤ point.lat ∧ point.lat < b.lat ∨ b.lat ≤ point.lat ∧ point.lat < a.lat := by
  rw [straddles, bne_iff_ne, ne_eq, decide_eq_decide, ← not_lt, ← not_lt]
  tauto

theorem straddles_xor_straddles (point a b c : Place α) :
    (straddles point b a ^^ straddles point c b) = straddles point c a := by
  simp only [straddles, Bool.bne_eq_xor]
  rw [Bool.xor_comm, Bool.xor_assoc, ← Bool.xor_assoc (decide (point.lat < b.lat)), Bool.xor_self,
    Bool.false_xor]

end Order

/-! ## Crossed edges -/

variable {α : Type} [Field α] [LinearOrder α] {point a b : Place α}

theorem crosses_iff :
    crosses point a b = true ↔ straddles point a b = true ∧ point.lon < meetingLon point a b := by
  rw [crosses]
  split
  · next h => rw [decide_eq_true_iff, and_iff_right h]
  · next h => exact iff_of_false Bool.false_ne_true fun hboth => h hboth.1

theorem exists_crossed {path : List (Place α)} (odd : oddCrossings point path = true) :
    ∃ a ∈ path, ∃ b ∈ path, crosses point a b = true := by
  induction path with
  | nil => exact absurd odd Bool.false_ne_true
  | cons first rest ih =>
      cases rest with
      | nil => exact absurd odd Bool.false_ne_true
      | cons second others =>
          by_cases hcrossed : crosses point second first = true
          · exact ⟨second, by simp, first, by simp, hcrossed⟩
          · rw [oddCrossings_cons_cons, eq_false_of_ne_true hcrossed, Bool.false_xor] at odd
            obtain ⟨a, ha, b, hb, hab⟩ := ih odd
            exact ⟨a, List.mem_cons_of_mem _ ha, b, List.mem_cons_of_mem _ hb, hab⟩

theorem exists_path_of_inRing {vertices : List (Place α)} (inside : inRing point vertices = true) :
    ∃ first between, oddCrossings point (first :: (between ++ [first])) = true ∧
      ∀ vertex ∈ first :: (between ++ [first]), vertex ∈ vertices := by
  have three : 3 ≤ vertices.length := by
    by_contra htwo
    rw [inRing, if_pos (Nat.lt_of_not_le htwo)] at inside
    exact Bool.false_ne_true inside
  obtain ⟨first, between, rfl⟩ := List.exists_cons_of_length_pos (Nat.zero_lt_of_lt three)
  refine ⟨first, between, inRing_cons_eq_oddCrossings point three ▸ inside, ?_⟩
  intro vertex hvertex
  rw [List.mem_cons, List.mem_append, List.mem_singleton] at hvertex
  rcases hvertex with rfl | hbetween | rfl
  · exact List.mem_cons_self
  · exact List.mem_cons_of_mem _ hbetween
  · exact List.mem_cons_self

variable [IsStrictOrderedRing α]

/-! ## Meetings -/

/-- An edge that leads past a latitude meets it neither before its start nor beyond its end. -/
theorem share_unit (h : straddles point a b = true) :
    0 ≤ (point.lat - a.lat) / (b.lat - a.lat) ∧ (point.lat - a.lat) / (b.lat - a.lat) ≤ 1 := by
  rcases straddles_iff.mp h with ⟨hstart, hend⟩ | ⟨hend, hstart⟩
  · have hrise : 0 < b.lat - a.lat := sub_pos.mpr (hstart.trans_lt hend)
    refine ⟨div_nonneg (sub_nonneg.mpr hstart) hrise.le, ?_⟩
    rw [div_le_one hrise]
    exact sub_le_sub_right hend.le _
  · have hfall : b.lat - a.lat < 0 := sub_neg.mpr (hend.trans_lt hstart)
    refine ⟨div_nonneg_of_nonpos (sub_nonpos.mpr hstart.le) hfall.le, ?_⟩
    rw [div_le_one_of_neg hfall]
    exact sub_le_sub_right hend _

theorem meetingLon_bounds (h : straddles point a b = true) :
    min a.lon b.lon ≤ meetingLon point a b ∧ meetingLon point a b ≤ max a.lon b.lon := by
  obtain ⟨hnonneg, hle⟩ := share_unit h
  rw [meetingLon, mul_div_assoc]
  generalize (point.lat - a.lat) / (b.lat - a.lat) = share at hnonneg hle ⊢
  have hrest : 0 ≤ 1 - share := sub_nonneg.mpr hle
  have hmean : (b.lon - a.lon) * share + a.lon = (1 - share) * a.lon + share * b.lon := by ring
  rw [hmean]
  constructor
  · calc
      min a.lon b.lon = (1 - share) * min a.lon b.lon + share * min a.lon b.lon := by ring
      _ ≤ (1 - share) * a.lon + share * b.lon := by
        gcongr
        · exact min_le_left _ _
        · exact min_le_right _ _
  · calc
      (1 - share) * a.lon + share * b.lon ≤
          (1 - share) * max a.lon b.lon + share * max a.lon b.lon := by
        gcongr
        · exact le_max_left _ _
        · exact le_max_right _ _
      _ = max a.lon b.lon := by ring

/-- An edge to the east of a point is crossed as soon as it leads past its latitude. -/
theorem crosses_of_west (ha : point.lon < a.lon) (hb : point.lon < b.lon) :
    crosses point a b = straddles point a b := by
  rw [Bool.eq_iff_iff, crosses_iff, and_iff_left_iff_imp]
  intro h
  exact (lt_min ha hb).trans_le (meetingLon_bounds h).1

/-! ## To the west of a ring -/

/-- A path to the east of a point is crossed an odd number of times exactly if it ends on the other
side of the latitude of the point. -/
theorem oddCrossings_of_west {first last : Place α} {between : List (Place α)}
    (west : ∀ vertex ∈ first :: (between ++ [last]), point.lon < vertex.lon) :
    oddCrossings point (first :: (between ++ [last])) = straddles point last first := by
  induction between generalizing first with
  | nil =>
      have hcrosses := crosses_of_west (west last (by simp)) (west first (by simp))
      rw [List.nil_append, oddCrossings_cons_cons, hcrosses]
      exact Bool.xor_false _
  | cons next others ih =>
      have hcrosses := crosses_of_west (west next (by simp)) (west first (by simp))
      have hrest := ih fun vertex hvertex => west vertex (List.mem_cons_of_mem _ hvertex)
      rw [List.cons_append, oddCrossings_cons_cons, hcrosses, hrest]
      exact straddles_xor_straddles point first next last

/-- A point to the west of all vertices has an even number of edges before it. -/
theorem exists_lon_le_of_inRing {vertices : List (Place α)}
    (inside : inRing point vertices = true) :
    ∃ a ∈ vertices, a.lon ≤ point.lon := by
  by_contra hnone
  obtain ⟨first, between, odd, hmem⟩ := exists_path_of_inRing inside
  have hwest : ∀ vertex ∈ first :: (between ++ [first]), point.lon < vertex.lon := by
    intro vertex hvertex
    exact lt_of_not_ge fun hle => hnone ⟨vertex, hmem vertex hvertex, hle⟩
  rw [oddCrossings_of_west hwest] at odd
  exact lat_ne_of_straddles odd rfl

/-! ## All around a ring -/

/-- A point that lies in a ring is not beyond its outermost vertices, whether or not the ring is
convex and whether or not its edges cross each other. -/
theorem withinBounds_of_inRing {point : Place α} {vertices : List (Place α)}
    (inside : inRing point vertices = true) : point.WithinBounds vertices := by
  obtain ⟨first, between, odd, hmem⟩ := exists_path_of_inRing inside
  obtain ⟨a, ha, b, hb, hcrosses⟩ := exists_crossed odd
  obtain ⟨hstraddles, heast⟩ := crosses_iff.mp hcrosses
  have hmin {coordinate : Place α → α} {place : Place α} {bound : α} (hplace : place ∈ vertices)
      (hle : coordinate place ≤ bound) : (vertices.map coordinate).minimum ≤ bound :=
    (List.minimum_le_of_mem' (List.mem_map_of_mem hplace)).trans (WithTop.coe_le_coe.mpr hle)
  have hmax {coordinate : Place α → α} {place : Place α} {bound : α} (hplace : place ∈ vertices)
      (hlt : bound < coordinate place) : bound < (vertices.map coordinate).maximum :=
    (WithBot.coe_lt_coe.mpr hlt).trans_le (List.le_maximum_of_mem' (List.mem_map_of_mem hplace))
  obtain ⟨c, hc, hwest⟩ := exists_lon_le_of_inRing inside
  -- The ends of the crossed edge are on different sides of the latitude, and one is further east
  -- than the meeting.
  have hfar : point.lon < max a.lon b.lon := heast.trans_le (meetingLon_bounds hstraddles).2
  have hlon : point.lon < (vertices.map lon).maximum :=
    (lt_max_iff.mp hfar).elim (hmax (hmem a ha)) (hmax (hmem b hb))
  rcases straddles_iff.mp hstraddles with ⟨hsouth, hnorth⟩ | ⟨hsouth, hnorth⟩
  · exact ⟨hmin (hmem a ha) hsouth, hmax (hmem b hb) hnorth, hmin hc hwest, hlon⟩
  · exact ⟨hmin (hmem b hb) hsouth, hmax (hmem a ha) hnorth, hmin hc hwest, hlon⟩

def hourglass : List (Place ℚ) :=
  [⟨0, 0⟩, ⟨0, 10⟩, ⟨10, 0⟩, ⟨10, 10⟩]

theorem withinBounds_of_inRing_hourglass :
    inRing ⟨0, 0⟩ hourglass = true ∧ WithinBounds ⟨0, 0⟩ hourglass := by
  have inside : inRing ⟨0, 0⟩ hourglass = true := by
    norm_num [hourglass, inRing, edges, crosses, straddles, meetingLon]
  exact ⟨inside, withinBounds_of_inRing inside⟩

end Place
end Verdict
