import Verdict.Operator.Collection
import Verdict.Proofs.Json.Content
import Mathlib.Data.Set.Image

/-!
# The algebra of sets of values

An array stands for the set of the contents of its items.  Each operator of the family is a relation
between two such sets (`Operator.SetTest`), so what holds between the operators is what holds
between the relations.
-/

namespace Verdict
namespace Operator

open Json

/-- The set that an array stands for. -/
def elements (items : List Json) : Set Content :=
  content '' {item | item ∈ items}

theorem elements_eq_of_mem_iff {items others : List Json}
    (h : ∀ item, item ∈ items ↔ item ∈ others) : elements items = elements others :=
  congrArg (content '' ·) (Set.ext h)

theorem elements_singleton (value : Json) : elements [value] = {value.content} := by
  rw [elements, ← Set.image_singleton]
  exact congrArg (content '' ·) (Set.ext fun _ => List.mem_singleton)

section Items

variable {items others : List Json} (hitems : CanonicalItems items)

include hitems

theorem isItem_iff_mem_elements {value : Json} (hvalue : value.Canonical) :
    isItem value items = true ↔ value.content ∈ elements items := by
  rw [isItem, List.any_eq_true, elements, Set.mem_image]
  refine exists_congr fun item => and_congr_right fun hitem => ?_
  exact equal_iff_content_eq (canonicalItems_iff.mp hitems item hitem) hvalue

variable (hothers : CanonicalItems others)

include hothers

theorem all_isItem_iff_subset :
    others.all (isItem · items) = true ↔ elements others ⊆ elements items := by
  rw [List.all_eq_true, elements, Set.image_subset_iff]
  refine forall₂_congr fun other hother => ?_
  exact isItem_iff_mem_elements hitems (canonicalItems_iff.mp hothers other hother)

theorem any_isItem_iff_inter_nonempty :
    others.any (isItem · items) = true ↔ (elements others ∩ elements items).Nonempty := by
  rw [List.any_eq_true, elements, Set.image_inter_nonempty_iff]
  refine exists_congr fun other => and_congr_right fun hother => ?_
  exact isItem_iff_mem_elements hitems (canonicalItems_iff.mp hothers other hother)

end Items

/-- A test of two arrays that only asks how their sets are related. -/
structure SetTest (test : Test) (relation : Set Content → Set Content → Prop) : Prop where
  arrays {items others : List Json} (hitems : CanonicalItems items)
    (hothers : CanonicalItems others) (now : Instant) :
    test (some (.array items)) (.array others) now = true ↔
      relation (elements items) (elements others)
  refused {actual : Option Json} {operand : Json} (h : itemsOf actual operand = none)
    (now : Instant) : test actual operand now = false

theorem containsAll_setTest : SetTest containsAll fun left right => right ⊆ left where
  arrays hitems hothers _ := all_isItem_iff_subset hitems hothers
  refused h _ := by rw [containsAll, h, Option.any_none]

theorem subsetOf_setTest : SetTest subsetOf fun left right => left ⊆ right where
  arrays hitems hothers _ := all_isItem_iff_subset hothers hitems
  refused h _ := by rw [subsetOf, h, Option.any_none]

theorem containsAny_setTest : SetTest containsAny fun left right => (right ∩ left).Nonempty where
  arrays hitems hothers _ := any_isItem_iff_inter_nonempty hitems hothers
  refused h _ := by rw [containsAny, h, Option.any_none]

theorem intersects_setTest : SetTest intersects fun left right => (left ∩ right).Nonempty where
  arrays hitems hothers _ := any_isItem_iff_inter_nonempty hothers hitems
  refused h _ := by rw [intersects, h, Option.any_none]

theorem exists_setTest_of_mem_collections {entry : String × Test} (h : entry ∈ collections) :
    ∃ relation, SetTest entry.2 relation := by
  simp only [collections, List.mem_cons, List.not_mem_nil, or_false] at h
  rcases h with rfl | rfl | rfl | rfl
  · exact ⟨_, containsAll_setTest⟩
  · exact ⟨_, containsAny_setTest⟩
  · exact ⟨_, intersects_setTest⟩
  · exact ⟨_, subsetOf_setTest⟩

theorem itemsOf_eq_none_iff {actual : Option Json} {operand : Json} :
    itemsOf actual operand = none ↔ actual.bind array? = none ∨ operand.array? = none := by
  rw [itemsOf]
  cases actual.bind array? with
  | none => exact iff_of_true rfl (Or.inl rfl)
  | some items => simp

theorem arrays_or_itemsOf_eq_none (x y : Json) :
    (∃ items others, x = .array items ∧ y = .array others) ∨
      itemsOf (some x) y = none ∧ itemsOf (some y) x = none := by
  cases x with
  | array items =>
      cases y with
      | array others => exact Or.inl ⟨items, others, rfl, rfl⟩
      | _ => exact Or.inr ⟨rfl, rfl⟩
  | _ => exact Or.inr ⟨rfl, itemsOf_eq_none_iff.mpr (Or.inr rfl)⟩

namespace SetTest

variable {test other : Test} {relation converse : Set Content → Set Content → Prop}
  {x y : Json} {now : Instant}

theorem agree (h : SetTest test relation) (hother : SetTest other converse)
    (same : ∀ left right, relation left right ↔ converse left right) (hx : x.Canonical)
    (hy : y.Canonical) : test (some x) y now = other (some x) y now := by
  rcases arrays_or_itemsOf_eq_none x y with ⟨items, others, rfl, rfl⟩ | ⟨hnone, -⟩
  · rw [Canonical] at hx hy
    rw [Bool.eq_iff_iff, h.arrays hx hy, hother.arrays hx hy, same]
  · rw [h.refused hnone, hother.refused hnone]

theorem agree_swap (h : SetTest test relation) (hother : SetTest other converse)
    (swap : ∀ left right, relation left right ↔ converse right left) (hx : x.Canonical)
    (hy : y.Canonical) : test (some x) y now = other (some y) x now := by
  rcases arrays_or_itemsOf_eq_none x y with ⟨items, others, rfl, rfl⟩ | ⟨hnone, hswapped⟩
  · rw [Canonical] at hx hy
    rw [Bool.eq_iff_iff, h.arrays hx hy, hother.arrays hy hx, swap]
  · rw [h.refused hnone, hother.refused hswapped]

theorem exists_arrays (h : SetTest test relation) (passes : test (some x) y now = true) :
    ∃ items others, x = .array items ∧ y = .array others := by
  refine (arrays_or_itemsOf_eq_none x y).resolve_right ?_
  rintro ⟨hnone, -⟩
  rw [h.refused hnone] at passes
  cases passes

theorem eq_of_elements_eq (h : SetTest test relation) {items items' others others' : List Json}
    (hitems : CanonicalItems items) (hitems' : CanonicalItems items')
    (hothers : CanonicalItems others) (hothers' : CanonicalItems others')
    (sameItems : elements items = elements items')
    (sameOthers : elements others = elements others') :
    test (some (.array items)) (.array others) now =
      test (some (.array items')) (.array others') now := by
  rw [Bool.eq_iff_iff, h.arrays hitems hothers, h.arrays hitems' hothers', sameItems, sameOthers]

end SetTest

theorem canonicalItems_of_mem_iff {items others : List Json} (h : CanonicalItems items)
    (same : ∀ item, item ∈ items ↔ item ∈ others) : CanonicalItems others :=
  canonicalItems_iff.mpr fun item hitem => canonicalItems_iff.mp h item ((same item).mpr hitem)

theorem canonicalItems_singleton {value : Json} (h : value.Canonical) : CanonicalItems [value] :=
  canonicalItems_iff.mpr (List.forall_mem_singleton.mpr h)

theorem isIn_array {value : Json} {items : List Json} (hvalue : value.Canonical)
    (hitems : CanonicalItems items) (now : Instant) :
    (isIn (some value) (.array items) now = true ↔ value.content ∈ elements items) ∧
      isIn (some value) (.array items) now =
        subsetOf (some (.array [value])) (.array items) now ∧
      isIn (some value) (.array items) now =
        containsAny (some (.array [value])) (.array items) now := by
  have hmem : isIn (some value) (.array items) now = true ↔ value.content ∈ elements items :=
    isItem_iff_mem_elements hitems hvalue
  have hsingle := canonicalItems_singleton hvalue
  refine ⟨hmem, ?_, ?_⟩
  · rw [Bool.eq_iff_iff, hmem, subsetOf_setTest.arrays hsingle hitems, elements_singleton,
      Set.singleton_subset_iff]
  · rw [Bool.eq_iff_iff, hmem, containsAny_setTest.arrays hsingle hitems, elements_singleton,
      Set.inter_singleton_nonempty]

theorem containsAll_self {items : List Json} (h : CanonicalItems items) (now : Instant) :
    containsAll (some (.array items)) (.array items) now = true :=
  (containsAll_setTest.arrays h h now).mpr (subset_refl _)

theorem containsAll_trans {x y z : Json} (hx : x.Canonical) (hy : y.Canonical) (hz : z.Canonical)
    {now : Instant} (hxy : containsAll (some x) y now = true)
    (hyz : containsAll (some y) z now = true) : containsAll (some x) z now = true := by
  obtain ⟨items, others, rfl, rfl⟩ := containsAll_setTest.exists_arrays hxy
  obtain ⟨_, last, -, rfl⟩ := containsAll_setTest.exists_arrays hyz
  rw [Canonical] at hx hy hz
  rw [containsAll_setTest.arrays hx hy] at hxy
  rw [containsAll_setTest.arrays hy hz] at hyz
  rw [containsAll_setTest.arrays hx hz]
  exact hyz.trans hxy

/-- Equality is that of contents, and the operators are those of sets of contents.  Order and
repetition of items do not matter, and what is no array passes no test. -/
theorem collections_are_set_algebra {x y z v : Json} (hx : x.Canonical) (hy : y.Canonical)
    (hz : z.Canonical) (hv : v.Canonical) (now : Instant) :
    (x.equal y = true ↔ x.content = y.content) ∧
      (∀ items others, x = .array items → y = .array others →
        (containsAll (some x) y now = true ↔ elements others ⊆ elements items) ∧
          (containsAny (some x) y now = true ↔
            (elements others ∩ elements items).Nonempty)) ∧
      (containsAny (some x) y now = intersects (some x) y now ∧
        containsAny (some x) y now = containsAny (some y) x now ∧
        intersects (some x) y now = intersects (some y) x now) ∧
      containsAll (some x) y now = subsetOf (some y) x now ∧
      (∀ items, x = .array items → containsAll (some x) x now = true) ∧
      (containsAll (some x) y now = true → containsAll (some y) z now = true →
        containsAll (some x) z now = true) ∧
      (∀ items, y = .array items →
        (isIn (some v) y now = true ↔ v.content ∈ elements items) ∧
          isIn (some v) y now = subsetOf (some (.array [v])) y now ∧
          isIn (some v) y now = containsAny (some (.array [v])) y now) ∧
      (∀ entry ∈ collections, ∀ items items' others others',
        x = .array items → y = .array others → (∀ item, item ∈ items ↔ item ∈ items') →
          (∀ item, item ∈ others ↔ item ∈ others') →
            entry.2 (some x) y now = entry.2 (some (.array items')) (.array others') now) ∧
      ∀ entry ∈ collections, ∀ actual operand,
        actual.bind array? = none ∨ operand.array? = none →
          entry.2 actual operand now = false := by
  have hmeet (left right : Set Content) : (right ∩ left).Nonempty ↔ (left ∩ right).Nonempty := by
    rw [Set.inter_comm]
  have hswap (left right : Set Content) := hmeet right left
  refine ⟨equal_iff_content_eq hx hy, ?_, ⟨?_, ?_, ?_⟩, ?_, ?_, containsAll_trans hx hy hz, ?_, ?_,
    ?_⟩
  · rintro items others rfl rfl
    rw [Canonical] at hx hy
    exact ⟨containsAll_setTest.arrays hx hy now, containsAny_setTest.arrays hx hy now⟩
  · exact containsAny_setTest.agree intersects_setTest hmeet hx hy
  · exact containsAny_setTest.agree_swap containsAny_setTest hmeet hx hy
  · exact intersects_setTest.agree_swap intersects_setTest hswap hx hy
  · exact containsAll_setTest.agree_swap subsetOf_setTest (fun _ _ => Iff.rfl) hx hy
  · rintro items rfl
    rw [Canonical] at hx
    exact containsAll_self hx now
  · rintro items rfl
    rw [Canonical] at hy
    exact isIn_array hv hy now
  · rintro entry hentry items items' others others' rfl rfl sameItems sameOthers
    rw [Canonical] at hx hy
    obtain ⟨relation, hentry⟩ := exists_setTest_of_mem_collections hentry
    exact hentry.eq_of_elements_eq hx (canonicalItems_of_mem_iff hx sameItems) hy
      (canonicalItems_of_mem_iff hy sameOthers) (elements_eq_of_mem_iff sameItems)
      (elements_eq_of_mem_iff sameOthers)
  · intro entry hentry actual operand hnone
    obtain ⟨relation, hentry⟩ := exists_setTest_of_mem_collections hentry
    exact hentry.refused (itemsOf_eq_none_iff.mpr hnone) now

theorem collections_are_set_algebra_signedZeros :
    (Json.array [.number (.float 0), .string "vip", .ofInt 1]).Canonical ∧
      (Json.array [.ofInt 1, .number (.float (-0))]).Canonical ∧
      (Json.array [.number (.float 0)]).Canonical ∧ (Json.number (.float (-0))).Canonical ∧
      containsAll (some (.array [.number (.float 0), .string "vip", .ofInt 1]))
        (.array [.ofInt 1, .number (.float (-0))]) ⟨0, 0⟩ = true ∧
      containsAll (some (.array [.ofInt 1, .number (.float (-0))]))
        (.array [.number (.float 0)]) ⟨0, 0⟩ = true ∧
      containsAll (some (.array [.number (.float 0), .string "vip", .ofInt 1]))
        (.array [.number (.float 0)]) ⟨0, 0⟩ = true := by
  have hzero : (Json.number (.float 0)).Canonical := by
    change (0 : Float).isFinite = true
    decide
  have hnegativeZero : (Json.number (.float (-0))).Canonical := by
    change (-0 : Float).isFinite = true
    decide
  have hone : (Json.ofInt 1).Canonical := ⟨by decide, by decide⟩
  have hx : (Json.array [.number (.float 0), .string "vip", .ofInt 1]).Canonical :=
    ⟨hzero, trivial, hone, trivial⟩
  have hy : (Json.array [.ofInt 1, .number (.float (-0))]).Canonical :=
    ⟨hone, hnegativeZero, trivial⟩
  have hz : (Json.array [.number (.float 0)]).Canonical := ⟨hzero, trivial⟩
  have hxy : containsAll (some (.array [.number (.float 0), .string "vip", .ofInt 1]))
      (.array [.ofInt 1, .number (.float (-0))]) ⟨0, 0⟩ = true := by decide
  have hyz : containsAll (some (.array [.ofInt 1, .number (.float (-0))]))
      (.array [.number (.float 0)]) ⟨0, 0⟩ = true := by decide
  obtain ⟨-, -, -, -, -, htrans, -⟩ := collections_are_set_algebra hx hy hz hnegativeZero ⟨0, 0⟩
  exact ⟨hx, hy, hz, hnegativeZero, hxy, hyz, htrans hxy hyz⟩

end Operator
end Verdict
