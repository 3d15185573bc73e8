import Verdict.Context
import Mathlib.Data.List.Infix
import Mathlib.Tactic.Common

/-!
# Values stored under paths

A value that is stored under a path is found there (`Json.walk_store`), and only paths that overlap
with it are touched (`Json.walk_store_of_not_overlap`), even where something that is not an object
has to give way.
-/

namespace Verdict

namespace DotPath

/-- The paths are equal, or one of them leads further than the other. -/
def Overlap (path other : String) : Prop :=
  segments path <+: segments other ∨ segments other <+: segments path

end DotPath

namespace Json

/-- Below a field, looking up goes on in what the field holds.  What is not an object has nothing to
offer, and an empty object has not either. -/
theorem walk_child {value : Option Json} {names : List String} (hne : names ≠ []) :
    (object ((value.bind object?).getD [])).walk names =
      value.bind fun child => child.walk names := by
  cases names with
  | nil => exact absurd rfl hne
  | cons name rest =>
      cases value with
      | none => rfl
      | some child => cases child <;> rfl

theorem walk_cons (fields : Fields Json) (name : String) (rest : List String) :
    (object fields).walk (name :: rest) =
      (fields.get? name).bind fun child => child.walk rest :=
  rfl

theorem walk_store (names : List String) (hne : names ≠ []) (fields : Fields Json)
    (value : Json) : (object (store fields names value)).walk names = some value := by
  induction names generalizing fields with
  | nil => exact absurd rfl hne
  | cons name rest ih =>
      cases rest with
      | nil => rw [store, walk_cons, Fields.get?_insert_self]; rfl
      | cons next others =>
          rw [store, walk_cons, Fields.get?_insert_self]
          exact ih (List.cons_ne_nil next others) _

theorem walk_store_of_not_overlap (names others : List String)
    (hforth : ¬ names <+: others) (hback : ¬ others <+: names) (fields : Fields Json)
    (value : Json) :
    (object (store fields names value)).walk others = (object fields).walk others := by
  induction names generalizing fields others with
  | nil => exact absurd (List.nil_prefix) hforth
  | cons name rest ih =>
      cases others with
      | nil => exact absurd (List.nil_prefix) hback
      | cons other further =>
          by_cases hname : other = name
          · subst hname
            have hforth : ¬ rest <+: further := fun h => hforth ((List.prefix_cons_inj _).mpr h)
            have hback : ¬ further <+: rest := fun h => hback ((List.prefix_cons_inj _).mpr h)
            cases rest with
            | nil => exact absurd List.nil_prefix hforth
            | cons next deeper =>
                have hne : further ≠ [] := by
                  rintro rfl
                  exact hback List.nil_prefix
                rw [store, walk_cons, walk_cons, Fields.get?_insert_self, Option.bind_some,
                  ih further hforth hback, walk_child hne]
          · have hget (stored : Json) :
                (Fields.insert fields name stored).get? other = fields.get? other :=
              Fields.get?_insert_of_ne fields stored hname
            cases rest with
            | nil => rw [store, walk_cons, walk_cons, hget]
            | cons next deeper => rw [store, walk_cons, walk_cons, hget]

end Json

namespace Context

theorem get?_merged_singleton (context : Context) (path : String) (value : Json) :
    (context.merged [(path, value)]).get? path = some value :=
  Json.walk_store _ (DotPath.segments_ne_nil path) context.fields value

theorem get?_merged_of_not_overlap (context : Context) (path : String)
    (pairs : List (String × Json)) (h : ∀ pair ∈ pairs, ¬ DotPath.Overlap pair.1 path) :
    (context.merged pairs).get? path = context.get? path := by
  induction pairs generalizing context with
  | nil => rw [merged_nil]
  | cons pair rest ih =>
      obtain ⟨hpair, hrest⟩ := List.forall_mem_cons.mp h
      have hone : (context.merged [pair]).get? path = context.get? path := by
        apply Json.walk_store_of_not_overlap
        · exact fun hprefix => hpair (Or.inl hprefix)
        · exact fun hprefix => hpair (Or.inr hprefix)
      rw [← List.singleton_append, merged_append, ih _ hrest, hone]

/-- The last of the overlapping paths decides. -/
theorem get?_merged_append (context : Context) (before after : List (String × Json))
    (path : String) (value : Json) (h : ∀ pair ∈ after, ¬ DotPath.Overlap pair.1 path) :
    (context.merged (before ++ (path, value) :: after)).get? path = some value := by
  rw [← List.singleton_append, merged_append, merged_append,
    get?_merged_of_not_overlap _ path after h, get?_merged_singleton]

end Context
end Verdict
