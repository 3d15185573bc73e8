import Verdict.Proofs.Context.Merging

/-!
# Contexts as stores of values under paths

What is found below and above a path follows from what is found at the path itself, since looking up
a path in two parts is looking up the second part in what the first part leads to
(`Json.walk_append`).
-/

namespace Verdict

namespace DotPath

/-- The paths part at some segment, so neither leads to the other. -/
def Part (path other : String) : Prop :=
  ∃ (place : Nat) (segment different : String),
    (segments path)[place]? = some segment ∧ (segments other)[place]? = some different ∧
      segment ≠ different

theorem getElem?_eq_of_isPrefix {front names : List String} (h : front <+: names) {place : Nat}
    {segment : String} (found : front[place]? = some segment) : names[place]? = some segment := by
  obtain ⟨rest, rfl⟩ := h
  obtain ⟨hplace, -⟩ := List.getElem?_eq_some_iff.mp found
  rw [List.getElem?_append_left hplace]
  exact found

theorem Part.not_overlap {path other : String} (h : Part path other) : ¬ Overlap path other := by
  obtain ⟨place, segment, different, hpath, hother, hne⟩ := h
  rintro (hfront | hfront)
  · have hsame := getElem?_eq_of_isPrefix hfront hpath
    rw [hother] at hsame
    exact hne (Option.some.inj hsame).symm
  · have hsame := getElem?_eq_of_isPrefix hfront hother
    rw [hpath] at hsame
    exact hne (Option.some.inj hsame)

end DotPath

namespace Json

theorem walk_append (value : Json) (front rest : List String) :
    value.walk (front ++ rest) = (value.walk front).bind fun child => child.walk rest := by
  induction front generalizing value with
  | nil => rfl
  | cons name others ih =>
      have hstep : value.walk (name :: (others ++ rest)) =
          (value.field? name).bind fun child => child.walk (others ++ rest) := rfl
      rw [List.cons_append, hstep]
      simp only [ih]
      rw [← Option.bind_assoc]
      rfl

theorem object_of_walk {value found : Json} {names : List String} (hne : names ≠ [])
    (h : value.walk names = some found) : ∃ fields, value = object fields := by
  cases names with
  | nil => exact absurd rfl hne
  | cons name rest =>
      obtain ⟨child, hchild, -⟩ := Option.bind_eq_some_iff.mp h
      cases value with
      | object fields => exact ⟨fields, rfl⟩
      | _ => cases hchild

end Json

namespace Context

theorem merged_eq_foldl (context : Context) (pairs : List (String × Json)) :
    context.merged pairs = pairs.foldl (fun merged pair => merged.merged [pair]) context := by
  induction pairs generalizing context with
  | nil => rfl
  | cons pair rest ih => rw [List.foldl_cons, ← ih, ← merged_append, List.singleton_append]

/-- Merging a value under a path stores it there: a longer path looks up its further segments in the
value, a shorter one leads to an object, and a path that parts from it leads to what it led to
before.  Merging several values is merging them one after another. -/
theorem merged_stores (context : Context) (path : String) (value : Json) :
    (context.merged [(path, value)]).get? path = some value ∧
      (∀ longer rest, DotPath.segments longer = DotPath.segments path ++ rest →
        (context.merged [(path, value)]).get? longer = value.walk rest) ∧
      (∀ shorter rest, DotPath.segments path = DotPath.segments shorter ++ rest → rest ≠ [] →
        ∃ fields, (context.merged [(path, value)]).get? shorter = some (.object fields)) ∧
      (∀ other, DotPath.Part path other →
        (context.merged [(path, value)]).get? other = context.get? other) ∧
      ∀ pairs, context.merged pairs =
        pairs.foldl (fun merged pair => merged.merged [pair]) context := by
  have hself := context.get?_merged_singleton path value
  refine ⟨hself, ?_, ?_, ?_, context.merged_eq_foldl⟩
  · intro longer rest hlonger
    rw [get?] at hself ⊢
    rw [hlonger, Json.walk_append, hself, Option.bind_some]
  · intro shorter rest hshorter hne
    rw [get?, hshorter, Json.walk_append, Option.bind_eq_some_iff] at hself
    obtain ⟨child, hchild, hrest⟩ := hself
    obtain ⟨fields, rfl⟩ := Json.object_of_walk hne hrest
    exact ⟨fields, hchild⟩
  · intro other hpart
    apply get?_merged_of_not_overlap
    intro pair hpair
    rw [List.mem_singleton.mp hpair]
    exact hpart.not_overlap

def plainUser : Context :=
  ⟨[("region", .string "north"), ("user", .string "ada")]⟩

def fullName : Json :=
  .object [("first", .string "Ada")]

theorem merged_stores_plainUser :
    plainUser.get? "user" = some (.string "ada") ∧
      (plainUser.merged [("user.name", fullName)]).get? "user.name.first" =
        some (.string "Ada") ∧
      (∃ fields, (plainUser.merged [("user.name", fullName)]).get? "user" =
        some (.object fields)) ∧
      (plainUser.merged [("user.name", fullName)]).get? "user.mail" = none ∧
      (plainUser.merged [("user.name", fullName)]).get? "region" = some (.string "north") := by
  obtain ⟨-, hbelow, habove, hbeside, -⟩ := plainUser.merged_stores "user.name" fullName
  refine ⟨rfl, ?_, ?_, ?_, ?_⟩
  · exact hbelow "user.name.first" ["first"] rfl
  · exact habove "user" ["name"] rfl (List.cons_ne_nil _ _)
  · exact hbeside "user.mail" ⟨1, "name", "mail", rfl, rfl, by decide⟩
  · exact hbeside "region" ⟨0, "user", "region", rfl, rfl, by decide⟩

end Context
end Verdict
