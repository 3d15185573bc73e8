import Verdict.Proofs.Context.Merging
import Verdict.Proofs.Context.Reloading
import Verdict.Proofs.Text.ByteOrder

/-!
# Looking up under several spellings

A context keeps one field of those that are spelled alike after normalisation: the one whose name is
the greatest.  So a path can be followed through the value that a context is built of.  Whether the
name with the colon is the greater one depends on the character behind the colon.
-/

namespace Verdict

/-! ## Spellings -/

/-- A name spells a segment if the segment is left of it without a colon in front.  A colon alone
stays. -/
inductive Spells : String → String → Prop where
  | plain {segment : String} (h : ¬ Symbolic segment) : Spells segment segment
  | symbol {segment : String} (h : segment ≠ "") : Spells (":" ++ segment) segment

theorem spells_iff {name segment : String} : Spells name segment ↔ normalName name = segment := by
  constructor
  · intro h
    cases h with
    | plain h => exact normalName_of_not_symbolic h
    | symbol h =>
        have hne : segment.toList ≠ [] := by simpa using h
        obtain ⟨c, rest, hsegment⟩ := List.exists_cons_of_ne_nil hne
        have hname : (":" ++ segment).toList = ':' :: c :: rest := by
          rw [String.toList_append, hsegment]
          rfl
        rw [normalName_of_toList hname, ← hsegment, String.ofList_toList]
  · rintro rfl
    by_cases h : Symbolic name
    · obtain ⟨c, rest, hname⟩ := h
      have hcolon : name = ":" ++ String.ofList (c :: rest) := by
        apply String.toList_injective
        simp [hname]
      rw [normalName_of_toList hname]
      nth_rewrite 1 [hcolon]
      apply Spells.symbol
      simp
    · rw [normalName_of_not_symbolic h]
      exact .plain h

/-! ## The field that stays -/

namespace Fields

variable {α : Type}

theorem get?_foldl_insert_of_forall_ne {pairs : List (String × α)} {name : String}
    (h : ∀ pair ∈ pairs, pair.1 ≠ name) (fields : Fields α) :
    (pairs.foldl (fun fields pair => fields.insert pair.1 pair.2) fields).get? name =
      fields.get? name := by
  induction pairs generalizing fields with
  | nil => rfl
  | cons pair rest ih =>
      obtain ⟨hpair, hrest⟩ := List.forall_mem_cons.mp h
      rw [List.foldl_cons, ih hrest, get?_insert_of_ne _ _ (Ne.symm hpair)]

theorem get?_ofList_of_last {before after : List (String × α)} {name : String} {value : α}
    (h : ∀ pair ∈ after, pair.1 ≠ name) :
    (ofList (before ++ (name, value) :: after)).get? name = some value := by
  rw [ofList, List.foldl_append, List.foldl_cons, get?_foldl_insert_of_forall_ne h,
    get?_insert_self]

end Fields

namespace Json

/-- The field with the greatest of the names that spell a segment. -/
structure Selected (fields : Fields Json) (segment name : String) (value : Json) : Prop where
  member : (name, value) ∈ fields
  spells : Spells name segment
  greatest : ∀ other ∈ Fields.names fields, Spells other segment →
    Text.bytes other ≤ Text.bytes name

theorem bytes_le_of_le {text other : String} (h : text ≤ other) :
    Text.bytes text ≤ Text.bytes other := by
  rw [← List.not_lt, Text.bytes_lt_iff]
  exact not_lt.mpr h

theorem exists_selected {fields : Fields Json} (sorted : Fields.Sorted fields) {segment : String}
    (h : ∃ field ∈ fields, Spells field.1 segment) :
    ∃ name value, Selected fields segment name value := by
  induction fields with
  | nil =>
      obtain ⟨field, hfield, -⟩ := h
      cases hfield
  | cons field rest ih =>
      obtain ⟨hfirst, hsorted⟩ := List.pairwise_cons.mp sorted
      by_cases hrest : ∃ other ∈ rest, Spells other.1 segment
      · obtain ⟨name, value, hmember, hspells, hgreatest⟩ := ih hsorted hrest
        refine ⟨name, value, List.mem_cons_of_mem _ hmember, hspells, ?_⟩
        intro other hother hspelled
        rcases List.mem_cons.mp hother with rfl | hother
        · exact bytes_le_of_le (le_of_lt (hfirst _ hmember))
        · exact hgreatest other hother hspelled
      · obtain ⟨found, hfound, hspells⟩ := h
        have heq : found = field := by
          rcases List.mem_cons.mp hfound with heq | hmem
          · exact heq
          · exact absurd ⟨found, hmem, hspells⟩ hrest
        subst heq
        refine ⟨found.1, found.2, List.mem_cons_self, hspells, ?_⟩
        intro other hother hspelled
        rcases List.mem_cons.mp hother with rfl | hother
        · exact bytes_le_of_le le_rfl
        · obtain ⟨entry, hentry, rfl⟩ := List.mem_map.mp hother
          exact absurd ⟨entry, hentry, hspelled⟩ hrest

theorem Selected.get?_normalized {fields : Fields Json} (sorted : Fields.Sorted fields)
    {segment name : String} {value : Json} (h : Selected fields segment name value) :
    (Fields.ofList (fields.map fun field => (normalName field.1, field.2.normalized))).get?
      segment = some value.normalized := by
  obtain ⟨hmember, hspells, hgreatest⟩ := h
  obtain ⟨before, after, rfl⟩ := List.append_of_mem hmember
  have hlater : ∀ field ∈ after, name < field.1 := by
    have hafter := (List.pairwise_append.mp sorted).2.1
    exact (List.pairwise_cons.mp hafter).1
  rw [List.map_append, List.map_cons, spells_iff.mp hspells]
  apply Fields.get?_ofList_of_last
  intro pair hpair hsame
  obtain ⟨field, hfield, rfl⟩ := List.mem_map.mp hpair
  have hname : field.1 ∈ Fields.names (before ++ (name, value) :: after) :=
    List.mem_map_of_mem (List.mem_append_right _ (List.mem_cons_of_mem _ hfield))
  have hle := hgreatest field.1 hname (spells_iff.mpr hsame)
  rw [← List.not_lt, Text.bytes_lt_iff] at hle
  exact hle (hlater field hfield)

theorem get?_normalized_iff {fields : Fields Json} (sorted : Fields.Sorted fields)
    {segment : String} {found : Json} :
    (Fields.ofList (fields.map fun field => (normalName field.1, field.2.normalized))).get?
        segment = some found ↔
      ∃ name value, Selected fields segment name value ∧ value.normalized = found := by
  constructor
  · intro h
    have hmem := Fields.mem_of_mem_ofList (Fields.mem_of_get? h)
    obtain ⟨field, hfield, heq⟩ := List.mem_map.mp hmem
    have hspells : Spells field.1 segment := spells_iff.mpr (congrArg Prod.fst heq)
    obtain ⟨name, value, hselected⟩ := exists_selected sorted ⟨field, hfield, hspells⟩
    rw [hselected.get?_normalized sorted, Option.some.injEq] at h
    exact ⟨name, value, hselected, h⟩
  · rintro ⟨name, value, hselected, rfl⟩
    exact hselected.get?_normalized sorted

/-! ## Following a path -/

/-- The node that a path leads to in a value as it is, with the selected field at each object. -/
inductive Reaches : Json → List String → Json → Prop where
  | here (node : Json) : Reaches node [] node
  | field {fields : Fields Json} {segment name : String} {rest : List String}
      {child node : Json} (selected : Selected fields segment name child)
      (further : Reaches child rest node) : Reaches (object fields) (segment :: rest) node

theorem reaches_cons_iff {fields : Fields Json} {segment : String} {rest : List String}
    {node : Json} :
    Reaches (object fields) (segment :: rest) node ↔
      ∃ name child, Selected fields segment name child ∧ Reaches child rest node := by
  constructor
  · intro h
    cases h with
    | field selected further => exact ⟨_, _, selected, further⟩
  · rintro ⟨name, child, selected, further⟩
    exact .field selected further

theorem field?_normalized_of_object?_eq_none {value : Json} (h : value.object? = none)
    (name : String) : value.normalized.field? name = none := by
  cases value with
  | object fields => cases h
  | _ => rfl

theorem not_reaches_cons_of_object?_eq_none {value : Json} (h : value.object? = none)
    {segment : String} {rest : List String} {node : Json} :
    ¬ Reaches value (segment :: rest) node := by
  intro hreaches
  cases hreaches with
  | field selected further => cases h

theorem walk_normalized_iff {value : Json} (canonical : value.Canonical) {segments : List String}
    {found : Json} :
    value.normalized.walk segments = some found ↔
      ∃ node, Reaches value segments node ∧ node.normalized = found := by
  induction segments generalizing value with
  | nil =>
      constructor
      · intro h
        exact ⟨value, .here value, Option.some.inj h⟩
      · rintro ⟨node, hreaches, rfl⟩
        cases hreaches
        rfl
  | cons segment rest ih =>
      cases hobject : value.object? with
      | none =>
          have hnone : value.normalized.walk (segment :: rest) = none := by
            rw [walk, field?_normalized_of_object?_eq_none hobject]
            rfl
          rw [hnone]
          refine iff_of_false nofun ?_
          rintro ⟨node, hreaches, -⟩
          exact not_reaches_cons_of_object?_eq_none hobject hreaches
      | some fields =>
          obtain rfl : value = object fields := by
            cases value with
            | object others => exact congrArg object (Option.some.inj hobject)
            | _ => cases hobject
          rw [Canonical, canonicalFields_iff] at canonical
          obtain ⟨sorted, each⟩ := canonical
          rw [normalized_object, walk_cons, Option.bind_eq_some_iff]
          constructor
          · rintro ⟨child, hchild, hrest⟩
            obtain ⟨name, raw, hselected, rfl⟩ := (get?_normalized_iff sorted).mp hchild
            obtain ⟨node, hreaches, hnode⟩ := (ih (each _ hselected.member)).mp hrest
            exact ⟨node, .field hselected hreaches, hnode⟩
          · rintro ⟨node, hreaches, hnode⟩
            obtain ⟨name, raw, hselected, hfurther⟩ := reaches_cons_iff.mp hreaches
            refine ⟨raw.normalized, hselected.get?_normalized sorted, ?_⟩
            exact (ih (each _ hselected.member)).mpr ⟨node, hfurther, hnode⟩

end Json

namespace Context

/-- A context of an object holds at a path the node that the path leads to in the object as it is,
normalised.  The other spellings of a segment, and whatever they hold, do not matter. -/
theorem get?_ofObject_iff (fields : Fields Json) (path : String)
    (canonical : (Json.object fields).Canonical) :
    (∀ found, (ofJson (.object fields)).get? path = some found ↔
      ∃ node, Json.Reaches (.object fields) (DotPath.segments path) node ∧
        node.normalized = found) ∧
      ((ofJson (.object fields)).get? path = none ↔
        ∀ node, ¬ Json.Reaches (.object fields) (DotPath.segments path) node) := by
  have hfound : ∀ found, (ofJson (.object fields)).get? path = some found ↔
      ∃ node, Json.Reaches (.object fields) (DotPath.segments path) node ∧
        node.normalized = found := by
    intro found
    have hcontext : (ofJson (.object fields)).toJson = (Json.object fields).normalized :=
      toJson_ofObject fields
    rw [get?, hcontext]
    exact Json.walk_normalized_iff canonical
  refine ⟨hfound, ?_⟩
  rw [Option.eq_none_iff_forall_ne_some]
  constructor
  · intro hnone node hreaches
    exact hnone node.normalized ((hfound _).mpr ⟨node, hreaches, rfl⟩)
  · intro hnone found h
    obtain ⟨node, hreaches, -⟩ := (hfound found).mp h
    exact hnone node hreaches

def twiceSpelled : Fields Json :=
  [("1", .object [("share", .ofInt 10)]), (":1", .object [(":name", .string "first")]),
    (":user", .object [("mail", .string "ada")]), ("user", .object [(":age", .ofInt 30)])]

theorem get?_ofObject_iff_twiceSpelled :
    (Json.object twiceSpelled).Canonical ∧
      ((ofJson (.object twiceSpelled)).get? "1.name" = some (.string "first") ∧
        ∃ node, Json.Reaches (.object twiceSpelled) ["1", "name"] node ∧
          node.normalized = .string "first") ∧
      (∀ node, ¬ Json.Reaches (.object twiceSpelled) ["1", "share"] node) ∧
      ((ofJson (.object twiceSpelled)).get? "user.age" = some (.ofInt 30) ∧
        ∃ node, Json.Reaches (.object twiceSpelled) ["user", "age"] node ∧
          node.normalized = .ofInt 30) ∧
      ∀ node, ¬ Json.Reaches (.object twiceSpelled) ["user", "mail"] node := by
  have canonical : (Json.object twiceSpelled).Canonical := by
    simp only [twiceSpelled, Json.Canonical, Json.CanonicalFields, Fields.Sorted, Json.ofInt,
      Number.Representable, Number.minInt, Number.maxInt]
    decide
  obtain ⟨hname, -⟩ := get?_ofObject_iff twiceSpelled "1.name" canonical
  obtain ⟨-, hshare⟩ := get?_ofObject_iff twiceSpelled "1.share" canonical
  obtain ⟨hage, -⟩ := get?_ofObject_iff twiceSpelled "user.age" canonical
  obtain ⟨-, hmail⟩ := get?_ofObject_iff twiceSpelled "user.mail" canonical
  exact ⟨canonical, ⟨rfl, (hname _).mp rfl⟩, hshare.mp rfl, ⟨rfl, (hage _).mp rfl⟩, hmail.mp rfl⟩

end Context
end Verdict
