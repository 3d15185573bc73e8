import Verdict.Rule.Validation
import Mathlib.Data.List.Forall2
import Mathlib.Tactic.Common

/-!
# The grammar of conditions

`Condition.WellFormed` says which documents are conditions, and `Condition.Denotes` which tree such
a document stands for.  Neither mentions locations, faults or the order of the checks;
`Condition.checkAt_eq_sound_iff` ties both to the check.
-/

namespace Verdict

theorem exists_forall₂ {α β : Type} {R : α → β → Prop} {sources : List α}
    (h : ∀ source ∈ sources, ∃ target, R source target) :
    ∃ targets, List.Forall₂ R sources targets := by
  induction sources with
  | nil => exact ⟨[], .nil⟩
  | cons source rest ih =>
      obtain ⟨hsource, hrest⟩ := List.forall_mem_cons.mp h
      obtain ⟨target, htarget⟩ := hsource
      obtain ⟨targets, htargets⟩ := ih hrest
      exact ⟨target :: targets, .cons htarget htargets⟩

theorem exists_source_of_mem {α β : Type} {R : α → β → Prop} {sources : List α}
    {targets : List β} (h : List.Forall₂ R sources targets) {target : β}
    (hmem : target ∈ targets) : ∃ source ∈ sources, R source target := by
  induction h with
  | nil => cases hmem
  | cons hfirst hrest ih =>
      rcases List.mem_cons.mp hmem with rfl | hmem
      · exact ⟨_, List.mem_cons_self, hfirst⟩
      · obtain ⟨source, hsource, hrelated⟩ := ih hmem
        exact ⟨source, List.mem_cons_of_mem _ hsource, hrelated⟩

namespace Checked

variable {α : Type} {p : Prop} [Decidable p] {value value' : α}

theorem required_eq_sound_iff {location : Location} {cause : Cause} :
    (if p then sound value else fault location cause) = sound value' ↔ p ∧ value = value' := by
  by_cases hp : p
  · rw [if_pos hp, sound.injEq]
    exact (and_iff_right hp).symm
  · rw [if_neg hp]
    exact iff_of_false (fun h => nomatch h) fun h => hp h.1

theorem forbidden_eq_sound_iff {location : Location} {cause : Cause} :
    (if p then fault location cause else sound value) = sound value' ↔ ¬ p ∧ value = value' := by
  rw [← ite_not]
  exact required_eq_sound_iff

end Checked

namespace Condition

/-! ## Grammar -/

/-- Of the kinds of conditions, `kind` alone is among the names of an object. -/
def OnlyKind (fields : Fields Json) (kind : String) : Prop :=
  ∀ other ∈ kinds, (fields.contains other = true ↔ other = kind)

def groups : List (String × (List Condition → Condition)) :=
  [("all", all), ("any", any)]

/-- An object that names a path without empty segments, an operator of the registry, and an operand
unless the operator needs none. -/
structure WellFormedLeaf (registry : Registry) (fields : Fields Json) : Prop where
  path : ∃ path, fields.get? "field" = some (.string path) ∧
    ∀ segment ∈ DotPath.segments path, segment ≠ ""
  operator : ∃ name, fields.get? "op" = some (.string name) ∧ registry.contains name = true ∧
    (name = "present" ∨ name = "blank" ∨ ∃ operand, fields.get? "value" = some operand)

/-- The documents that are conditions. -/
inductive WellFormed (registry : Registry) : Json → Prop where
  | leaf {fields : Fields Json} (only : OnlyKind fields "field")
      (leaf : WellFormedLeaf registry fields) : WellFormed registry (.object fields)
  | group {fields : Fields Json} {name : String} {make : List Condition → Condition}
      {items : List Json} (kind : (name, make) ∈ groups) (only : OnlyKind fields name)
      (found : fields.get? name = some (.array items))
      (children : ∀ item ∈ items, WellFormed registry item) :
      WellFormed registry (.object fields)

/-- The tree that a document stands for. -/
inductive Denotes : Json → Condition → Prop where
  | leaf {fields : Fields Json} {path operator : String}
      (hpath : fields.get? "field" = some (.string path))
      (hoperator : fields.get? "op" = some (.string operator)) :
      Denotes (.object fields) (.field ⟨path, operator, (fields.get? "value").getD .null⟩)
  | group {fields : Fields Json} {name : String} {make : List Condition → Condition}
      {items : List Json} {children : List Condition} (kind : (name, make) ∈ groups)
      (found : fields.get? name = some (.array items))
      (each : List.Forall₂ Denotes items children) :
      Denotes (.object fields) (make children)

/-! ## The kind of a condition -/

theorem mem_kindsOf {fields : Fields Json} {kind : String} (hkind : kind ∈ kinds) :
    kind ∈ kindsOf fields ↔ fields.contains kind = true := by
  rw [kindsOf, List.mem_filter]
  exact and_iff_right hkind

theorem kindsOf_eq_singleton_iff {fields : Fields Json} {kind : String} (hkind : kind ∈ kinds) :
    kindsOf fields = [kind] ↔ OnlyKind fields kind := by
  constructor
  · intro h other hother
    rw [← mem_kindsOf hother, h, List.mem_singleton]
  · intro h
    have hfilter : kindsOf fields = kinds.filter (· == kind) := by
      apply List.filter_congr
      intro other hother
      rw [Bool.eq_iff_iff, beq_iff_eq]
      exact h other hother
    rw [hfilter]
    simp only [kinds, List.mem_cons, List.not_mem_nil, or_false] at hkind
    rcases hkind with rfl | rfl | rfl <;> decide

theorem OnlyKind.eq_of_get? {fields : Fields Json} {kind other : String} {value : Json}
    (only : OnlyKind fields kind) (hother : other ∈ kinds)
    (found : fields.get? other = some value) : other = kind := by
  apply (only other hother).mp
  rw [Fields.contains, found]
  rfl

theorem OnlyKind.get?_ne_none {fields : Fields Json} {kind : String}
    (only : OnlyKind fields kind) (hkind : kind ∈ kinds) : fields.get? kind ≠ none := by
  have hcontains := (only kind hkind).mpr rfl
  rw [Fields.contains, Option.isSome_iff_ne_none] at hcontains
  exact hcontains

theorem eq_of_mem_groups {name : String} {make : List Condition → Condition}
    (kind : (name, make) ∈ groups) : name = "all" ∧ make = all ∨ name = "any" ∧ make = any := by
  simpa [groups] using kind

theorem mem_kinds_of_mem_groups {name : String} {make : List Condition → Condition}
    (kind : (name, make) ∈ groups) : name ∈ kinds ∧ name ≠ "field" := by
  rcases eq_of_mem_groups kind with ⟨rfl, -⟩ | ⟨rfl, -⟩ <;> decide

theorem make_unique {name : String} {make make' : List Condition → Condition}
    (kind : (name, make) ∈ groups) (kind' : (name, make') ∈ groups)
    {children : List Condition} : make children = make' children := by
  rcases eq_of_mem_groups kind with ⟨rfl, rfl⟩ | ⟨rfl, rfl⟩ <;>
    rcases eq_of_mem_groups kind' with ⟨hname, rfl⟩ | ⟨hname, rfl⟩
  · rfl
  · exact absurd hname (by decide)
  · exact absurd hname (by decide)
  · rfl

/-! ## Leaves -/

theorem isProper_iff {path : String} :
    DotPath.isProper path = true ↔ ∀ segment ∈ DotPath.segments path, segment ≠ "" := by
  rw [DotPath.isProper, List.all_eq_true]
  simp only [Bool.not_eq_true', String.isEmpty_eq_false_iff]

theorem checkPath_eq_sound_iff {location : Location} {value : Option Json} {path : String} :
    checkPath location value = .sound path ↔
      value = some (.string path) ∧ ∀ segment ∈ DotPath.segments path, segment ≠ "" := by
  rw [← isProper_iff]
  constructor
  · intro h
    unfold checkPath at h
    split at h
    · obtain ⟨hproper, rfl⟩ := Checked.required_eq_sound_iff.mp h
      exact ⟨rfl, hproper⟩
    · cases h
  · rintro ⟨rfl, hproper⟩
    exact if_pos hproper

theorem checkOperator_eq_sound_iff {registry : Registry} {location : Location}
    {value : Option Json} {name : String} :
    checkOperator registry location value = .sound name ↔
      value = some (.string name) ∧ registry.contains name = true := by
  constructor
  · intro h
    unfold checkOperator at h
    split at h
    · cases h
    · cases h
    · obtain ⟨hknown, rfl⟩ := Checked.required_eq_sound_iff.mp h
      exact ⟨rfl, hknown⟩
    · cases h
  · rintro ⟨rfl, hknown⟩
    exact if_pos hknown

theorem requiresOperand_eq_false_iff {name : String} :
    Registry.requiresOperand name = false ↔ name = "present" ∨ name = "blank" := by
  rw [Registry.requiresOperand, Bool.not_eq_false', List.contains_iff_mem]
  simp only [Registry.operandless, List.mem_cons, List.not_mem_nil, or_false]

theorem checkOperand_eq_sound_iff {location : Location} {name : String} {value : Option Json}
    {operand : Json} :
    checkOperand location (.sound name) value = .sound operand ↔
      (name = "present" ∨ name = "blank" ∨ ∃ given, value = some given) ∧
        operand = value.getD .null := by
  cases value with
  | some given =>
      simp only [checkOperand, Checked.sound.injEq, Option.getD_some]
      constructor
      · rintro rfl
        exact ⟨Or.inr (Or.inr ⟨given, rfl⟩), rfl⟩
      · exact fun h => h.2.symm
  | none =>
      simp only [checkOperand, Option.getD_none, reduceCtorEq, exists_false, or_false]
      rw [← requiresOperand_eq_false_iff]
      cases Registry.requiresOperand name with
      | true => simp [Checked.fault]
      | false => simp [eq_comm]

theorem checkField_eq_sound_iff {registry : Registry} {location : Location}
    {fields : Fields Json} {condition : Condition} :
    checkField registry location fields = .sound condition ↔
      WellFormedLeaf registry fields ∧
        ∃ path operator, fields.get? "field" = some (.string path) ∧
          fields.get? "op" = some (.string operator) ∧
          condition = .field ⟨path, operator, (fields.get? "value").getD .null⟩ := by
  constructor
  · intro h
    obtain ⟨⟨path, operator, operand⟩, hparts, rfl⟩ := Checked.map_eq_sound_iff.mp h
    obtain ⟨hpath, hrest⟩ := Checked.both_eq_sound_iff.mp hparts
    obtain ⟨hoperator, hoperand⟩ := Checked.both_eq_sound_iff.mp hrest
    rw [hoperator] at hoperand
    obtain ⟨hfield, hproper⟩ := checkPath_eq_sound_iff.mp hpath
    obtain ⟨hop, hknown⟩ := checkOperator_eq_sound_iff.mp hoperator
    obtain ⟨hneeded, rfl⟩ := checkOperand_eq_sound_iff.mp hoperand
    exact ⟨⟨⟨path, hfield, hproper⟩, ⟨operator, hop, hknown, hneeded⟩⟩,
      path, operator, hfield, hop, rfl⟩
  · rintro ⟨⟨⟨path, hfield, hproper⟩, ⟨operator, hop, hknown, hneeded⟩⟩,
      path', operator', hfield', hop', rfl⟩
    obtain rfl : path = path' := by simpa [hfield] using hfield'
    obtain rfl : operator = operator' := by simpa [hop] using hop'
    have hpath : checkPath (location ++ [.field "field"]) (fields.get? "field") = .sound path :=
      checkPath_eq_sound_iff.mpr ⟨hfield, hproper⟩
    have hoperator : checkOperator registry (location ++ [.field "op"]) (fields.get? "op") =
        .sound operator := checkOperator_eq_sound_iff.mpr ⟨hop, hknown⟩
    have hoperand : checkOperand (location ++ [.field "value"]) (.sound operator)
        (fields.get? "value") = .sound ((fields.get? "value").getD .null) :=
      checkOperand_eq_sound_iff.mpr ⟨hneeded, rfl⟩
    simp only [checkField, hpath, hoperator, hoperand, Checked.both, Checked.map]

/-! ## Groups -/

/-- The field of a group holds well-formed conditions, which stand for the children given. -/
def GroupOf (registry : Registry) (value : Option Json) (children : List Condition) : Prop :=
  ∃ items, value = some (.array items) ∧ (∀ item ∈ items, WellFormed registry item) ∧
    List.Forall₂ Denotes items children

theorem group_iff {registry : Registry} {fields : Fields Json} {name : String}
    {make : List Condition → Condition} {condition : Condition} (kind : (name, make) ∈ groups)
    (only : OnlyKind fields name) :
    WellFormed registry (.object fields) ∧ Denotes (.object fields) condition ↔
      ∃ children, GroupOf registry (fields.get? name) children ∧ make children = condition := by
  constructor
  · rintro ⟨hformed, hdenotes⟩
    cases hformed with
    | leaf only' leaf =>
        obtain ⟨path, found, -⟩ := leaf.path
        exact absurd (only.eq_of_get? (by decide) found).symm (mem_kinds_of_mem_groups kind).2
    | group kind' only' found' children =>
        obtain rfl := only.eq_of_get? (mem_kinds_of_mem_groups kind').1 found'
        cases hdenotes with
        | leaf found _ =>
            exact absurd (only.eq_of_get? (by decide) found).symm (mem_kinds_of_mem_groups kind).2
        | group kind'' found'' each =>
            obtain rfl := only.eq_of_get? (mem_kinds_of_mem_groups kind'').1 found''
            rw [found'] at found''
            cases found''
            exact ⟨_, ⟨_, found', children, each⟩, make_unique kind kind''⟩
  · rintro ⟨children, ⟨items, found, hformed, each⟩, rfl⟩
    exact ⟨.group kind only found hformed, .group kind found each⟩

theorem leaf_iff {registry : Registry} {fields : Fields Json} {condition : Condition}
    (only : OnlyKind fields "field") :
    WellFormed registry (.object fields) ∧ Denotes (.object fields) condition ↔
      WellFormedLeaf registry fields ∧
        ∃ path operator, fields.get? "field" = some (.string path) ∧
          fields.get? "op" = some (.string operator) ∧
          condition = .field ⟨path, operator, (fields.get? "value").getD .null⟩ := by
  constructor
  · rintro ⟨hformed, hdenotes⟩
    cases hformed with
    | group kind only' found children =>
        obtain ⟨hkind, hne⟩ := mem_kinds_of_mem_groups kind
        exact absurd (only.eq_of_get? hkind found) hne
    | leaf only' leaf =>
        cases hdenotes with
        | group kind found each =>
            obtain ⟨hkind, hne⟩ := mem_kinds_of_mem_groups kind
            exact absurd (only.eq_of_get? hkind found) hne
        | leaf hpath hoperator => exact ⟨leaf, _, _, hpath, hoperator, rfl⟩
  · rintro ⟨leaf, path, operator, hpath, hoperator, rfl⟩
    exact ⟨.leaf only leaf, .leaf hpath hoperator⟩

theorem WellFormed.kindsOf_eq {registry : Registry} {fields : Fields Json}
    (h : WellFormed registry (.object fields)) :
    kindsOf fields = ["field"] ∨ kindsOf fields = ["all"] ∨ kindsOf fields = ["any"] := by
  cases h with
  | leaf only leaf => exact Or.inl ((kindsOf_eq_singleton_iff (by decide)).mpr only)
  | group kind only found children =>
      have hkinds := (kindsOf_eq_singleton_iff (mem_kinds_of_mem_groups kind).1).mpr only
      rcases eq_of_mem_groups kind with ⟨rfl, -⟩ | ⟨rfl, -⟩
      · exact Or.inr (Or.inl hkinds)
      · exact Or.inr (Or.inr hkinds)

/-! ## The check -/

mutual

/-- A document passes the check of conditions as a tree exactly when it is well-formed and stands
for the tree. -/
theorem checkAt_eq_sound_iff (registry : Registry) :
    ∀ (document : Json) (location : Location) (condition : Condition),
      checkAt registry location document = .sound condition ↔
        WellFormed registry document ∧ Denotes document condition
  | .object fields, location, condition => by
      have hgroup {name : String} {make : List Condition → Condition}
          (kind : (name, make) ∈ groups) (hkinds : kindsOf fields = [name]) :
          (checkGroup registry location name fields).map make = .sound condition ↔
            WellFormed registry (.object fields) ∧ Denotes (.object fields) condition := by
        have only := (kindsOf_eq_singleton_iff (mem_kinds_of_mem_groups kind).1).mp hkinds
        have hsome := only.get?_ne_none (mem_kinds_of_mem_groups kind).1
        rw [Checked.map_eq_sound_iff, group_iff kind only]
        simp only [checkGroup_eq_sound_iff registry fields, hsome, false_and, false_or]
      rw [checkAt]
      split
      · next hkinds =>
        have only := (kindsOf_eq_singleton_iff (by decide)).mp hkinds
        rw [checkField_eq_sound_iff, leaf_iff only]
      · next hkinds => exact hgroup (by simp [groups]) hkinds
      · next hkinds => exact hgroup (by simp [groups]) hkinds
      · next hkinds =>
        refine iff_of_false (fun h => nomatch h) fun h => ?_
        rcases h.1.kindsOf_eq with h | h | h <;> simp [h] at hkinds
      · next hfield hall hany _ =>
        refine iff_of_false (fun h => nomatch h) fun h => ?_
        rcases h.1.kindsOf_eq with h | h | h
        · exact hfield h
        · exact hall h
        · exact hany h
  | .null, location, condition | .bool _, location, condition | .number _, location, condition
  | .string _, location, condition | .array _, location, condition =>
      iff_of_false (fun h => nomatch h) fun h => nomatch h.1

theorem checkGroup_eq_sound_iff (registry : Registry) :
    ∀ (fields : List (String × Json)) (location : Location) (name : String)
      (children : List Condition),
      checkGroup registry location name fields = .sound children ↔
        Fields.get? fields name = none ∧ children = [] ∨
          GroupOf registry (Fields.get? fields name) children
  | [], location, name, children => by
      simp [checkGroup, GroupOf, eq_comm]
  | (key, value) :: rest, location, name, children => by
      rw [checkGroup, Fields.get?_cons]
      split
      · rw [checkChildren_eq_sound_iff registry value]
        simp
      · exact checkGroup_eq_sound_iff registry rest location name children

theorem checkChildren_eq_sound_iff (registry : Registry) :
    ∀ (document : Json) (location : Location) (children : List Condition),
      checkChildren registry location document = .sound children ↔
        GroupOf registry (some document) children
  | .array items, location, children => by
      rw [checkChildren, checkItems_eq_sound_iff registry items]
      simp [GroupOf]
  | .null, location, children | .bool _, location, children | .number _, location, children
  | .string _, location, children | .object _, location, children => by
      simp [checkChildren, GroupOf, Checked.fault]

theorem checkItems_eq_sound_iff (registry : Registry) :
    ∀ (items : List Json) (location : Location) (index : Nat) (children : List Condition),
      checkItems registry location index items = .sound children ↔
        (∀ item ∈ items, WellFormed registry item) ∧ List.Forall₂ Denotes items children
  | [], location, index, children => by
      simp [checkItems, eq_comm]
  | item :: rest, location, index, children => by
      rw [checkItems, Checked.map_eq_sound_iff]
      constructor
      · rintro ⟨⟨child, others⟩, hparts, rfl⟩
        obtain ⟨hitem, hrest⟩ := Checked.both_eq_sound_iff.mp hparts
        obtain ⟨hformed, hdenotes⟩ := (checkAt_eq_sound_iff registry item _ _).mp hitem
        obtain ⟨hformed', hdenotes'⟩ := (checkItems_eq_sound_iff registry rest _ _ _).mp hrest
        exact ⟨List.forall_mem_cons.mpr ⟨hformed, hformed'⟩, .cons hdenotes hdenotes'⟩
      · rintro ⟨hformed, hdenotes⟩
        obtain ⟨hitem, hrest⟩ := List.forall_mem_cons.mp hformed
        cases hdenotes with
        | cons hchild hothers =>
            refine ⟨(_, _), Checked.both_eq_sound_iff.mpr ⟨?_, ?_⟩, rfl⟩
            · exact (checkAt_eq_sound_iff registry item _ _).mpr ⟨hitem, hchild⟩
            · exact (checkItems_eq_sound_iff registry rest _ _ _).mpr ⟨hrest, hothers⟩

end

theorem WellFormed.exists_denotes {registry : Registry} {document : Json}
    (h : WellFormed registry document) : ∃ condition, Denotes document condition := by
  induction h with
  | leaf only leaf =>
      obtain ⟨path, hpath, -⟩ := leaf.path
      obtain ⟨operator, hoperator, -⟩ := leaf.operator
      exact ⟨_, .leaf hpath hoperator⟩
  | group kind only found children ih =>
      obtain ⟨trees, each⟩ := exists_forall₂ ih
      exact ⟨_, .group kind found each⟩

end Condition
end Verdict
