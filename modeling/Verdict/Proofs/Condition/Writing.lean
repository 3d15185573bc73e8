import Verdict.Proofs.Condition.Grammar
import Verdict.Proofs.Json.Canonical

/-!
# Conditions as documents

The trees that documents stand for are the readable ones (`Condition.WellFormed.leaves_of_denotes`),
and what `Condition.toJson` makes of a readable tree stands for that tree
(`Condition.Readable.reads`).
-/

namespace Verdict

/-- A leaf that can be read: a path without empty segments and an operator of the registry. -/
structure FieldCondition.Readable (registry : Registry) (leaf : FieldCondition) : Prop where
  path : ∀ segment ∈ DotPath.segments leaf.path, segment ≠ ""
  operator : registry.contains leaf.operator = true

namespace Condition

def Readable (registry : Registry) (condition : Condition) : Prop :=
  ∀ leaf ∈ condition.leaves, leaf.Readable registry

/-- Every operand is a value that a document can hold. -/
def Canonical (condition : Condition) : Prop :=
  ∀ leaf ∈ condition.leaves, leaf.operand.Canonical

/-! ## Groups and their children -/

mutual

/-- What holds of leaves, and of a group when it holds of its children, holds of all trees. -/
theorem induction_on_groups {motive : Condition → Prop} (leaf : ∀ leaf, motive (.field leaf))
    (group : ∀ {name : String} {make : List Condition → Condition} (children : List Condition),
      (name, make) ∈ groups → (∀ child ∈ children, motive child) → motive (make children)) :
    ∀ condition, motive condition
  | .field _ => leaf _
  | .all children =>
      group children (.head _) (induction_on_groups_children leaf group children)
  | .any children =>
      group children (.tail _ (.head _)) (induction_on_groups_children leaf group children)

theorem induction_on_groups_children {motive : Condition → Prop}
    (leaf : ∀ leaf, motive (.field leaf))
    (group : ∀ {name : String} {make : List Condition → Condition} (children : List Condition),
      (name, make) ∈ groups → (∀ child ∈ children, motive child) → motive (make children)) :
    ∀ children : List Condition, ∀ child ∈ children, motive child
  | [] => List.forall_mem_nil _
  | first :: rest => List.forall_mem_cons.mpr
      ⟨induction_on_groups leaf group first, induction_on_groups_children leaf group rest⟩

end

theorem mem_leavesOf {children : List Condition} {leaf : FieldCondition} :
    leaf ∈ leavesOf children ↔ ∃ child ∈ children, leaf ∈ child.leaves := by
  induction children with
  | nil => simp [leavesOf]
  | cons child rest ih => simp [leavesOf, ih]

theorem toJsonList_eq_map (children : List Condition) :
    toJsonList children = children.map toJson := by
  induction children with
  | nil => rfl
  | cons child rest ih => rw [toJsonList, ih, List.map_cons]

section Group

variable {name : String} {make : List Condition → Condition} {children : List Condition}
  (kind : (name, make) ∈ groups)

include kind

theorem mem_leaves_make {leaf : FieldCondition} :
    leaf ∈ (make children).leaves ↔ ∃ child ∈ children, leaf ∈ child.leaves := by
  rw [← mem_leavesOf]
  rcases eq_of_mem_groups kind with ⟨-, rfl⟩ | ⟨-, rfl⟩ <;> rfl

theorem toJson_make : (make children).toJson = .object [(name, .array (children.map toJson))] := by
  rw [← toJsonList_eq_map]
  rcases eq_of_mem_groups kind with ⟨rfl, rfl⟩ | ⟨rfl, rfl⟩ <;> rfl

theorem equal_make (others : List Condition) :
    (make children).equal (make others) = equalList children others := by
  rcases eq_of_mem_groups kind with ⟨-, rfl⟩ | ⟨-, rfl⟩ <;> rfl

theorem Readable.child {registry : Registry} (h : (make children).Readable registry)
    {child : Condition} (hchild : child ∈ children) : child.Readable registry :=
  fun leaf hleaf => h leaf ((mem_leaves_make kind).mpr ⟨child, hchild, hleaf⟩)

theorem Canonical.child (h : (make children).Canonical) {child : Condition}
    (hchild : child ∈ children) : child.Canonical :=
  fun leaf hleaf => h leaf ((mem_leaves_make kind).mpr ⟨child, hchild, hleaf⟩)

end Group

/-! ## What has been read -/

theorem WellFormed.leaves_of_denotes {registry : Registry} {document : Json}
    {condition : Condition} (hformed : WellFormed registry document)
    (hdenotes : Denotes document condition) :
    condition.Readable registry ∧ (document.Canonical → condition.Canonical) := by
  -- The induction is on the well-formedness, whose cases have a hypothesis for every child.
  -- `Denotes` has its children behind `List.Forall₂` and gives none.
  induction hformed generalizing condition with
  | @leaf fields only hleaf =>
      obtain ⟨-, path, operator, hfield, hop, rfl⟩ :=
        (leaf_iff only).mp ⟨.leaf only hleaf, hdenotes⟩
      obtain ⟨path', hfield', hproper⟩ := hleaf.path
      obtain ⟨operator', hop', hknown, -⟩ := hleaf.operator
      obtain rfl : path' = path := by simpa [hfield'] using hfield
      obtain rfl : operator' = operator := by simpa [hop'] using hop
      constructor
      · intro leaf hmem
        obtain rfl := List.mem_singleton.mp hmem
        exact ⟨hproper, hknown⟩
      · intro hcanonical leaf hmem
        obtain rfl := List.mem_singleton.mp hmem
        cases hvalue : fields.get? "value" with
        | none => trivial
        | some operand => exact hcanonical.field? hvalue
  | @group fields name make items kind only found hitems ih =>
      obtain ⟨children, ⟨items', found', -, each⟩, rfl⟩ :=
        (group_iff kind only).mp ⟨.group kind only found hitems, hdenotes⟩
      obtain rfl : items = items' := by simpa [found] using found'
      constructor
      · intro leaf hmem
        obtain ⟨child, hchild, hmem⟩ := (mem_leaves_make kind).mp hmem
        obtain ⟨item, hitem, hdenotes⟩ := exists_source_of_mem each hchild
        exact (ih item hitem hdenotes).1 leaf hmem
      · intro hcanonical leaf hmem
        obtain ⟨child, hchild, hmem⟩ := (mem_leaves_make kind).mp hmem
        obtain ⟨item, hitem, hdenotes⟩ := exists_source_of_mem each hchild
        have harray : (Json.array items).Canonical := hcanonical.field? found
        exact (ih item hitem hdenotes).2 (harray.item hitem) leaf hmem

/-! ## What is written -/

/-- A leaf is written with its path and its operator, and with its operand unless that is `null`
and the operator needs none. -/
theorem toJson_leaf (leaf : FieldCondition) :
    ∃ fields : Fields Json, leaf.toJson = .object fields ∧ OnlyKind fields "field" ∧
      fields.get? "field" = some (.string leaf.path) ∧
      fields.get? "op" = some (.string leaf.operator) ∧
      (fields.get? "value" = some leaf.operand ∨ fields.get? "value" = none ∧
        leaf.operand = .null ∧ Registry.requiresOperand leaf.operator = false) := by
  unfold FieldCondition.toJson
  dsimp only
  split
  · next hleft =>
    obtain ⟨hnull, hneedless⟩ := Bool.and_eq_true_iff.mp hleft
    have hoperand : leaf.operand = .null := by
      cases h : leaf.operand with
      | null => rfl
      | _ => rw [h] at hnull; cases hnull
    refine ⟨_, rfl, ?_, rfl, rfl, Or.inr ⟨rfl, hoperand, by simpa using hneedless⟩⟩
    simp [OnlyKind, kinds, Fields.contains, Fields.get?_cons]
  · refine ⟨_, rfl, ?_, rfl, rfl, Or.inl rfl⟩
    simp [OnlyKind, kinds, Fields.contains, Fields.get?_cons]

theorem onlyKind_singleton (name : String) (value : Json) : OnlyKind [(name, value)] name := by
  intro other hother
  rw [Fields.contains, Fields.get?_cons, Fields.get?_nil]
  split
  · next heq => simp [heq]
  · next hne => simp [Ne.symm hne]

theorem reads_leaf {registry : Registry} {leaf : FieldCondition}
    (h : leaf.Readable registry) :
    WellFormed registry leaf.toJson ∧ Denotes leaf.toJson (.field leaf) := by
  obtain ⟨fields, hjson, only, hpath, hoperator, hvalue⟩ := toJson_leaf leaf
  have hoperand : (fields.get? "value").getD .null = leaf.operand := by
    rcases hvalue with hvalue | ⟨hvalue, hnull, -⟩
    · rw [hvalue, Option.getD_some]
    · rw [hvalue, hnull, Option.getD_none]
  have hneeded : leaf.operator = "present" ∨ leaf.operator = "blank" ∨
      ∃ operand, fields.get? "value" = some operand := by
    rcases hvalue with hvalue | ⟨-, -, hneedless⟩
    · exact Or.inr (Or.inr ⟨_, hvalue⟩)
    · rcases requiresOperand_eq_false_iff.mp hneedless with hname | hname
      · exact Or.inl hname
      · exact Or.inr (Or.inl hname)
  rw [hjson, leaf_iff only]
  refine ⟨⟨⟨_, hpath, h.path⟩, ⟨_, hoperator, h.operator, hneeded⟩⟩, _, _, hpath, hoperator, ?_⟩
  rw [hoperand]

theorem Readable.reads {registry : Registry} {condition : Condition}
    (h : condition.Readable registry) :
    WellFormed registry condition.toJson ∧ Denotes condition.toJson condition := by
  induction condition using induction_on_groups with
  | leaf leaf => exact reads_leaf (h leaf (List.mem_singleton.mpr rfl))
  | @group name make children kind ih =>
      have heach : ∀ child ∈ children,
          WellFormed registry child.toJson ∧ Denotes child.toJson child :=
        fun child hchild => ih child hchild (h.child kind hchild)
      rw [toJson_make kind, group_iff kind (onlyKind_singleton _ _)]
      refine ⟨children, ⟨_, if_pos rfl, ?_, ?_⟩, rfl⟩
      · intro item hitem
        obtain ⟨child, hchild, rfl⟩ := List.mem_map.mp hitem
        exact (heach child hchild).1
      · rw [List.forall₂_map_left_iff, List.forall₂_same]
        exact fun child hchild => (heach child hchild).2

theorem canonical_toJson_leaf {leaf : FieldCondition} (h : leaf.operand.Canonical) :
    leaf.toJson.Canonical := by
  unfold FieldCondition.toJson
  dsimp only
  split
  · exact Json.canonical_object ["field", "op"] rfl (by decide) ⟨trivial, trivial, trivial⟩
  · exact Json.canonical_object ["field", "op", "value"] rfl (by decide)
      ⟨trivial, trivial, h, trivial⟩

theorem Canonical.toJson {condition : Condition} (h : condition.Canonical) :
    condition.toJson.Canonical := by
  induction condition using induction_on_groups with
  | leaf leaf => exact canonical_toJson_leaf (h leaf (List.mem_singleton.mpr rfl))
  | @group name make children kind ih =>
      have hitems : Json.CanonicalItems (children.map Condition.toJson) := by
        rw [Json.canonicalItems_iff, List.forall_mem_map]
        exact fun child hchild => ih child hchild (h.child kind hchild)
      rw [toJson_make kind]
      exact Json.canonical_object [name] rfl (List.pairwise_singleton _ _) ⟨hitems, trivial⟩

theorem equalList_self {children : List Condition}
    (h : ∀ child ∈ children, child.equal child = true) : equalList children children = true := by
  induction children with
  | nil => rfl
  | cons child rest ih =>
      obtain ⟨hchild, hrest⟩ := List.forall_mem_cons.mp h
      rw [equalList, hchild, ih hrest, Bool.and_true]

theorem Canonical.equal_self {condition : Condition} (h : condition.Canonical) :
    condition.equal condition = true := by
  induction condition using induction_on_groups with
  | leaf leaf =>
      have hoperand := Json.equal_self_of_canonical (h leaf (List.mem_singleton.mpr rfl))
      simp [equal, hoperand]
  | @group name make children kind ih =>
      rw [equal_make kind]
      exact equalList_self fun child hchild => ih child hchild (h.child kind hchild)

end Condition
end Verdict
