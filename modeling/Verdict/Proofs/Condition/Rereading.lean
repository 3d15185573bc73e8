import Verdict.Proofs.Condition.Writing
import Verdict.Proofs.Rule.Independence

/-!
# Conditions read again

A tree that was put together by hand need not be one that a document can stand for.  Written down
and checked it is either found to be what it was, or its leaves are at fault, each for itself and at
the place where it is written (`Condition.placedLeaves`).
-/

namespace Verdict

theorem Fault.under_required {α : Type} {p : Prop} [Decidable p] (name : String) (value : α)
    (cause : Cause) :
    under name (if p then Checked.sound value else .fault [] cause).faults =
      if p then [] else [⟨[.field name], cause⟩] := by
  by_cases h : p
  · rw [if_pos h, if_pos h]
    rfl
  · rw [if_neg h, if_neg h]
    rfl

namespace FieldCondition

def faults (registry : Registry) (leaf : FieldCondition) : List Fault :=
  (if ∀ segment ∈ DotPath.segments leaf.path, segment ≠ "" then []
    else [⟨[.field "field"], .improperPath leaf.path⟩]) ++
  if registry.contains leaf.operator = true then []
    else [⟨[.field "op"], .unknownOperator leaf.operator registry.names⟩]

theorem faults_eq_nil_iff {registry : Registry} {leaf : FieldCondition} :
    leaf.faults registry = [] ↔ leaf.Readable registry := by
  rw [faults, List.append_eq_nil_iff]
  constructor
  · rintro ⟨hpath, hoperator⟩
    constructor
    · by_contra hempty
      rw [if_neg hempty] at hpath
      cases hpath
    · by_contra hunknown
      rw [if_neg hunknown] at hoperator
      cases hoperator
  · intro h
    exact ⟨if_pos h.path, if_pos h.operator⟩

end FieldCondition

/-- A leaf of a tree, with the location at which the document of the tree has it. -/
structure PlacedLeaf where
  location : Location
  leaf : FieldCondition

namespace PlacedLeaf

def below (outer : Location) (placed : PlacedLeaf) : PlacedLeaf :=
  ⟨outer ++ placed.location, placed.leaf⟩

def faults (registry : Registry) (placed : PlacedLeaf) : List Fault :=
  (placed.leaf.faults registry).map (Fault.below placed.location)

theorem faults_below (registry : Registry) (outer : Location) (placed : PlacedLeaf) :
    (placed.below outer).faults registry = (placed.faults registry).map (Fault.below outer) := by
  rw [faults, faults, List.map_map]
  exact List.map_congr_left fun fault _ => (fault.below_below outer placed.location).symm

end PlacedLeaf

namespace Condition

/-! ## Places of leaves -/

mutual

/-- The leaves from left to right, each with the location at which it is written. -/
def placedLeaves : Condition → List PlacedLeaf
  | all children => placedLeavesOf "all" 0 children
  | any children => placedLeavesOf "any" 0 children
  | field leaf => [⟨[], leaf⟩]

def placedLeavesOf (name : String) (index : Nat) : List Condition → List PlacedLeaf
  | [] => []
  | child :: rest =>
    child.placedLeaves.map (PlacedLeaf.below [.field name, .item index]) ++
      placedLeavesOf name (index + 1) rest

end

theorem placedLeavesOf_eq_flatMap (name : String) (index : Nat) (children : List Condition) :
    placedLeavesOf name index children =
      (children.zipIdx index).flatMap fun (child, index) =>
        child.placedLeaves.map (PlacedLeaf.below [.field name, .item index]) := by
  induction children generalizing index with
  | nil => rfl
  | cons child rest ih => rw [placedLeavesOf, ih, List.zipIdx_cons, List.flatMap_cons]

theorem placedLeaves_make {name : String} {make : List Condition → Condition}
    (kind : (name, make) ∈ groups) (children : List Condition) :
    (make children).placedLeaves =
      children.zipIdx.flatMap fun (child, index) =>
        child.placedLeaves.map (PlacedLeaf.below [.field name, .item index]) := by
  rw [← placedLeavesOf_eq_flatMap]
  rcases eq_of_mem_groups kind with ⟨rfl, rfl⟩ | ⟨rfl, rfl⟩ <;> rfl

mutual

theorem map_leaf_placedLeaves : ∀ condition : Condition,
    condition.placedLeaves.map PlacedLeaf.leaf = condition.leaves
  | .all children => map_leaf_placedLeavesOf "all" 0 children
  | .any children => map_leaf_placedLeavesOf "any" 0 children
  | .field _ => rfl

theorem map_leaf_placedLeavesOf : ∀ (name : String) (index : Nat) (children : List Condition),
    (placedLeavesOf name index children).map PlacedLeaf.leaf = leavesOf children
  | _, _, [] => rfl
  | name, index, child :: rest => by
      rw [placedLeavesOf, List.map_append, List.map_map, map_leaf_placedLeavesOf, leavesOf,
        ← map_leaf_placedLeaves child]
      rfl

end

/-- At its place the document of a tree has the document of the leaf. -/
theorem find?_of_mem_placedLeaves {condition : Condition} :
    ∀ placed ∈ condition.placedLeaves,
      Location.find? placed.location condition.toJson = some placed.leaf.toJson := by
  induction condition using induction_on_groups with
  | leaf leaf =>
      intro placed hplaced
      obtain rfl := List.mem_singleton.mp hplaced
      rfl
  | @group name make children kind ih =>
      intro placed hplaced
      rw [placedLeaves_make kind] at hplaced
      obtain ⟨⟨child, index⟩, hchild, hbelow⟩ := List.mem_flatMap.mp hplaced
      obtain ⟨inner, hinner, rfl⟩ := List.mem_map.mp hbelow
      have hat := List.mem_zipIdx_iff_getElem?.mp hchild
      rw [toJson_make kind]
      show (Fields.get? [(name, _)] name).bind (Location.find? (.item index :: inner.location)) = _
      rw [Fields.get?_cons, if_pos rfl, Option.bind_some, Location.find?, List.getElem?_map, hat]
      exact ih child (List.mem_of_getElem? hat) inner hinner

/-! ## The check of what was written -/

def leafFaults (registry : Registry) (condition : Condition) : List Fault :=
  condition.placedLeaves.flatMap (PlacedLeaf.faults registry)

theorem leafFaults_make (registry : Registry) {name : String}
    {make : List Condition → Condition} (kind : (name, make) ∈ groups)
    (children : List Condition) :
    (make children).leafFaults registry =
      children.zipIdx.flatMap fun (child, index) =>
        (child.leafFaults registry).map (Fault.below [.field name, .item index]) := by
  rw [leafFaults, placedLeaves_make kind, List.flatMap_assoc]
  congr 1
  funext ⟨child, index⟩
  show _ = (child.leafFaults registry).map _
  rw [List.flatMap_map, leafFaults, List.map_flatMap]
  simp only [PlacedLeaf.faults_below]

theorem leafFaults_eq_nil_iff {registry : Registry} {condition : Condition} :
    condition.leafFaults registry = [] ↔ condition.Readable registry := by
  rw [leafFaults, List.flatMap_eq_nil_iff, Readable, ← map_leaf_placedLeaves, List.forall_mem_map]
  simp only [PlacedLeaf.faults, List.map_eq_nil_iff, FieldCondition.faults_eq_nil_iff]

/-- An operand is left out only where it is not required, so nothing is said about it. -/
theorem faults_checkOperand_toJson (registry : Registry) {leaf : FieldCondition}
    {operand : Option Json}
    (h : operand = some leaf.operand ∨ operand = none ∧ leaf.operand = .null ∧
      Registry.requiresOperand leaf.operator = false) :
    (checkOperand [] (checkOperator registry [] (some (.string leaf.operator))) operand).faults =
      [] := by
  rcases h with rfl | ⟨rfl, -, hneedless⟩
  · rfl
  · rw [checkOperator]
    by_cases hknown : registry.contains leaf.operator = true
    · rw [if_pos hknown, checkOperand, hneedless]
      rfl
    · rw [if_neg hknown]
      rfl

theorem faults_check_leaf (registry : Registry) (leaf : FieldCondition) :
    (check registry leaf.toJson).faults = leaf.faults registry := by
  obtain ⟨fields, hjson, only, hpath, hoperator, hvalue⟩ := toJson_leaf leaf
  have hkinds := (kindsOf_eq_singleton_iff (by decide)).mpr only
  have hcheck : check registry leaf.toJson = checkField registry [] fields := by
    simp only [hjson, check, checkAt, hkinds]
  rw [hcheck, faults_checkField, hpath, hoperator, faults_checkOperand_toJson registry hvalue,
    checkPath, checkOperator, Fault.under_required, Fault.under_required, FieldCondition.faults,
    if_congr isProper_iff rfl rfl]
  exact congrArg _ (List.append_nil _)

theorem faults_check_toJson (registry : Registry) (condition : Condition) :
    (check registry condition.toJson).faults = condition.leafFaults registry := by
  induction condition using induction_on_groups with
  | leaf leaf =>
      rw [toJson, faults_check_leaf, leafFaults, placedLeaves, List.flatMap_singleton]
      exact (List.map_id _).symm
  | @group name make children kind ih =>
      have hfound : Fields.get? [(name, Json.array (children.map toJson))] name =
          some (.array (children.map toJson)) := if_pos rfl
      rw [toJson_make kind, check,
        faults_checkAt_group registry [] kind (onlyKind_singleton name _) hfound, List.zipIdx_map,
        List.flatMap_map, leafFaults_make registry kind]
      apply List.flatMap_congr
      rintro ⟨child, index⟩ hchild
      exact congrArg _ (ih child (List.fst_mem_of_mem_zipIdx hchild))

/-- A tree that is written down is read as what it was if each of its leaves has a path without
empty segments and an operator of the registry.  Otherwise it has the faults of its leaves and no
others, each below the place where its leaf is written. -/
theorem check_toJson (registry : Registry) (condition : Condition) :
    (condition.Readable registry → check registry condition.toJson = .sound condition) ∧
      (¬ condition.Readable registry →
        condition.leafFaults registry ≠ [] ∧
          check registry condition.toJson = .faulty (condition.leafFaults registry)) ∧
      condition.placedLeaves.map PlacedLeaf.leaf = condition.leaves ∧
      ∀ placed ∈ condition.placedLeaves,
        Location.find? placed.location condition.toJson = some placed.leaf.toJson := by
  refine ⟨?_, ?_, map_leaf_placedLeaves condition, find?_of_mem_placedLeaves⟩
  · intro hreadable
    exact (checkAt_eq_sound_iff registry condition.toJson [] condition).mpr hreadable.reads
  · intro hunreadable
    have hfaults := faults_check_toJson registry condition
    have hne : condition.leafFaults registry ≠ [] :=
      fun hnil => hunreadable (leafFaults_eq_nil_iff.mp hnil)
    refine ⟨hne, ?_⟩
    cases hcheck : check registry condition.toJson with
    | sound other =>
        rw [hcheck] at hfaults
        exact absurd hfaults.symm hne
    | faulty faults =>
        rw [hcheck] at hfaults
        exact congrArg _ hfaults

example :
    (check .builtin (any [.field ⟨"score..total", "above", .ofInt 700⟩,
      all [.field ⟨"", "present", .null⟩, .field ⟨"name", "eq", .null⟩]]).toJson).faults.map
        Fault.path = ["any[0].field", "any[0].op", "any[1].all[0].field"] := by
  decide +kernel

end Condition
end Verdict
