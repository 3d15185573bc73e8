import Verdict.Proofs.Condition.Grammar
import Verdict.Proofs.Rule.Relocation

/-!
# No fault hides another

The check of a document goes through its parts with one list of faults and the ids seen so far.
`Rule.faultsOf` says what is wrong with an item without either: it looks at each part of the item
alone, and at the items before it only to see whether they have its id.
-/

namespace Verdict

namespace Fault

def under (name : String) (faults : List Fault) : List Fault :=
  faults.map (below [.field name])

theorem map_below_under (outer : Location) (name : String) (faults : List Fault) :
    (under name faults).map (below outer) = faults.map (below (outer ++ [.field name])) := by
  rw [under, List.map_map]
  exact List.map_congr_left fun fault _ => fault.below_below outer [.field name]

theorem below_injective (outer : Location) : Function.Injective (below outer) := by
  intro a b h
  cases a
  cases b
  simpa [below] using h

theorem mem_map_below_iff (outer : Location) {fault : Fault} {faults : List Fault} :
    fault.below outer ∈ faults.map (below outer) ↔ fault ∈ faults :=
  List.mem_map_of_injective (below_injective outer)

theorem not_mem_under {name other : String} (hne : name ≠ other) {rest : Location}
    {fault : Fault} {faults : List Fault} :
    fault.below (.field name :: rest) ∉ under other faults := by
  intro hmem
  obtain ⟨part, -, heq⟩ := List.mem_map.mp hmem
  rw [below, below, mk.injEq, List.cons_append, List.cons_append, List.cons.injEq,
    Step.field.injEq] at heq
  exact hne heq.1.1.symm

end Fault

/-! ## Conditions -/

namespace Condition

theorem faults_checkField (registry : Registry) (fields : Fields Json) :
    (checkField registry [] fields).faults =
      Fault.under "field" (checkPath [] (fields.get? "field")).faults ++
        (Fault.under "op" (checkOperator registry [] (fields.get? "op")).faults ++
          Fault.under "value" (checkOperand [] (checkOperator registry [] (fields.get? "op"))
            (fields.get? "value")).faults) := by
  rw [checkField, Checked.faults_map, Checked.faults_both, Checked.faults_both, checkPath_eq_below,
    checkOperator_eq_below registry ([] ++ _), checkOperand_eq_below]
  simp only [Checked.faults_below, Fault.under, List.nil_append]

theorem faults_checkItems (registry : Registry) (location : Location) (index : Nat)
    (items : List Json) :
    (checkItems registry location index items).faults =
      (items.zipIdx index).flatMap fun (item, index) =>
        (check registry item).faults.map (Fault.below (location ++ [.item index])) := by
  induction items generalizing index with
  | nil => rfl
  | cons item rest ih =>
      rw [checkItems, Checked.faults_map, Checked.faults_both, ih, checkAt_eq_below,
        Checked.faults_below]
      rfl

theorem checkGroup_of_get? (registry : Registry) (location : Location) {name : String}
    {value : Json} {fields : Fields Json} (found : fields.get? name = some value) :
    checkGroup registry location name fields =
      checkChildren registry (location ++ [.field name]) value := by
  induction fields with
  | nil => cases found
  | cons entry rest ih =>
      obtain ⟨key, first⟩ := entry
      rw [Fields.get?_cons] at found
      rw [checkGroup]
      by_cases hkey : key = name
      · rw [if_pos hkey] at found ⊢
        cases found
        rfl
      · rw [if_neg hkey] at found ⊢
        exact ih found

theorem faults_checkAt_group (registry : Registry) (location : Location) {fields : Fields Json}
    {name : String} {make : List Condition → Condition} {items : List Json}
    (kind : (name, make) ∈ groups) (only : OnlyKind fields name)
    (found : fields.get? name = some (.array items)) :
    (checkAt registry location (.object fields)).faults =
      items.zipIdx.flatMap fun (item, index) =>
        (check registry item).faults.map
          (Fault.below (location ++ [.field name, .item index])) := by
  have hkinds := (kindsOf_eq_singleton_iff (mem_kinds_of_mem_groups kind).1).mpr only
  have hgroup : (checkAt registry location (.object fields)).faults =
      (checkGroup registry location name fields).faults := by
    rcases eq_of_mem_groups kind with ⟨rfl, -⟩ | ⟨rfl, -⟩
    · simp only [checkAt, hkinds, Checked.faults_map]
    · simp only [checkAt, hkinds, Checked.faults_map]
  rw [hgroup, checkGroup_of_get? registry location found, checkChildren, faults_checkItems]
  simp only [List.append_assoc, List.singleton_append]

end Condition

/-! ## Items -/

namespace Rule

/-- An item has an id, whatever else may be wrong with it. -/
def HasId (id : String) (item : Json) : Prop :=
  (item.field? "id").bind Json.string? = some id

instance (id : String) : DecidablePred (HasId id) := fun _ => inferInstanceAs (Decidable (_ = _))

theorem hasId_iff {id : String} {item : Json} :
    HasId id item ↔ item.field? "id" = some (.string id) := by
  rw [HasId, Option.bind_eq_some_iff]
  constructor
  · rintro ⟨value, hvalue, htext⟩
    cases value with
    | string text =>
        cases htext
        exact hvalue
    | _ => cases htext
  · intro h
    exact ⟨_, h, rfl⟩

/-- An id that is not empty and that an earlier item has. -/
def Repeats (earlier : List Json) (id : String) : Prop :=
  id ≠ "" ∧ ∃ item ∈ earlier, HasId id item

instance (earlier : List Json) (id : String) : Decidable (Repeats earlier id) :=
  inferInstanceAs (Decidable (_ ∧ _))

def repetition (earlier : List Json) : Option Json → List Fault
  | some (.string id) => if Repeats earlier id then [⟨[], .duplicateId id⟩] else []
  | _ => []

def consequenceFaults : Option Json → List Fault
  | none | some .null => [⟨[], .missing⟩]
  | some (.object fields) =>
    Fault.under "decision" (checkName [] (Fields.get? fields "decision")).faults ++
      Fault.under "weight" (checkWeight [] (Fields.get? fields "weight")).faults ++
      Fault.under "reason" (checkNote [] (Fields.get? fields "reason")).faults
  | some _ => [⟨[], .notObject⟩]

/-- What is wrong with an item, part by part. -/
def faultsOf (registry : Registry) (earlier : List Json) : Json → List Fault
  | .object fields =>
    Fault.under "id" (checkName [] (Fields.get? fields "id")).faults ++
      Fault.under "id" (repetition earlier (Fields.get? fields "id")) ++
      Fault.under "if" (checkCondition registry [] (Fields.get? fields "if")).faults ++
      Fault.under "then" (consequenceFaults (Fields.get? fields "then"))
  | _ => [⟨[], .ruleNotObject⟩]

/-- The ids that the check of an item is given are those that earlier items have. -/
theorem mem_claimed_iff {earlier : List Json} {id : String} :
    id ∈ earlier.filterMap claimedId? ↔ Repeats earlier id := by
  have hclaims (item : Json) : claimedId? item = some id ↔ HasId id item ∧ id ≠ "" := by
    rw [claimedId?, Option.filter_eq_some_iff]
    simp [HasId]
  rw [List.mem_filterMap, Repeats]
  constructor
  · rintro ⟨item, hmem, hclaim⟩
    obtain ⟨hid, hne⟩ := (hclaims item).mp hclaim
    exact ⟨hne, item, hmem, hid⟩
  · rintro ⟨hne, item, hmem, hid⟩
    exact ⟨item, hmem, (hclaims item).mpr ⟨hid, hne⟩⟩

theorem faults_checkId (location : Location) (earlier : List Json) (value : Option Json) :
    (checkId location (earlier.filterMap claimedId?) value).faults =
      ((checkName [] value).faults ++ repetition earlier value).map (Fault.below location) := by
  rw [checkId, checkName_eq_below]
  cases value with
  | none => rfl
  | some value =>
      cases value with
      | string text =>
          by_cases hempty : text = ""
          · have hrepeats : ¬ Repeats earlier text := fun h => h.1 hempty
            rw [repetition, if_neg hrepeats, hempty]
            rfl
          · have hname : checkName [] (some (.string text)) = .sound text := by
              simp [checkName, hempty]
            rw [repetition, hname, Checked.below_sound]
            simp only [List.contains_iff_mem, mem_claimed_iff]
            by_cases hrepeats : Repeats earlier text
            · rw [if_pos hrepeats, if_pos hrepeats, ← Checked.below_fault, Checked.faults_below]
              rfl
            · rw [if_neg hrepeats, if_neg hrepeats]
              rfl
      | _ => rfl

theorem faults_checkConsequence (value : Option Json) :
    (checkConsequence [] value).faults = consequenceFaults value := by
  unfold checkConsequence consequenceFaults
  split
  · rfl
  · rfl
  · rw [Checked.faults_both, Checked.faults_both, checkName_eq_below, checkWeight_eq_below,
      checkNote_eq_below]
    simp only [Checked.faults_below, Fault.under, List.nil_append, List.append_assoc]
  · simp

theorem faults_checkAt (registry : Registry) (location : Location) (earlier : List Json)
    (item : Json) :
    (checkAt registry location (earlier.filterMap claimedId?) item).faults =
      (faultsOf registry earlier item).map (Fault.below location) := by
  cases item with
  | object fields =>
      rw [checkAt, Checked.faults_map, Checked.faults_both, Checked.faults_both, faults_checkId,
        checkCondition_eq_below, checkConsequence_eq_below, Checked.faults_below,
        Checked.faults_below, faults_checkConsequence, faultsOf]
      simp only [List.map_append, Fault.map_below_under, List.append_assoc]
  | _ => simp [checkAt, faultsOf, Fault.below]

theorem not_mem_faults_checkName (location place : Location) (value : Option Json)
    (id : String) : (⟨place, .duplicateId id⟩ : Fault) ∉ (checkName location value).faults := by
  unfold checkName
  split
  · simp
  · simp
  · split
    · simp
    · exact List.not_mem_nil
  · simp

theorem mem_repetition_iff {earlier : List Json} {value : Option Json} {id : String} :
    (⟨[], .duplicateId id⟩ : Fault) ∈ repetition earlier value ↔
      value = some (.string id) ∧ Repeats earlier id := by
  unfold repetition
  split
  · next text =>
    by_cases hrepeats : Repeats earlier text
    · rw [if_pos hrepeats, List.mem_singleton]
      constructor
      · rintro ⟨⟩
        exact ⟨rfl, hrepeats⟩
      · rintro ⟨⟨⟩, -⟩
        rfl
    · rw [if_neg hrepeats]
      refine iff_of_false List.not_mem_nil ?_
      rintro ⟨⟨⟩, h⟩
      exact hrepeats h
  · next hnot => exact iff_of_false List.not_mem_nil fun h => hnot id h.1

theorem mem_faultsOf_iff {registry : Registry} {earlier : List Json} {item : Json}
    {id : String} :
    (⟨[.field "id"], .duplicateId id⟩ : Fault) ∈ faultsOf registry earlier item ↔
      HasId id item ∧ Repeats earlier id := by
  cases item with
  | object fields =>
      let fault : Fault := ⟨[], .duplicateId id⟩
      have hname : fault.below [.field "id"] ∉
          Fault.under "id" (checkName [] (Fields.get? fields "id")).faults := by
        rw [Fault.under, Fault.mem_map_below_iff]
        exact not_mem_faults_checkName _ _ _ _
      have hif : fault.below [.field "id"] ∉
          Fault.under "if" (checkCondition registry [] (Fields.get? fields "if")).faults :=
        Fault.not_mem_under (by decide)
      have hthen : fault.below [.field "id"] ∉
          Fault.under "then" (consequenceFaults (Fields.get? fields "then")) :=
        Fault.not_mem_under (by decide)
      show fault.below [.field "id"] ∈ _ ↔ _
      rw [faultsOf, List.mem_append, List.mem_append, List.mem_append, or_iff_left hthen,
        or_iff_left hif, or_iff_right hname, Fault.under, Fault.mem_map_below_iff,
        mem_repetition_iff, hasId_iff]
      rfl
  | _ => simp [faultsOf, HasId, Json.field?]

end Rule

/-! ## Documents -/

namespace RuleSet

theorem faults_checkRules (registry : Registry) (earlier items : List Json) :
    (checkRules registry earlier.length (earlier.filterMap Rule.claimedId?) items).faults =
      (items.zipIdx earlier.length).flatMap fun (item, index) =>
        (Rule.faultsOf registry ((earlier ++ items).take index) item).map
          (Fault.below [.field "rules", .item index]) := by
  -- the ids seen so far are always those of the items already checked
  induction items generalizing earlier with
  | nil => rfl
  | cons item rest ih =>
      have hclaimed : earlier.filterMap Rule.claimedId? ++ (Rule.claimedId? item).toList =
          (earlier ++ [item]).filterMap Rule.claimedId? := by
        rw [List.filterMap_append]
        cases h : Rule.claimedId? item <;> simp [h]
      have hrest := ih (earlier ++ [item])
      rw [List.length_append, List.length_singleton, List.append_assoc,
        List.singleton_append] at hrest
      rw [checkRules, Checked.faults_map, Checked.faults_both, Rule.faults_checkAt, hclaimed,
        hrest, List.zipIdx_cons, List.flatMap_cons]
      show _ = (Rule.faultsOf registry ((earlier ++ item :: rest).take earlier.length) item).map _
        ++ _
      rw [List.take_left]

theorem faults_check (registry : Registry) {fields : Fields Json} {items : List Json}
    (hrules : fields.get? "rules" = some (.array items)) :
    (check registry (.object fields)).faults =
      Fault.under "version" (checkVersion [] (fields.get? "version")).faults ++
        items.zipIdx.flatMap fun (item, index) =>
          (Rule.faultsOf registry (items.take index) item).map
            (Fault.below [.field "rules", .item index]) := by
  rw [check, Checked.faults_map, Checked.faults_both, hrules, checkList, checkVersion_eq_below,
    Checked.faults_below]
  exact congrArg _ (faults_checkRules registry [] items)

theorem mem_faults_check_iff (registry : Registry) {fields : Fields Json} {items : List Json}
    (hrules : fields.get? "rules" = some (.array items)) {index : Nat} {item : Json}
    (hitem : items[index]? = some item) (id : String) :
    (⟨[.field "rules", .item index, .field "id"], .duplicateId id⟩ : Fault) ∈
        (check registry (.object fields)).faults ↔
      Rule.HasId id item ∧ Rule.Repeats (items.take index) id := by
  let fault : Fault := ⟨[.field "id"], .duplicateId id⟩
  have hversion : fault.below [.field "rules", .item index] ∉
      Fault.under "version" (checkVersion [] (fields.get? "version")).faults :=
    Fault.not_mem_under (by decide)
  show fault.below [.field "rules", .item index] ∈ _ ↔ _
  rw [faults_check registry hrules, List.mem_append, or_iff_right hversion, List.mem_flatMap]
  constructor
  · rintro ⟨⟨other, place⟩, hmem, hfault⟩
    obtain ⟨part, hpart, heq⟩ := List.mem_map.mp hfault
    obtain rfl : place = index := by
      simp only [Fault.below, Fault.mk.injEq, List.cons_append, List.cons.injEq] at heq
      exact Step.item.inj heq.1.2.1
    obtain rfl : part = fault := Fault.below_injective _ heq
    rw [List.mem_zipIdx_iff_getElem?, hitem] at hmem
    cases hmem
    exact Rule.mem_faultsOf_iff.mp hpart
  · intro h
    refine ⟨(item, index), List.mem_zipIdx_iff_getElem?.mpr hitem, ?_⟩
    exact (Fault.mem_map_below_iff _).mpr (Rule.mem_faultsOf_iff.mpr h)

/-- No part of a document hides what is wrong with another: the faults are those of the version and
of the items in order, each as if it were alone; an id is reported exactly when an earlier item has
it; and the faults of a group are those of its members in order. -/
theorem faults_check_by_parts (registry : Registry) {fields : Fields Json} {items : List Json}
    (hrules : fields.get? "rules" = some (.array items)) :
    (check registry (.object fields)).faults =
        Fault.under "version" (checkVersion [] (fields.get? "version")).faults ++
          (items.zipIdx.flatMap fun (item, index) =>
            (Rule.faultsOf registry (items.take index) item).map
              (Fault.below [.field "rules", .item index])) ∧
      (∀ index item id, items[index]? = some item →
        ((⟨[.field "rules", .item index, .field "id"], .duplicateId id⟩ : Fault) ∈
            (check registry (.object fields)).faults ↔
          Rule.HasId id item ∧ Rule.Repeats (items.take index) id)) ∧
      ∀ (location : Location) (group : Fields Json) (name : String)
        (make : List Condition → Condition) (members : List Json),
        (name, make) ∈ Condition.groups → Condition.OnlyKind group name →
        group.get? name = some (.array members) →
        (Condition.checkAt registry location (.object group)).faults =
          members.zipIdx.flatMap fun (member, index) =>
            (Condition.check registry member).faults.map
              (Fault.below (location ++ [.field name, .item index])) := by
  refine ⟨faults_check registry hrules, ?_, ?_⟩
  · intro index item id hitem
    exact mem_faults_check_iff registry hrules hitem id
  · intro location group name make members kind only found
    exact Condition.faults_checkAt_group registry location kind only found

def flawedGroup : Fields Json :=
  [("all", .array [
    .object [("field", .string "applicant..score"), ("op", .string "gte")],
    .object [("field", .string "applicant.score"), ("op", .string "above"), ("value", .ofInt 700)]])]

def flawedItems : List Json :=
  [.object [("id", .string "prime"), ("if", .object flawedGroup),
      ("then", .object [("decision", .string "approve")])],
    .string "prime",
    .object [("id", .string "prime"),
      ("then", .object [("decision", .null), ("reason", .ofInt 7), ("weight", .string "full")])]]

def flawedDocument : Fields Json :=
  [("rules", .array flawedItems)]

theorem faults_check_by_parts_flawedDocument :
    flawedDocument.get? "rules" = some (.array flawedItems) ∧
      (check .builtin (.object flawedDocument)).faults.map Fault.path =
        ["version", "rules[0].if.all[0].field", "rules[0].if.all[0].value",
          "rules[0].if.all[1].op", "rules[1]", "rules[2].id", "rules[2].if",
          "rules[2].then.decision", "rules[2].then.weight", "rules[2].then.reason"] ∧
      (⟨[.field "rules", .item 2, .field "id"], .duplicateId "prime"⟩ : Fault) ∈
        (check .builtin (.object flawedDocument)).faults ∧
      (Condition.check .builtin (.object flawedGroup)).faults.map Fault.path =
        ["all[0].field", "all[0].value", "all[1].op"] := by
  have hrules : flawedDocument.get? "rules" = some (.array flawedItems) := rfl
  have only : Condition.OnlyKind flawedGroup "all" :=
    (Condition.kindsOf_eq_singleton_iff (by decide)).mp rfl
  obtain ⟨hparts, hids, hgroups⟩ := faults_check_by_parts .builtin hrules
  refine ⟨hrules, ?_, ?_, ?_⟩
  · rw [hparts]
    decide +kernel
  · exact (hids 2 _ "prime" rfl).mpr (by decide)
  · rw [Condition.check, hgroups [] flawedGroup "all" .all _ (by simp [Condition.groups]) only rfl]
    decide +kernel

end RuleSet
end Verdict
