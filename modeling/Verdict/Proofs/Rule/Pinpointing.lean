import Verdict.Proofs.Json.Canonical
import Verdict.Proofs.Rule.Independence
import Verdict.Proofs.Rule.LocationText
import Mathlib.Data.List.Nodup

/-!
# Where faults are

`Fault.Points` says that a fault leads to what is wrong.  A list of faults is `Pinpointed` if each
of them points to its place and no two of them to the same one.  An object or an array has
pinpointed faults if each of its parts has them, alone (`Pinpointed.object`, `Pinpointed.array`);
the rest follows the parts of a document.
-/

namespace Verdict

/-! ## Places -/

/-- A location leads to an object, and on to a name under which the object has nothing or `null`. -/
def Location.Lacking (document : Json) (location : Location) : Prop :=
  ∃ (outer : Location) (name : String) (fields : Fields Json),
    location = outer ++ [.field name] ∧ Location.find? outer document = some (.object fields) ∧
      (fields.get? name = none ∨ fields.get? name = some .null)

def Cause.isAbsence : Cause → Bool
  | missing | missingOperand _ => true
  | _ => false

namespace Fault

/-- The location of a fault leads to what is wrong: to a name that an object lacks if something is
missing, and otherwise to a value. -/
structure Points (document : Json) (fault : Fault) : Prop where
  lacking : fault.cause.isAbsence = true → Location.Lacking document fault.location
  found : fault.cause.isAbsence = false →
    ∃ value, Location.find? fault.location document = some value

inductive PointsInto (part : Option Json) (fault : Fault) : Prop where
  | inside {value : Json} (present : part = some value) (points : fault.Points value)
  | absent (missing : part = none ∨ part = some .null) (here : fault.location = [])
      (absence : fault.cause.isAbsence = true)

theorem Points.below {whole value : Json} {step : Step} {fault : Fault}
    (leads : ∀ rest : Location, Location.find? (step :: rest) whole = Location.find? rest value)
    (h : fault.Points value) : (fault.below [step]).Points whole := by
  constructor
  · intro habsence
    obtain ⟨outer, name, fields, hlocation, hfields, hname⟩ := h.lacking habsence
    refine ⟨step :: outer, name, fields, ?_, (leads outer).trans hfields, hname⟩
    rw [Fault.below, hlocation]
    rfl
  · intro hpresent
    obtain ⟨inner, hinner⟩ := h.found hpresent
    exact ⟨inner, (leads fault.location).trans hinner⟩

theorem Points.below_item {items : List Json} {item : Json} {index : Nat} {fault : Fault}
    (hitem : items[index]? = some item) (h : fault.Points item) :
    (fault.below [.item index]).Points (.array items) := by
  apply h.below
  intro rest
  rw [Location.find?, hitem, Option.bind_some]

theorem PointsInto.below_field {fields : Fields Json} {name : String} {fault : Fault}
    (h : fault.PointsInto (fields.get? name)) :
    (fault.below [.field name]).Points (.object fields) := by
  cases h with
  | inside present points =>
      apply points.below
      intro rest
      rw [Location.find?, present, Option.bind_some]
  | absent missing here absence =>
      constructor
      · intro _
        refine ⟨[], name, fields, ?_, rfl, missing⟩
        rw [Fault.below, here]
        rfl
      · intro hpresent
        exact absurd absence (ne_true_of_eq_false hpresent)

end Fault

/-! ## Names -/

def documentNames : List String :=
  ["version", "rules", "id", "if", "then", "decision", "weight", "reason", "all", "any", "field",
    "op", "value"]

theorem nodup_documentNames : documentNames.Nodup := by
  decide

theorem plain_of_mem_documentNames : ∀ name ∈ documentNames, (Step.field name).Plain := by
  have hchecked : ∀ name ∈ documentNames,
      (name != "" && name.toList.all Location.isNameChar) = true := by
    decide +kernel
  intro name hname
  obtain ⟨hne, hchars⟩ := Bool.and_eq_true_iff.mp (hchecked name hname)
  exact ⟨bne_iff_ne.mp hne, List.all_eq_true.mp hchars⟩

/-! ## Lists of faults -/

/-- Every fault is at a place of its own, which can be told from the text of its location and of
which something holds. -/
structure Pinpointed (points : Fault → Prop) (faults : List Fault) : Prop where
  distinct : (faults.map Fault.location).Nodup
  plain : ∀ fault ∈ faults, fault.location.Plain
  points : ∀ fault ∈ faults, points fault

namespace Pinpointed

variable {points : Fault → Prop} {faults : List Fault}

theorem nil : Pinpointed points [] :=
  ⟨List.nodup_nil, List.forall_mem_nil _, List.forall_mem_nil _⟩

theorem imp {points' : Fault → Prop} (h : Pinpointed points faults)
    (himp : ∀ fault, points fault → points' fault) : Pinpointed points' faults :=
  ⟨h.distinct, h.plain, fun fault hfault => himp fault (h.points fault hfault)⟩

theorem singleton {cause : Cause} (h : points ⟨[], cause⟩) : Pinpointed points [⟨[], cause⟩] := by
  refine ⟨List.nodup_singleton _, ?_, ?_⟩
  · rw [List.forall_mem_singleton]
    exact List.forall_mem_nil _
  · rwa [List.forall_mem_singleton]

theorem absent {part : Option Json} {cause : Cause} (missing : part = none ∨ part = some .null)
    (absence : cause.isAbsence = true) : Pinpointed (Fault.PointsInto part) [⟨[], cause⟩] :=
  singleton (.absent missing rfl absence)

theorem present {value : Json} {cause : Cause} (presence : cause.isAbsence = false) :
    Pinpointed (Fault.Points value) [⟨[], cause⟩] :=
  singleton ⟨fun h => absurd h (ne_true_of_eq_false presence), fun _ => ⟨value, rfl⟩⟩

theorem inside {value : Json} (h : Pinpointed (Fault.Points value) faults) :
    Pinpointed (Fault.PointsInto (some value)) faults :=
  h.imp fun _ hpoints => .inside rfl hpoints

/-- Faults that different steps lead to are at different places. -/
theorem parts {parts : List (Step × List Fault)} (steps : (parts.map Prod.fst).Nodup)
    (plain : ∀ part ∈ parts, part.1.Plain)
    (each : ∀ part ∈ parts, Pinpointed (fun fault => points (fault.below [part.1])) part.2) :
    Pinpointed points (parts.flatMap fun part => part.2.map (Fault.below [part.1])) := by
  have hmem {property : Fault → Prop}
      (h : ∀ part ∈ parts, ∀ fault ∈ part.2, property (fault.below [part.1])) :
      ∀ fault ∈ parts.flatMap fun part => part.2.map (Fault.below [part.1]), property fault := by
    intro fault hfault
    obtain ⟨part, hpart, hbelow⟩ := List.mem_flatMap.mp hfault
    obtain ⟨inner, hinner, rfl⟩ := List.mem_map.mp hbelow
    exact h part hpart inner hinner
  have hlocations (part : Step × List Fault) :
      (part.2.map (Fault.below [part.1])).map Fault.location =
        (part.2.map Fault.location).map (part.1 :: ·) := by
    rw [List.map_map, List.map_map]
    rfl
  refine ⟨?_, ?_, ?_⟩
  · rw [List.map_flatMap, List.nodup_flatMap]
    simp only [hlocations]
    constructor
    · intro part hpart
      exact (each part hpart).distinct.map List.cons_injective
    · refine (List.pairwise_map.mp steps).imp ?_
      intro part other hne location hpart hother
      obtain ⟨inner, -, rfl⟩ := List.mem_map.mp hpart
      obtain ⟨inner', -, heq⟩ := List.mem_map.mp hother
      exact hne (List.cons.inj heq).1.symm
  · apply hmem
    intro part hpart fault hfault
    exact List.forall_mem_cons.mpr ⟨plain part hpart, (each part hpart).plain fault hfault⟩
  · apply hmem
    intro part hpart
    exact (each part hpart).points

theorem object (fields : Fields Json) (named : List (String × List Fault))
    (known : (named.map Prod.fst).Sublist documentNames)
    (each : ∀ part ∈ named, Pinpointed (Fault.PointsInto (fields.get? part.1)) part.2) :
    Pinpointed (Fault.Points (.object fields))
      (named.flatMap fun part => Fault.under part.1 part.2) := by
  have hparts : Pinpointed (Fault.Points (.object fields))
      ((named.map fun part => (Step.field part.1, part.2)).flatMap fun part =>
        part.2.map (Fault.below [part.1])) := by
    apply parts
    · have hsteps := (known.nodup nodup_documentNames).map fun _ _ => Step.field.inj
      rw [List.map_map] at hsteps ⊢
      exact hsteps
    · rw [List.forall_mem_map]
      intro part hpart
      exact plain_of_mem_documentNames _ (known.subset (List.mem_map_of_mem hpart))
    · rw [List.forall_mem_map]
      intro part hpart
      exact (each part hpart).imp fun _ => Fault.PointsInto.below_field
  rwa [List.flatMap_map] at hparts

theorem field {fields : Fields Json} {name : String} (known : name ∈ documentNames)
    (h : Pinpointed (Fault.PointsInto (fields.get? name)) faults) :
    Pinpointed (Fault.Points (.object fields)) (Fault.under name faults) := by
  have hobject := object fields [(name, faults)] (List.singleton_sublist.mpr known)
    (List.forall_mem_singleton.mpr h)
  rwa [List.flatMap_singleton] at hobject

theorem three {fields : Fields Json} {a b c : String} {first second third : List Fault}
    (known : [a, b, c].Sublist documentNames)
    (hfirst : Pinpointed (Fault.PointsInto (fields.get? a)) first)
    (hsecond : Pinpointed (Fault.PointsInto (fields.get? b)) second)
    (hthird : Pinpointed (Fault.PointsInto (fields.get? c)) third) :
    Pinpointed (Fault.Points (.object fields))
      (Fault.under a first ++ (Fault.under b second ++ Fault.under c third)) := by
  have hobject := object fields [(a, first), (b, second), (c, third)] known ?_
  · simpa only [List.flatMap_cons, List.flatMap_nil, List.append_nil] using hobject
  · rw [List.forall_mem_cons, List.forall_mem_cons, List.forall_mem_singleton]
    exact ⟨hfirst, hsecond, hthird⟩

theorem array (items : List Json) (faultsOf : Json × Nat → List Fault)
    (each : ∀ item index, items[index]? = some item →
      Pinpointed (Fault.Points item) (faultsOf (item, index))) :
    Pinpointed (Fault.Points (.array items))
      (items.zipIdx.flatMap fun entry => (faultsOf entry).map (Fault.below [.item entry.2])) := by
  have hparts : Pinpointed (Fault.Points (.array items))
      ((items.zipIdx.map fun entry => (Step.item entry.2, faultsOf entry)).flatMap fun part =>
        part.2.map (Fault.below [part.1])) := by
    apply parts
    · have hindices : (items.zipIdx.map Prod.snd).Nodup := by
        rw [List.zipIdx_map_snd]
        exact List.nodup_range'
      have hsteps := hindices.map fun _ _ => Step.item.inj
      rw [List.map_map] at hsteps ⊢
      exact hsteps
    · rw [List.forall_mem_map]
      exact fun _ _ => trivial
    · rw [List.forall_mem_map]
      rintro ⟨item, index⟩ hentry
      have hitem := List.mem_zipIdx_iff_getElem?.mp hentry
      exact (each item index hitem).imp fun _ => Fault.Points.below_item hitem
  rwa [List.flatMap_map] at hparts

end Pinpointed

/-! ## Parts with a text -/

theorem pinpointed_checkName (value : Option Json) :
    Pinpointed (Fault.PointsInto value) (checkName [] value).faults := by
  unfold checkName
  split
  · exact .absent (Or.inl rfl) rfl
  · exact .absent (Or.inr rfl) rfl
  · split
    · exact .inside (.present rfl)
    · exact .nil
  · exact .inside (.present rfl)

theorem pinpointed_checkNote (value : Option Json) :
    Pinpointed (Fault.PointsInto value) (checkNote [] value).faults := by
  unfold checkNote
  split
  · exact .nil
  · exact .nil
  · exact .nil
  · exact .inside (.present rfl)

/-! ## Conditions -/

namespace Condition

theorem pinpointed_checkPath {value : Option Json} (hvalue : value ≠ none) :
    Pinpointed (Fault.PointsInto value) (checkPath [] value).faults := by
  obtain ⟨value, rfl⟩ := Option.ne_none_iff_exists'.mp hvalue
  unfold checkPath
  split
  · split
    · exact .nil
    · exact .inside (.present rfl)
  · exact .inside (.present rfl)

theorem pinpointed_checkOperator (registry : Registry) (value : Option Json) :
    Pinpointed (Fault.PointsInto value) (checkOperator registry [] value).faults := by
  unfold checkOperator
  split
  · exact .absent (Or.inl rfl) rfl
  · exact .absent (Or.inr rfl) rfl
  · split
    · exact .nil
    · exact .inside (.present rfl)
  · exact .inside (.present rfl)

theorem pinpointed_checkOperand (operator : Checked String) (value : Option Json) :
    Pinpointed (Fault.PointsInto value) (checkOperand [] operator value).faults := by
  unfold checkOperand
  split
  · exact .nil
  · split
    · split
      · exact .absent (Or.inl rfl) rfl
      · exact .nil
    · exact .nil

theorem pinpointed_checkField (registry : Registry) {fields : Fields Json}
    (hpath : fields.get? "field" ≠ none) :
    Pinpointed (Fault.Points (.object fields)) (checkField registry [] fields).faults := by
  rw [faults_checkField]
  apply Pinpointed.three (by decide)
  · exact pinpointed_checkPath hpath
  · exact pinpointed_checkOperator registry _
  · exact pinpointed_checkOperand _ _

mutual

theorem pinpointed_check (registry : Registry) :
    ∀ document, Pinpointed (Fault.Points document) (check registry document).faults
  | .object fields => by
      have hgroup {name : String} {make : List Condition → Condition}
          (kind : (name, make) ∈ groups) :
          Pinpointed (Fault.Points (.object fields))
            ((checkGroup registry [] name fields).map make).faults := by
        obtain ⟨faults, hfaults, hpinpointed⟩ := pinpointed_checkGroup registry fields name
        rw [Checked.faults_map, hfaults]
        have hkinds : kinds ⊆ documentNames := by decide
        exact hpinpointed.field (hkinds (mem_kinds_of_mem_groups kind).1)
      rw [check, checkAt]
      split
      · next hkinds =>
        have only := (kindsOf_eq_singleton_iff (by decide)).mp hkinds
        exact pinpointed_checkField registry (only.get?_ne_none (by decide))
      · exact hgroup (by simp [groups])
      · exact hgroup (by simp [groups])
      · exact .present rfl
      · exact .present rfl
  | .null | .bool _ | .number _ | .string _ | .array _ => .present rfl

theorem pinpointed_checkGroup (registry : Registry) :
    ∀ (fields : List (String × Json)) (name : String), ∃ faults,
      (checkGroup registry [] name fields).faults = Fault.under name faults ∧
        Pinpointed (Fault.PointsInto (Fields.get? fields name)) faults
  | [], name => ⟨[], rfl, .nil⟩
  | (key, value) :: rest, name => by
      rw [checkGroup, Fields.get?_cons]
      split
      · refine ⟨(checkChildren registry [] value).faults, ?_, ?_⟩
        · rw [checkChildren_eq_below, Checked.faults_below, Fault.under, List.nil_append]
        · exact (pinpointed_checkChildren registry value).inside
      · exact pinpointed_checkGroup registry rest name

theorem pinpointed_checkChildren (registry : Registry) :
    ∀ value, Pinpointed (Fault.Points value) (checkChildren registry [] value).faults
  | .array items => by
      rw [checkChildren, faults_checkItems]
      apply Pinpointed.array items fun entry => (check registry entry.1).faults
      intro item index hitem
      exact pinpointed_checkItems registry items item (List.mem_of_getElem? hitem)
  | .null | .bool _ | .number _ | .string _ | .object _ => .present rfl

theorem pinpointed_checkItems (registry : Registry) :
    ∀ items : List Json, ∀ item ∈ items,
      Pinpointed (Fault.Points item) (check registry item).faults
  | [] => List.forall_mem_nil _
  | item :: rest => List.forall_mem_cons.mpr
      ⟨pinpointed_check registry item, pinpointed_checkItems registry rest⟩

end

end Condition

/-! ## Rules -/

namespace Rule

theorem pinpointed_checkWeight (value : Option Json) :
    Pinpointed (Fault.PointsInto value) (checkWeight [] value).faults := by
  unfold checkWeight
  split
  · exact .nil
  · exact .nil
  · split
    · exact .nil
    · exact .inside (.present rfl)
  · exact .inside (.present rfl)

/-- An id has one fault at most, since one that repeats another is not at fault itself. -/
theorem pinpointed_id (earlier : List Json) (value : Option Json) :
    Pinpointed (Fault.PointsInto value)
      ((checkName [] value).faults ++ repetition earlier value) := by
  by_cases hrepeats : ∃ id, value = some (.string id) ∧ Repeats earlier id
  · obtain ⟨id, rfl, hid⟩ := hrepeats
    have hname : checkName [] (some (.string id)) = .sound id := by
      simp [checkName, hid.1]
    rw [hname, repetition, if_pos hid]
    exact .inside (.present rfl)
  · have hnone : repetition earlier value = [] := by
      unfold repetition
      split
      · next id => exact if_neg fun hid => hrepeats ⟨id, rfl, hid⟩
      · rfl
    rw [hnone, List.append_nil]
    exact pinpointed_checkName value

theorem pinpointed_checkCondition (registry : Registry) (value : Option Json) :
    Pinpointed (Fault.PointsInto value) (checkCondition registry [] value).faults := by
  unfold checkCondition
  split
  · exact .absent (Or.inl rfl) rfl
  · exact .absent (Or.inr rfl) rfl
  · exact .inside (Condition.pinpointed_check registry _)

theorem pinpointed_consequenceFaults (value : Option Json) :
    Pinpointed (Fault.PointsInto value) (consequenceFaults value) := by
  unfold consequenceFaults
  split
  · exact .absent (Or.inl rfl) rfl
  · exact .absent (Or.inr rfl) rfl
  · rw [List.append_assoc]
    apply Pinpointed.inside
    apply Pinpointed.three (by decide)
    · exact pinpointed_checkName _
    · exact pinpointed_checkWeight _
    · exact pinpointed_checkNote _
  · exact .inside (.present rfl)

theorem pinpointed_faultsOf (registry : Registry) (earlier : List Json) (item : Json) :
    Pinpointed (Fault.Points item) (faultsOf registry earlier item) := by
  unfold faultsOf
  split
  · next fields =>
    have hid := pinpointed_id earlier (Fields.get? fields "id")
    have hif := pinpointed_checkCondition registry (Fields.get? fields "if")
    have hthen := pinpointed_consequenceFaults (Fields.get? fields "then")
    have hparts := Pinpointed.three (by decide) hid hif hthen
    simpa only [Fault.under, List.map_append, List.append_assoc] using hparts
  · exact .present rfl

end Rule

/-! ## Documents -/

namespace RuleSet

theorem pinpointed_checkVersion (value : Option Json) :
    Pinpointed (Fault.PointsInto value) (checkVersion [] value).faults := by
  unfold checkVersion
  split
  · exact .absent (Or.inl rfl) rfl
  · exact .absent (Or.inr rfl) rfl
  · split
    · exact .nil
    · exact .inside (.present rfl)
  · exact .nil
  · exact .inside (.present rfl)

def listFaults (registry : Registry) : Option Json → List Fault
  | none => [⟨[], .missing⟩]
  | some (.array items) =>
    items.zipIdx.flatMap fun (item, index) =>
      (Rule.faultsOf registry (items.take index) item).map (Fault.below [.item index])
  | some _ => [⟨[], .notArray⟩]

theorem faults_checkList (registry : Registry) (value : Option Json) :
    (checkList registry value).faults = Fault.under "rules" (listFaults registry value) := by
  cases value with
  | none => rfl
  | some value =>
      cases value with
      | array items =>
          have hitems := faults_checkRules registry [] items
          rw [List.filterMap_nil, List.length_nil, List.nil_append] at hitems
          rw [checkList, hitems, listFaults, Fault.under, List.map_flatMap]
          simp only [List.map_map]
          rfl
      | _ => rfl

theorem pinpointed_listFaults (registry : Registry) (value : Option Json) :
    Pinpointed (Fault.PointsInto value) (listFaults registry value) := by
  unfold listFaults
  split
  · exact .absent (Or.inl rfl) rfl
  · next items =>
    apply Pinpointed.inside
    apply Pinpointed.array items fun entry =>
      Rule.faultsOf registry (items.take entry.2) entry.1
    intro item index _
    exact Rule.pinpointed_faultsOf registry _ item
  · exact .inside (.present rfl)

theorem faults_check_object (registry : Registry) (fields : Fields Json) :
    (check registry (.object fields)).faults =
      Fault.under "version" (checkVersion [] (fields.get? "version")).faults ++
        Fault.under "rules" (listFaults registry (fields.get? "rules")) := by
  rw [check, Checked.faults_map, Checked.faults_both, faults_checkList, checkVersion_eq_below,
    Checked.faults_below]
  rfl

theorem pinpointed_check (registry : Registry) (document : Json) :
    Pinpointed (Fault.Points document) (check registry document).faults := by
  cases document with
  | object fields =>
      let version := (checkVersion [] (Fields.get? fields "version")).faults
      let rules := listFaults registry (Fields.get? fields "rules")
      have hknown : ["version", "rules"].Sublist documentNames := by decide
      have hparts := Pinpointed.object fields [("version", version), ("rules", rules)] hknown ?_
      · rw [faults_check_object]
        simpa only [List.flatMap_cons, List.flatMap_nil, List.append_nil] using hparts
      · rw [List.forall_mem_cons, List.forall_mem_singleton]
        exact ⟨pinpointed_checkVersion _, pinpointed_listFaults registry _⟩
  | _ => exact .present rfl

/-- Nothing in a document is called a condition instead of by its location. -/
theorem path_eq_text {registry : Registry} {document : Json} :
    ∀ fault ∈ (check registry document).faults, fault.path = fault.location.text := by
  intro fault hfault
  cases document with
  | object fields =>
      rw [faults_check_object] at hfault
      rcases List.mem_append.mp hfault with h | h
      · obtain ⟨part, -, rfl⟩ := List.mem_map.mp h
        rfl
      · obtain ⟨part, -, rfl⟩ := List.mem_map.mp h
        rfl
  | _ =>
      obtain rfl := List.mem_singleton.mp hfault
      rfl

end RuleSet

/-! ## What is shown -/

theorem head?_append {start : String} (hstart : start.toList ≠ []) (rest : String) :
    (start ++ rest).toList.head? = start.toList.head? := by
  rw [String.toList_append, List.head?_append_of_ne_nil _ hstart]

/-- Only what is missing is described by words that begin with an `i`. -/
theorem Cause.head?_message {cause : Cause} (h : cause.isAbsence = false) :
    cause.message.toList.head? ≠ some 'i' := by
  cases cause with
  | missing | missingOperand _ => cases h
  | duplicateId _ | weightOutOfRange _ | severalKinds _ | improperPath _ | unknownOperator _ _ =>
      unfold message
      simp only [String.append_assoc]
      rw [head?_append (by decide)]
      decide
  | _ => decide

namespace Complaint

def IsDemand (complaint : Complaint) : Prop :=
  "is required".toList <+: complaint.message.toList

theorem isDemand_ofFault_iff (fault : Fault) :
    (ofFault fault).IsDemand ↔ fault.cause.isAbsence = true := by
  obtain ⟨location, cause⟩ := fault
  constructor
  · intro hdemand
    by_contra hpresent
    apply Cause.head?_message (eq_false_of_ne_true hpresent)
    obtain ⟨rest, hrest⟩ := hdemand
    show (ofFault ⟨location, cause⟩).message.toList.head? = some 'i'
    rw [← hrest]
    rfl
  · intro habsence
    cases cause with
    | missing => exact List.prefix_refl _
    | missingOperand operator =>
        have hwords : "is required".toList <+: "is required for operator '".toList := by decide
        show _ <+: ("is required for operator '" ++ operator ++ "'").toList
        rw [String.append_assoc, String.toList_append]
        exact hwords.trans (List.prefix_append _ _)
    | _ => cases habsence

end Complaint

namespace RuleSet

def complaints (registry : Registry) (document : Json) : List Complaint :=
  (check registry document).faults.map Complaint.ofFault

theorem paths_complaints (registry : Registry) (document : Json) :
    (complaints registry document).map Complaint.path =
      ((check registry document).faults.map Fault.location).map Location.text := by
  rw [complaints, List.map_map, List.map_map]
  exact List.map_congr_left path_eq_text

/-- No two complaints have the same path.  Each path can be read, and what it leads to is a value of
the document, or a name that one of its objects lacks if something is required there. -/
theorem complaints_pinpoint (registry : Registry) (document : Json) :
    ((complaints registry document).map Complaint.path).Nodup ∧
      ∀ complaint ∈ complaints registry document,
        ∃ location, Location.ofText? complaint.path = some location ∧
          (complaint.IsDemand → Location.Lacking document location) ∧
          (¬ complaint.IsDemand → ∃ value, Location.find? location document = some value) := by
  have h := pinpointed_check registry document
  constructor
  · rw [paths_complaints]
    apply h.distinct.map_on
    rw [List.forall_mem_map]
    intro a ha
    rw [List.forall_mem_map]
    intro b hb
    exact Location.eq_of_text_eq (h.plain a ha) (h.plain b hb)
  · intro complaint hcomplaint
    obtain ⟨fault, hfault, rfl⟩ := List.mem_map.mp hcomplaint
    have hread : Location.ofText? (Complaint.ofFault fault).path = some fault.location := by
      rw [Complaint.ofFault, path_eq_text fault hfault]
      exact Location.ofText?_text (h.plain fault hfault)
    rw [Complaint.isDemand_ofFault_iff]
    refine ⟨fault.location, hread, (h.points fault hfault).lacking, ?_⟩
    intro hpresent
    exact (h.points fault hfault).found (eq_false_of_ne_true hpresent)

end RuleSet
end Verdict
