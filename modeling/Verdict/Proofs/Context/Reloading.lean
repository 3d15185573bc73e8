import Verdict.Context
import Verdict.Proofs.Json.Canonical
import Mathlib.Algebra.Order.BigOperators.Group.List
import Mathlib.Algebra.Order.Group.Nat

/-!
# Contexts that are written and read again

A context is read through the normalisation of its names, which takes one colon off.  Names that are
all names again after normalisation cannot have lost a colon: the longest of those that lose one
would have to come from a longer one (`not_symbolic_of_closed`).
-/

namespace Verdict

/-! ## Names -/

/-- A colon with something behind it. -/
def Symbolic (name : String) : Prop :=
  ∃ c rest, name.toList = ':' :: c :: rest

def DoublySymbolic (name : String) : Prop :=
  ∃ c rest, name.toList = ':' :: ':' :: c :: rest

theorem normalName_of_toList {name : String} {c : Char} {rest : List Char}
    (h : name.toList = ':' :: c :: rest) : normalName name = String.ofList (c :: rest) := by
  rw [normalName, h]
  rfl

theorem normalName_of_not_symbolic {name : String} (h : ¬ Symbolic name) :
    normalName name = name := by
  unfold normalName
  split
  · next c rest hname => exact absurd ⟨c, rest, hname⟩ h
  · rfl

theorem length_normalName {name : String} (h : Symbolic name) :
    name.length = (normalName name).length + 1 := by
  obtain ⟨c, rest, hname⟩ := h
  rw [normalName_of_toList hname, String.length_ofList, ← String.length_toList, hname]
  rfl

theorem normalName_eq_self_iff {name : String} : normalName name = name ↔ ¬ Symbolic name := by
  constructor
  · intro hself hsymbolic
    have hlength := length_normalName hsymbolic
    rw [hself] at hlength
    omega
  · exact normalName_of_not_symbolic

theorem symbolic_normalName_iff {name : String} :
    Symbolic (normalName name) ↔ DoublySymbolic name := by
  by_cases hname : Symbolic name
  · obtain ⟨c, rest, hname⟩ := hname
    rw [normalName_of_toList hname, Symbolic, DoublySymbolic, String.toList_ofList, hname]
    simp
  · rw [normalName_of_not_symbolic hname]
    refine iff_of_false hname ?_
    rintro ⟨c, rest, hcolons⟩
    exact hname ⟨':', c :: rest, hcolons⟩

theorem not_symbolic_of_closed {names : List String}
    (closed : ∀ name ∈ names, ∃ source ∈ names, normalName source = name) :
    ∀ name ∈ names, ¬ Symbolic name := by
  intro name hmem hsymbolic
  have hlonger : ∀ length : Nat, ∃ other ∈ names, Symbolic other ∧ length ≤ other.length := by
    intro length
    induction length with
    | zero => exact ⟨name, hmem, hsymbolic, Nat.zero_le _⟩
    | succ length ih =>
        obtain ⟨other, hother, hcolon, hlength⟩ := ih
        obtain ⟨source, hsource, rfl⟩ := closed other hother
        have hsourceColon : Symbolic source := by
          by_contra hnone
          rw [normalName_of_not_symbolic hnone] at hcolon
          exact hnone hcolon
        have hstep := length_normalName hsourceColon
        exact ⟨source, hsource, hsourceColon, by omega⟩
  obtain ⟨other, hother, -, hlength⟩ := hlonger ((names.map String.length).sum + 1)
  have hbound : other.length ≤ (names.map String.length).sum :=
    List.le_sum_of_mem (List.mem_map_of_mem hother)
  omega

namespace Json

/-! ## Names within a value -/

mutual

def allNames : Json → List String
  | object fields => allNamesOfFields fields
  | array items => allNamesOfItems items
  | _ => []

def allNamesOfItems : List Json → List String
  | [] => []
  | item :: rest => allNames item ++ allNamesOfItems rest

def allNamesOfFields : List (String × Json) → List String
  | [] => []
  | (name, value) :: rest => name :: (allNames value ++ allNamesOfFields rest)

end

theorem mem_allNames_array {items : List Json} {name : String} :
    name ∈ (array items).allNames ↔ ∃ item ∈ items, name ∈ item.allNames := by
  rw [allNames]
  induction items with
  | nil => simp [allNamesOfItems]
  | cons item rest ih => simp [allNamesOfItems, ih]

theorem mem_allNames_object {fields : List (String × Json)} {name : String} :
    name ∈ (object fields).allNames ↔
      ∃ field ∈ fields, name = field.1 ∨ name ∈ field.2.allNames := by
  rw [allNames]
  induction fields with
  | nil => simp [allNamesOfFields]
  | cons field rest ih => simp [allNamesOfFields, ih, or_assoc]

theorem allNames_of_simple {value : Json} (harray : value.array? = none)
    (hobject : value.object? = none) : value.allNames = [] := by
  cases value with
  | array items => cases harray
  | object fields => cases hobject
  | _ => rfl

/-! ## Normalisation, part by part -/

theorem normalizedItems_eq_map (items : List Json) :
    normalizedItems items = items.map normalized := by
  induction items with
  | nil => rfl
  | cons item rest ih => rw [normalizedItems, ih, List.map_cons]

theorem normalizedFields_eq_map (fields : List (String × Json)) :
    normalizedFields fields =
      fields.map fun field => (normalName field.1, field.2.normalized) := by
  induction fields with
  | nil => rfl
  | cons field rest ih => rw [normalizedFields, ih, List.map_cons]

theorem normalized_array (items : List Json) :
    (array items).normalized = array (items.map normalized) := by
  rw [normalized, normalizedItems_eq_map]

theorem normalized_object (fields : List (String × Json)) :
    (object fields).normalized =
      object (Fields.ofList
        (fields.map fun field => (normalName field.1, field.2.normalized))) := by
  rw [normalized, normalizedFields_eq_map]

theorem normalized_of_simple {value : Json} (harray : value.array? = none)
    (hobject : value.object? = none) : value.normalized = value := by
  cases value with
  | array items => cases harray
  | object fields => cases hobject
  | _ => rfl

theorem canonical_normalized (value : Json) (canonical : value.Canonical) :
    value.normalized.Canonical := by
  induction value using induction_on_parts with
  | simple value harray hobject =>
      rw [normalized_of_simple harray hobject]
      exact canonical
  | array items ih =>
      rw [normalized_array, Canonical, canonicalItems_iff]
      intro item hitem
      obtain ⟨source, hsource, rfl⟩ := List.mem_map.mp hitem
      exact ih source hsource (canonical.item hsource)
  | object fields ih =>
      rw [Canonical, canonicalFields_iff] at canonical
      rw [normalized_object, Canonical, canonicalFields_iff]
      refine ⟨Fields.sorted_ofList _, ?_⟩
      intro field hfield
      obtain ⟨source, hsource, rfl⟩ := List.mem_map.mp (Fields.mem_of_mem_ofList hfield)
      exact ih source hsource (canonical.2 source hsource)

theorem exists_source_of_mem_allNames (value : Json) {name : String}
    (member : name ∈ value.normalized.allNames) :
    ∃ source ∈ value.allNames, normalName source = name := by
  induction value using induction_on_parts with
  | simple value harray hobject =>
      rw [normalized_of_simple harray hobject, allNames_of_simple harray hobject] at member
      cases member
  | array items ih =>
      rw [normalized_array, mem_allNames_array] at member
      obtain ⟨item, hitem, hname⟩ := member
      obtain ⟨part, hpart, rfl⟩ := List.mem_map.mp hitem
      obtain ⟨source, hsource, hnormal⟩ := ih part hpart hname
      exact ⟨source, mem_allNames_array.mpr ⟨part, hpart, hsource⟩, hnormal⟩
  | object fields ih =>
      rw [normalized_object, mem_allNames_object] at member
      obtain ⟨field, hfield, hname⟩ := member
      obtain ⟨part, hpart, rfl⟩ := List.mem_map.mp (Fields.mem_of_mem_ofList hfield)
      rcases hname with rfl | hname
      · exact ⟨part.1, mem_allNames_object.mpr ⟨part, hpart, Or.inl rfl⟩, rfl⟩
      · obtain ⟨source, hsource, hnormal⟩ := ih part hpart hname
        exact ⟨source, mem_allNames_object.mpr ⟨part, hpart, Or.inr hsource⟩, hnormal⟩

theorem equalItems_map_iff {f : Json → Json} {items : List Json} :
    equalItems (items.map f) items = true ↔ ∀ item ∈ items, (f item).equal item = true := by
  induction items with
  | nil => simp [equalItems]
  | cons item rest ih => simp [equalItems, ih]

theorem equalFields_map_iff {f : String × Json → String × Json} {fields : List (String × Json)} :
    equalFields (fields.map f) fields = true ↔
      ∀ field ∈ fields, (f field).1 = field.1 ∧ (f field).2.equal field.2 = true := by
  induction fields with
  | nil => simp [equalFields]
  | cons field rest ih => simp [equalFields, ih]

theorem names_eq_of_equalFields {fields others : List (String × Json)}
    (h : equalFields fields others = true) : Fields.names fields = Fields.names others := by
  induction fields generalizing others with
  | nil =>
      cases others with
      | nil => rfl
      | cons other rest => simp [equalFields] at h
  | cons field rest ih =>
      cases others with
      | nil => simp [equalFields] at h
      | cons other others =>
          simp only [equalFields, Bool.and_eq_true, beq_iff_eq] at h
          have hrest : Fields.names rest = Fields.names others := ih h.2
          rw [Fields.names] at hrest ⊢
          rw [List.map_cons, hrest, h.1.1]
          rfl

theorem ofList_normalized {fields : Fields Json} (sorted : Fields.Sorted fields)
    (plain : ∀ field ∈ fields, ¬ Symbolic field.1) :
    Fields.ofList (fields.map fun field => (normalName field.1, field.2.normalized)) =
      fields.map fun field => (field.1, field.2.normalized) := by
  have hnames : (fields.map fun field => (normalName field.1, field.2.normalized)) =
      fields.map fun field => (field.1, field.2.normalized) := by
    refine List.map_congr_left ?_
    intro field hfield
    rw [normalName_of_not_symbolic (plain field hfield)]
  have hsorted : Fields.Sorted (fields.map fun field => (field.1, field.2.normalized)) := by
    rw [Fields.Sorted, List.pairwise_map]
    exact sorted
  rw [hnames, Fields.ofList_of_sorted hsorted]

theorem normalized_of_not_symbolic (value : Json) (canonical : value.Canonical)
    (plain : ∀ name ∈ value.allNames, ¬ Symbolic name) : value.normalized = value := by
  induction value using induction_on_parts with
  | simple value harray hobject => exact normalized_of_simple harray hobject
  | array items ih =>
      have hitems : items.map normalized = items := by
        refine map_eq_self_iff.mpr ?_
        intro item hitem
        refine ih item hitem (canonical.item hitem) ?_
        intro name hname
        exact plain name (mem_allNames_array.mpr ⟨item, hitem, hname⟩)
      rw [normalized_array, hitems]
  | object fields ih =>
      rw [Canonical, canonicalFields_iff] at canonical
      have hnames : ∀ field ∈ fields, ¬ Symbolic field.1 := by
        intro field hfield
        exact plain _ (mem_allNames_object.mpr ⟨field, hfield, Or.inl rfl⟩)
      have hfields : (fields.map fun field => (field.1, field.2.normalized)) = fields := by
        refine map_eq_self_iff.mpr ?_
        intro field hfield
        have hvalue : field.2.normalized = field.2 := by
          refine ih field hfield (canonical.2 field hfield) ?_
          intro name hname
          exact plain name (mem_allNames_object.mpr ⟨field, hfield, Or.inr hname⟩)
        rw [hvalue]
      rw [normalized_object, ofList_normalized canonical.1 hnames, hfields]

theorem not_symbolic_of_equal (value : Json) (canonical : value.Canonical)
    (h : value.normalized.equal value = true) : ∀ name ∈ value.allNames, ¬ Symbolic name := by
  induction value using induction_on_parts with
  | simple value harray hobject =>
      rw [allNames_of_simple harray hobject]
      exact List.forall_mem_nil _
  | array items ih =>
      rw [normalized_array, equal, equalItems_map_iff] at h
      intro name hname
      obtain ⟨item, hitem, hname⟩ := mem_allNames_array.mp hname
      exact ih item hitem (canonical.item hitem) (h item hitem) name hname
  | object fields ih =>
      rw [Canonical, canonicalFields_iff] at canonical
      rw [normalized_object, equal] at h
      have hclosed : ∀ name ∈ Fields.names fields,
          ∃ source ∈ Fields.names fields, normalName source = name := by
        intro name hname
        rw [← names_eq_of_equalFields h, Fields.mem_names_ofList_iff, List.map_map] at hname
        obtain ⟨field, hfield, hnormal⟩ := List.mem_map.mp hname
        exact ⟨field.1, List.mem_map_of_mem hfield, hnormal⟩
      have hnames : ∀ field ∈ fields, ¬ Symbolic field.1 := by
        intro field hfield
        exact not_symbolic_of_closed hclosed field.1 (List.mem_map_of_mem hfield)
      rw [ofList_normalized canonical.1 hnames, equalFields_map_iff] at h
      intro name hname
      obtain ⟨field, hfield, hname⟩ := mem_allNames_object.mp hname
      rcases hname with rfl | hname
      · exact hnames field hfield
      · exact ih field hfield (canonical.2 field hfield) (h field hfield).2 name hname

end Json

namespace Context

/-- The context that is read from what a context is written as. -/
def reload (context : Context) : Option Context :=
  ofJson? context.toJson.rebuild

/-- A context is built of a value in one of the ways there are. -/
inductive Built : Json → Context → Prop where
  | ofObject {fields : Fields Json} (canonical : (Json.object fields).Canonical) :
      Built (.object fields) (ofObject fields)
  | ofJson {value : Json} (canonical : value.Canonical) : Built value (ofJson value)
  | ofPairs {pairs : List (String × Json)} (canonical : ∀ pair ∈ pairs, pair.2.Canonical) :
      Built (.object pairs) (ofPairs pairs)
  | ofJson? {value : Json} {context : Context} (canonical : value.Canonical)
      (read : ofJson? value = some context) : Built value context

theorem toJson_ofObject (fields : Fields Json) :
    (ofObject fields).toJson = (Json.object fields).normalized := by
  rw [Json.normalized]
  rfl

structure Normalizes (source : Json) (context : Context) : Prop where
  canonical : context.toJson.Canonical
  names : ∀ name ∈ context.toJson.allNames, ∃ original ∈ source.allNames,
    normalName original = name

theorem normalizes_ofObject {fields : Fields Json} (canonical : (Json.object fields).Canonical) :
    Normalizes (.object fields) (ofObject fields) where
  canonical := by
    rw [toJson_ofObject]
    exact Json.canonical_normalized _ canonical
  names := by
    intro name hname
    rw [toJson_ofObject] at hname
    exact Json.exists_source_of_mem_allNames _ hname

theorem normalizes_empty (source : Json) : Normalizes source empty where
  canonical := Json.canonical_object [] rfl List.Pairwise.nil trivial
  names := List.forall_mem_nil _

theorem Built.normalizes {source : Json} {context : Context} (built : Built source context) :
    Normalizes source context := by
  cases built with
  | ofObject canonical => exact normalizes_ofObject canonical
  | ofJson canonical =>
      cases source with
      | object fields => exact normalizes_ofObject canonical
      | _ => exact normalizes_empty _
  | ofJson? canonical read =>
      cases source with
      | object fields =>
          cases read
          exact normalizes_ofObject canonical
      | _ => cases read
  | ofPairs canonical =>
      rename_i pairs
      have hcollected : (Json.object (Fields.ofList pairs)).Canonical := by
        rw [Json.Canonical, Json.canonicalFields_iff]
        refine ⟨Fields.sorted_ofList pairs, ?_⟩
        intro field hfield
        exact canonical field (Fields.mem_of_mem_ofList hfield)
      have h := normalizes_ofObject hcollected
      refine ⟨h.canonical, ?_⟩
      intro name hname
      obtain ⟨original, horiginal, hnormal⟩ := h.names name hname
      obtain ⟨field, hfield, hpart⟩ := Json.mem_allNames_object.mp horiginal
      exact ⟨original, Json.mem_allNames_object.mpr ⟨field, Fields.mem_of_mem_ofList hfield, hpart⟩,
        hnormal⟩

theorem reload_eq {context : Context} (canonical : context.toJson.Canonical) :
    ∃ reloaded, context.reload = some reloaded ∧
      reloaded.toJson = context.toJson.normalized := by
  refine ⟨ofObject context.fields, ?_, toJson_ofObject context.fields⟩
  rw [reload, Json.rebuild_of_canonical canonical]
  rfl

/-- A context comes back from what it is written as if and only if no name in it, however deep, is a
colon with something behind it.  Only names with two colons in front leave such a name. -/
theorem reload_returns_iff
    (source : Json) (context : Context) (built : Built source context) :
    ∃ reloaded, context.reload = some reloaded ∧
      (reloaded = context ↔ ∀ name ∈ context.toJson.allNames, ¬ Symbolic name) ∧
      (reloaded.toJson.equal context.toJson = true ↔
        ∀ name ∈ context.toJson.allNames, ¬ Symbolic name) ∧
      ((∀ name ∈ source.allNames, ¬ DoublySymbolic name) → reloaded = context) ∧
      (∀ name, normalName (normalName name) = normalName name ↔ ¬ DoublySymbolic name) := by
  obtain ⟨canonical, hnames⟩ := built.normalizes
  obtain ⟨reloaded, hreload, hnormalized⟩ := reload_eq canonical
  have hequal : reloaded.toJson.equal context.toJson = true →
      ∀ name ∈ context.toJson.allNames, ¬ Symbolic name := by
    intro h
    rw [hnormalized] at h
    exact Json.not_symbolic_of_equal _ canonical h
  have hsame : (∀ name ∈ context.toJson.allNames, ¬ Symbolic name) → reloaded = context := by
    intro plain
    have hjson : reloaded.toJson = context.toJson := by
      rw [hnormalized, Json.normalized_of_not_symbolic _ canonical plain]
    injection hjson with hfields
    exact congrArg Context.mk hfields
  have hself : reloaded = context → reloaded.toJson.equal context.toJson = true := by
    intro heq
    rw [heq]
    exact Json.equal_self_of_canonical canonical
  refine ⟨reloaded, hreload, ⟨fun heq => hequal (hself heq), hsame⟩,
    ⟨hequal, fun plain => hself (hsame plain)⟩, ?_, ?_⟩
  · intro single
    refine hsame ?_
    intro name hname
    obtain ⟨original, horiginal, rfl⟩ := hnames name hname
    rw [symbolic_normalName_iff]
    exact single original horiginal
  · intro name
    rw [normalName_eq_self_iff, symbolic_normalName_iff]

def symbolicSource : Json :=
  .object [(":applicant", .object [(":", .bool true), (":age", .ofInt 30), ("age", .ofInt 31)]),
    ("tags", .array [.object [("::", .null)]])]

theorem reload_returns_iff_symbolicSource :
    Built symbolicSource (ofJson symbolicSource) ∧
      (∀ name ∈ symbolicSource.allNames, ¬ DoublySymbolic name) ∧
      (ofJson symbolicSource).toJson =
        .object [("applicant", .object [(":", .bool true), ("age", .ofInt 31)]),
          ("tags", .array [.object [(":", .null)]])] ∧
      (ofJson symbolicSource).reload = some (ofJson symbolicSource) := by
  have canonical : symbolicSource.Canonical := by
    simp only [symbolicSource, Json.Canonical, Json.CanonicalFields, Json.CanonicalItems,
      Fields.Sorted, Json.ofInt, Number.Representable, Number.minInt, Number.maxInt]
    decide
  have single : ∀ name ∈ symbolicSource.allNames, ¬ DoublySymbolic name := by
    have hnames : symbolicSource.allNames = [":applicant", ":", ":age", "age", "tags", "::"] := rfl
    rw [hnames]
    rintro name hname ⟨c, rest, hcolons⟩
    simp only [List.mem_cons, List.not_mem_nil, or_false] at hname
    rcases hname with rfl | rfl | rfl | rfl | rfl | rfl <;> simp at hcolons
  have built : Built symbolicSource (ofJson symbolicSource) := .ofJson canonical
  obtain ⟨reloaded, hreload, -, -, hsame, -⟩ :=
    reload_returns_iff symbolicSource (ofJson symbolicSource) built
  exact ⟨built, single, rfl, by rw [hreload, hsame single]⟩

/-- One of two colons is lost when the context is built, and the other one when it is read again. -/
theorem reload_loses_second_colon :
    Built (.object [("::age", .ofInt 30)]) ⟨[(":age", .ofInt 30)]⟩ ∧
      ∃ reloaded, (⟨[(":age", .ofInt 30)]⟩ : Context).reload = some reloaded ∧
        reloaded.toJson = .object [("age", .ofInt 30)] ∧
        reloaded.toJson.equal (.object [(":age", .ofInt 30)]) = false := by
  have canonical : (Json.object [("::age", .ofInt 30)]).Canonical := by
    simp only [Json.Canonical, Json.CanonicalFields, Fields.Sorted, Json.ofInt,
      Number.Representable, Number.minInt, Number.maxInt]
    decide
  exact ⟨.ofObject canonical, _, rfl, rfl, by decide⟩

end Context
end Verdict
