import Verdict.Json.Value
import Mathlib.Data.List.Induction
import Mathlib.Tactic.Common

/-!
# Canonical values

The values that documents hold are canonical.  Building such a value anew gives the value itself
(`Json.rebuild_of_canonical`), and it is equal to itself (`Json.equal_self_of_canonical`).
-/

namespace Verdict

theorem map_eq_self_iff {α : Type} {f : α → α} {items : List α} :
    items.map f = items ↔ ∀ item ∈ items, f item = item := by
  have h := List.map_eq_map_iff (l := items) (f := f) (g := id)
  rwa [List.map_id] at h

namespace Fields

variable {α : Type}

theorem insert_of_forall_lt {fields : Fields α} {name : String} {value : α}
    (h : ∀ entry ∈ fields, entry.1 < name) :
    fields.insert name value = fields ++ [(name, value)] := by
  induction fields with
  | nil => rfl
  | cons entry rest ih =>
      obtain ⟨key, old⟩ := entry
      obtain ⟨hkey, hrest⟩ := List.forall_mem_cons.mp h
      have hne : name ≠ key := fun heq => String.lt_irrefl key (heq ▸ hkey)
      have hnlt : ¬ name < key := fun hlt => String.lt_irrefl key (String.lt_trans hkey hlt)
      rw [insert, if_neg hne, if_neg hnlt, ih hrest, List.cons_append]

theorem foldl_insert_of_sorted {pairs : List (String × α)} {fields : Fields α}
    (h : Sorted (fields ++ pairs)) :
    pairs.foldl (fun fields pair => fields.insert pair.1 pair.2) fields = fields ++ pairs := by
  induction pairs generalizing fields with
  | nil => rw [List.foldl_nil, List.append_nil]
  | cons pair rest ih =>
      have hlast : ∀ entry ∈ fields, entry.1 < pair.1 := fun entry hentry =>
        (List.pairwise_append.mp h).2.2 entry hentry pair List.mem_cons_self
      have hmove : fields ++ pair :: rest = fields ++ [(pair.1, pair.2)] ++ rest := by simp
      rw [hmove] at h
      rw [List.foldl_cons, insert_of_forall_lt hlast, ih h, hmove]

theorem ofList_of_sorted {pairs : List (String × α)} (h : Sorted pairs) : ofList pairs = pairs :=
  @foldl_insert_of_sorted α pairs [] h

theorem mem_of_get? {fields : Fields α} {name : String} {value : α}
    (h : fields.get? name = some value) : (name, value) ∈ fields := by
  induction fields with
  | nil => cases h
  | cons entry rest ih =>
      obtain ⟨key, found⟩ := entry
      rw [get?_cons] at h
      split at h
      · next heq =>
        cases h
        rw [heq]
        exact List.mem_cons_self
      · exact List.mem_cons_of_mem _ (ih h)

theorem mem_of_mem_insert {fields : Fields α} {name : String} {value : α} {entry : String × α}
    (h : entry ∈ fields.insert name value) : entry = (name, value) ∨ entry ∈ fields := by
  induction fields with
  | nil => exact Or.inl (List.mem_singleton.mp h)
  | cons first rest ih =>
      obtain ⟨key, old⟩ := first
      unfold insert at h
      split at h
      · rcases List.mem_cons.mp h with heq | hrest
        · exact Or.inl heq
        · exact Or.inr (List.mem_cons_of_mem _ hrest)
      · split at h
        · exact List.mem_cons.mp h
        · rcases List.mem_cons.mp h with heq | hrest
          · exact Or.inr (List.mem_cons.mpr (Or.inl heq))
          · exact (ih hrest).imp_right (List.mem_cons_of_mem _)

theorem ofList_append_singleton (pairs : List (String × α)) (pair : String × α) :
    ofList (pairs ++ [pair]) = (ofList pairs).insert pair.1 pair.2 := by
  rw [ofList, List.foldl_append, List.foldl_cons, List.foldl_nil, ← ofList]

theorem mem_of_mem_ofList {pairs : List (String × α)} {entry : String × α}
    (h : entry ∈ ofList pairs) : entry ∈ pairs := by
  induction pairs using List.reverseRecOn with
  | nil => cases h
  | append_singleton earlier pair ih =>
      rw [ofList_append_singleton] at h
      rcases mem_of_mem_insert h with rfl | hearlier
      · exact List.mem_append_right _ List.mem_cons_self
      · exact List.mem_append_left _ (ih hearlier)

theorem mem_names_ofList_iff {pairs : List (String × α)} {name : String} :
    name ∈ names (ofList pairs) ↔ name ∈ pairs.map Prod.fst := by
  induction pairs using List.reverseRecOn with
  | nil => exact Iff.rfl
  | append_singleton earlier pair ih =>
      rw [ofList_append_singleton, mem_names_insert, ih, List.map_append, List.mem_append,
        List.map_singleton, List.mem_singleton]
      exact or_comm

end Fields

/-! ## Numbers -/

theorem beq_self_of_isFinite {x : Float} (h : x.isFinite = true) : (x == x) = true := by
  change x.toModel.unpack.isFinite = true at h
  change (x.toModel.unpack.compare x.toModel.unpack == some .eq) = true
  cases hx : x.toModel.unpack with
  | notANumber =>
      rw [hx] at h
      cases h
  | infinity sign =>
      rw [hx] at h
      cases h
  | zero sign => rfl
  | finite sign significand exponent hpos =>
      have hparts : (compare exponent exponent).then (compare significand significand) = .eq := by
        rw [Std.compare_self, Std.compare_self]
        rfl
      cases sign with
      | positive =>
          change (some ((compare exponent exponent).then (compare significand significand)) ==
            some .eq) = true
          rw [hparts]
          rfl
      | negative =>
          change (some ((compare exponent exponent).then (compare significand significand)).swap ==
            some .eq) = true
          rw [hparts]
          rfl

theorem Number.equal_self {number : Number} (h : number.Representable) :
    number.equal number = true := by
  cases number with
  | int value => exact beq_self_eq_true value
  | float value => exact beq_self_of_isFinite h

namespace Json

/-! ## Parts -/

mutual

/-- What holds of values without parts, and of arrays and objects if it holds of their parts, holds
of every value. -/
theorem induction_on_parts {motive : Json → Prop}
    (simple : ∀ value : Json, value.array? = none → value.object? = none → motive value)
    (array : ∀ items : List Json, (∀ item ∈ items, motive item) → motive (array items))
    (object : ∀ fields : List (String × Json), (∀ field ∈ fields, motive field.2) →
      motive (object fields)) :
    ∀ value, motive value
  | .null | .bool _ | .number _ | .string _ => simple _ rfl rfl
  | .array items => array items (induction_on_parts_items simple array object items)
  | .object fields => object fields (induction_on_parts_fields simple array object fields)

theorem induction_on_parts_items {motive : Json → Prop}
    (simple : ∀ value : Json, value.array? = none → value.object? = none → motive value)
    (array : ∀ items : List Json, (∀ item ∈ items, motive item) → motive (array items))
    (object : ∀ fields : List (String × Json), (∀ field ∈ fields, motive field.2) →
      motive (object fields)) :
    ∀ items : List Json, ∀ item ∈ items, motive item
  | [] => List.forall_mem_nil _
  | item :: rest => List.forall_mem_cons.mpr
      ⟨induction_on_parts simple array object item,
        induction_on_parts_items simple array object rest⟩

theorem induction_on_parts_fields {motive : Json → Prop}
    (simple : ∀ value : Json, value.array? = none → value.object? = none → motive value)
    (array : ∀ items : List Json, (∀ item ∈ items, motive item) → motive (array items))
    (object : ∀ fields : List (String × Json), (∀ field ∈ fields, motive field.2) →
      motive (object fields)) :
    ∀ fields : List (String × Json), ∀ field ∈ fields, motive field.2
  | [] => List.forall_mem_nil _
  | (_, value) :: rest => List.forall_mem_cons.mpr
      ⟨induction_on_parts simple array object value,
        induction_on_parts_fields simple array object rest⟩

end

theorem canonicalItems_iff {items : List Json} :
    CanonicalItems items ↔ ∀ item ∈ items, item.Canonical := by
  induction items with
  | nil => simp [CanonicalItems]
  | cons item rest ih => rw [CanonicalItems, ih, List.forall_mem_cons]

theorem canonicalFields_iff {fields : List (String × Json)} :
    CanonicalFields fields ↔ ∀ field ∈ fields, field.2.Canonical := by
  induction fields with
  | nil => simp [CanonicalFields]
  | cons field rest ih => rw [CanonicalFields, ih, List.forall_mem_cons]

theorem canonical_object {fields : List (String × Json)} (names : List String)
    (hnames : Fields.names fields = names) (inOrder : names.Pairwise (· < ·))
    (each : CanonicalFields fields) : (object fields).Canonical := by
  rw [← hnames] at inOrder
  rw [Canonical]
  exact ⟨List.pairwise_map.mp inOrder, each⟩

theorem Canonical.field? {value part : Json} {name : String} (h : value.Canonical)
    (found : value.field? name = some part) : part.Canonical := by
  cases value with
  | object fields =>
      rw [Canonical] at h
      exact canonicalFields_iff.mp h.2 _ (Fields.mem_of_get? found)
  | _ => cases found

theorem Canonical.item {items : List Json} {item : Json} (h : (array items).Canonical)
    (hitem : item ∈ items) : item.Canonical := by
  rw [Canonical] at h
  exact canonicalItems_iff.mp h item hitem

theorem ofFloat_of_isFinite {x : Float} (h : x.isFinite = true) : ofFloat x = number (.float x) :=
  if_pos h

theorem canonical_ofFloat (x : Float) : (ofFloat x).Canonical := by
  rw [ofFloat]
  split
  · assumption
  · trivial

/-! ## Building anew -/

mutual

theorem rebuild_of_canonical : ∀ {value : Json}, value.Canonical → value.rebuild = value
  | null, _ | bool _, _ | string _, _ => rfl
  | number (.int _), _ => rfl
  | number (.float _), h => ofFloat_of_isFinite h
  | array items, h => by
      rw [Canonical] at h
      rw [rebuild, rebuildItems_of_canonical h]
  | object fields, h => by
      rw [Canonical] at h
      rw [rebuild, rebuildFields_of_canonical h.2, ofFields, Fields.ofList_of_sorted h.1]

theorem rebuildItems_of_canonical :
    ∀ {items : List Json}, CanonicalItems items → rebuildItems items = items
  | [], _ => rfl
  | item :: rest, h => by
      rw [CanonicalItems] at h
      rw [rebuildItems, rebuild_of_canonical h.1, rebuildItems_of_canonical h.2]

theorem rebuildFields_of_canonical :
    ∀ {fields : List (String × Json)}, CanonicalFields fields → rebuildFields fields = fields
  | [], _ => rfl
  | (name, value) :: rest, h => by
      rw [CanonicalFields] at h
      rw [rebuildFields, rebuild_of_canonical h.1, rebuildFields_of_canonical h.2]

end

/-! ## Equality -/

mutual

/-- A canonical value is equal to itself. -/
theorem equal_self_of_canonical : ∀ {value : Json}, value.Canonical → value.equal value = true
  | null, _ => rfl
  | bool value, _ => beq_self_eq_true value
  | string value, _ => beq_self_eq_true value
  | number value, h => Number.equal_self h
  | array items, h => by
      rw [Canonical] at h
      rw [equal, equalItems_self_of_canonical h]
  | object fields, h => by
      rw [Canonical] at h
      rw [equal, equalFields_self_of_canonical h.2]

theorem equalItems_self_of_canonical :
    ∀ {items : List Json}, CanonicalItems items → equalItems items items = true
  | [], _ => rfl
  | item :: rest, h => by
      rw [CanonicalItems] at h
      rw [equalItems, equal_self_of_canonical h.1, equalItems_self_of_canonical h.2]
      rfl

theorem equalFields_self_of_canonical :
    ∀ {fields : List (String × Json)}, CanonicalFields fields → equalFields fields fields = true
  | [], _ => rfl
  | (name, value) :: rest, h => by
      rw [CanonicalFields] at h
      rw [equalFields, equal_self_of_canonical h.1, equalFields_self_of_canonical h.2]
      simp

end

end Json
end Verdict
