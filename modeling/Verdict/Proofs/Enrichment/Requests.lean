import Verdict.Enrichment.Request
import Verdict.Proofs.Condition.Grammar

/-!
# What requests ask for

Reading an operand, filling in parameters and taking values out of an answer succeed exactly when
`Request.DescribedBy`, `Template.Resolvable` and `Request.Maps` say so, and the last two are all or
nothing.
-/

namespace Verdict

theorem exists_forall₂_iff {α β : Type} {R : α → β → Prop} {sources : List α} :
    (∃ targets, List.Forall₂ R sources targets) ↔
      ∀ source ∈ sources, ∃ target, R source target := by
  constructor
  · rintro ⟨targets, htargets⟩ source hsource
    obtain ⟨target, -, htarget⟩ := exists_source_of_mem htargets.flip hsource
    exact ⟨target, htarget⟩
  · exact exists_forall₂

theorem mapM_eq_some_iff {α β : Type} {f : α → Option β} {sources : List α}
    {targets : List β} :
    sources.mapM f = some targets ↔
      List.Forall₂ (fun source target => f source = some target) sources targets := by
  induction sources generalizing targets with
  | nil => simp [eq_comm]
  | cons source rest ih =>
      rw [List.mapM_cons, Option.bind_eq_bind, Option.bind_eq_some_iff]
      constructor
      · rintro ⟨target, htarget, hrest⟩
        obtain ⟨others, hothers, hlist⟩ := Option.bind_eq_some_iff.mp hrest
        cases hlist
        exact .cons htarget (ih.mp hothers)
      · intro h
        cases h with
        | cons htarget hothers =>
            exact ⟨_, htarget, Option.bind_eq_some_iff.mpr ⟨_, ih.mpr hothers, rfl⟩⟩

theorem isSome_mapM_iff {α β : Type} {f : α → Option β} {sources : List α} :
    (sources.mapM f).isSome ↔ ∀ source ∈ sources, (f source).isSome := by
  simp only [Option.isSome_iff_exists, mapM_eq_some_iff, exists_forall₂_iff]

/-! ## References -/

namespace Template

/-- Every reference of a text leads to a value other than `null`. -/
def Resolvable (context : Context) (value : Json) : Prop :=
  ∀ text, value = .string text → ∀ path, .reference path ∈ parts text.toList →
    ∃ found, context.get? (String.ofList path) = some found ∧ found ≠ .null

theorem resolve_isSome_iff {context : Context} {path : List Char} :
    (resolve context path).isSome ↔
      ∃ found, context.get? (String.ofList path) = some found ∧ found ≠ .null := by
  rw [resolve, Option.isSome_filter, Option.any_eq_true]
  constructor
  · rintro ⟨found, hfound, hvalue⟩
    refine ⟨found, hfound, ?_⟩
    rintro rfl
    cases hvalue
  · rintro ⟨found, hfound, hvalue⟩
    refine ⟨found, hfound, ?_⟩
    cases found with
    | null => exact absurd rfl hvalue
    | _ => rfl

theorem fillParts_isSome_iff {context : Context} {parts : List Part} :
    (fillParts context parts).isSome ↔
      ∀ path, .reference path ∈ parts → (resolve context path).isSome := by
  induction parts with
  | nil => simp [fillParts]
  | cons part rest ih =>
      cases part with
      | plain text => simp [fillParts, ih]
      | reference path =>
          cases hfound : resolve context path with
          | none => simp [fillParts, hfound]
          | some value => simp [fillParts, hfound, ih]

theorem fill_isSome_iff {context : Context} {value : Json} :
    (fill context value).isSome ↔ Resolvable context value := by
  unfold Resolvable
  simp only [← resolve_isSome_iff]
  cases value with
  | string text =>
      have htext : (∀ other, Json.string text = .string other →
          ∀ path, .reference path ∈ parts other.toList → (resolve context path).isSome) ↔
          ∀ path, .reference path ∈ parts text.toList → (resolve context path).isSome := by
        simp
      rw [htext, fill]
      split
      · next path hparts => simp [hparts]
      · next pieces _ => rw [Option.isSome_map, fillParts_isSome_iff]
  | _ => simp [fill]

end Template

namespace Request

/-! ## Operands -/

/-- A part of an operand that may be missing, `null` or an object. -/
def OptionalFields (value : Option Json) (fields : Fields Json) : Prop :=
  (value = none ∨ value = some .null) ∧ fields = [] ∨ value = some (.object fields)

/-- The operand is an object that names an endpoint, and perhaps parameters and a mapping. -/
structure DescribedBy (request : Request) (operand : Json) : Prop where
  endpoint : operand.field? "endpoint" = some (.string request.endpoint)
  named : request.endpoint ≠ ""
  params : OptionalFields (operand.field? "params") request.params
  mapping : OptionalFields (operand.field? "mapping") request.mapping

theorem fieldsOrNone_eq_some_iff {value : Option Json} {fields : Fields Json} :
    fieldsOrNone value = some fields ↔ OptionalFields value fields := by
  unfold fieldsOrNone OptionalFields
  split
  · simp [eq_comm]
  · simp [eq_comm]
  · simp
  · next hnone hnull hobject => simp_all

theorem ofJson?_eq_some_iff {operand : Json} {request : Request} :
    ofJson? operand = some request ↔ request.DescribedBy operand := by
  constructor
  · intro h
    simp only [ofJson?, Option.bind_eq_bind, Option.bind_eq_some_iff, Option.pure_def,
      Option.filter_eq_some_iff, Option.some.injEq] at h
    obtain ⟨fields, hfields, endpoint, ⟨⟨document, hendpoint, htext⟩, hnamed⟩, params, hparams,
      mapping, hmapping, rfl⟩ := h
    cases operand with
    | object fields' =>
        cases hfields
        cases document with
        | string text =>
            cases htext
            exact ⟨hendpoint, by simpa using hnamed, fieldsOrNone_eq_some_iff.mp hparams,
              fieldsOrNone_eq_some_iff.mp hmapping⟩
        | _ => cases htext
    | _ => cases hfields
  · rintro ⟨hendpoint, hnamed, hparams, hmapping⟩
    cases operand with
    | object fields =>
        have hread : ((Fields.get? fields "endpoint").bind Json.string?).filter
            (fun name => !name.isEmpty) = some request.endpoint := by
          have hfound : Fields.get? fields "endpoint" = some (.string request.endpoint) := hendpoint
          rw [hfound]
          exact Option.filter_eq_some_iff.mpr ⟨rfl, by simpa using hnamed⟩
        have hparams := fieldsOrNone_eq_some_iff.mpr hparams
        have hmapping := fieldsOrNone_eq_some_iff.mpr hmapping
        simp only [Json.field?] at hparams hmapping
        simp [ofJson?, Json.object?, hread, hparams, hmapping]
    | _ => cases hendpoint

/-! ## Calls -/

/-- The call has the parameters of the request under their names, with their references filled
in. -/
structure Asks (request : Request) (context : Context) (call : Call) : Prop where
  endpoint : call.endpoint = request.endpoint
  params : List.Forall₂ (fun param filled =>
    filled.1 = param.1 ∧ Template.fill context param.2 = some filled.2) request.params call.params

theorem fillParams_eq_mapM (context : Context) (params : Fields Json) :
    fillParams context params =
      params.mapM fun param => (Template.fill context param.2).map (param.1, ·) := by
  induction params with
  | nil => rfl
  | cons param rest ih =>
      rw [List.mapM_cons, ← ih, fillParams]
      cases Template.fill context param.2 with
      | none => rfl
      | some value => cases fillParams context rest <;> rfl

theorem call?_eq_some_iff {request : Request} {context : Context} {call : Call} :
    request.call? context = some call ↔ request.Asks context call := by
  have hparam (param filled : String × Json) :
      (Template.fill context param.2).map (param.1, ·) = some filled ↔
        filled.1 = param.1 ∧ Template.fill context param.2 = some filled.2 := by
    rw [Option.map_eq_some_iff]
    constructor
    · rintro ⟨value, hvalue, rfl⟩
      exact ⟨rfl, hvalue⟩
    · rintro ⟨hname, hvalue⟩
      exact ⟨filled.2, hvalue, Prod.ext hname.symm rfl⟩
  rw [call?, Option.map_eq_some_iff, fillParams_eq_mapM]
  simp only [mapM_eq_some_iff, hparam]
  constructor
  · rintro ⟨params, hparams, rfl⟩
    exact ⟨rfl, hparams⟩
  · rintro ⟨hendpoint, hparams⟩
    refine ⟨call.params, hparams, ?_⟩
    rw [← hendpoint]

theorem isSome_call?_iff {request : Request} {context : Context} :
    (request.call? context).isSome ↔
      ∀ param ∈ request.params, Template.Resolvable context param.2 := by
  rw [call?, Option.isSome_map, fillParams_eq_mapM, isSome_mapM_iff]
  simp only [Option.isSome_map, Template.fill_isSome_iff]

/-! ## Answers -/

/-- An entry of a mapping has a value of the answer stored under a path. -/
structure Maps (response : Fields Json) (entry pair : String × Json) : Prop where
  target : entry.2 = .string pair.1
  named : pair.1 ≠ ""
  value : find? response entry.1 = some pair.2

theorem overlay?_eq_mapM (response mapping : Fields Json) :
    overlay? response mapping = mapping.mapM fun entry =>
      (entry.2.string?.filter fun target => !target.isEmpty).bind fun target =>
        (find? response entry.1).map (target, ·) := by
  induction mapping with
  | nil => rfl
  | cons entry rest ih =>
      rw [List.mapM_cons, ← ih, overlay?]
      cases entry.2.string?.filter fun target => !target.isEmpty with
      | none => rfl
      | some target =>
          cases find? response entry.1 with
          | none => rfl
          | some value => cases overlay? response rest <;> rfl

theorem overlay?_eq_some_iff {response mapping : Fields Json} {pairs : List (String × Json)} :
    overlay? response mapping = some pairs ↔ List.Forall₂ (Maps response) mapping pairs := by
  have hentry (entry pair : String × Json) :
      ((entry.2.string?.filter fun target => !target.isEmpty).bind fun target =>
        (find? response entry.1).map (target, ·)) = some pair ↔ Maps response entry pair := by
    rw [Option.bind_eq_some_iff]
    constructor
    · rintro ⟨target, htarget, hpair⟩
      obtain ⟨htext, hnamed⟩ := Option.filter_eq_some_iff.mp htarget
      obtain ⟨value, hvalue, rfl⟩ := Option.map_eq_some_iff.mp hpair
      refine ⟨?_, by simpa using hnamed, hvalue⟩
      cases hsource : entry.2 with
      | string text =>
          rw [hsource] at htext
          cases htext
          rfl
      | _ =>
          rw [hsource] at htext
          cases htext
    · rintro ⟨htarget, hnamed, hvalue⟩
      refine ⟨pair.1, Option.filter_eq_some_iff.mpr ⟨?_, by simpa using hnamed⟩, ?_⟩
      · rw [htarget]
        rfl
      · rw [hvalue]
        rfl
  rw [overlay?_eq_mapM, mapM_eq_some_iff]
  simp only [hentry]

theorem isSome_overlay?_iff {response mapping : Fields Json} :
    (overlay? response mapping).isSome ↔
      ∀ entry ∈ mapping, ∃ pair, Maps response entry pair := by
  simp only [Option.isSome_iff_exists, overlay?_eq_some_iff, exists_forall₂_iff]

end Request
end Verdict
