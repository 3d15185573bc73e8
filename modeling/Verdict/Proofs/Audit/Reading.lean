import Verdict.Audit.Record
import Verdict.Proofs.Json.Canonical
import Verdict.Proofs.Time.Spelling

/-!
# Records are read as they are written

A record that holds finite numbers and a valid instant is read from its document
(`AuditRecord.ofJson?_toJson`), up to what is `null`: none is written as `null`, so a `null` is
taken for none when it is read.
-/

namespace Verdict

namespace Json

/-- A value that may be missing, a `null` being taken for none. -/
def nonNull (value : Option Json) : Option Json :=
  value.filter fun value => !value.isNull

theorem nonNull_eq_self_iff {value : Option Json} :
    nonNull value = value ↔ value ≠ some null := by
  cases value with
  | none => simp [nonNull]
  | some value => cases value <;> simp [nonNull, isNull]

theorem optional?_ofOption (value : Option Json) :
    optional? some (some (ofOption value)) = some (nonNull value) := by
  rcases value with _ | (_ | _ | _ | _ | _ | _) <;> rfl

theorem optional?_ofOption_string (text : Option String) :
    optional? string? (some (ofOption (text.map string))) = some text := by
  cases text <;> rfl

theorem float?_ofFloat {value : Float} (h : value.isFinite = true) :
    (ofFloat value).float? = some value := by
  rw [ofFloat_of_isFinite h]
  rfl

theorem list?_map {α : Type} {read : Json → Option α} {write : α → Json} {settle : α → α}
    {items : List α} (h : ∀ item ∈ items, read (write item) = some (settle item)) :
    list? read (.array (items.map write)) = some (items.map settle) := by
  change (items.map write).mapM read = _
  induction items with
  | nil => rfl
  | cons item rest ih =>
      obtain ⟨hfirst, hrest⟩ := List.forall_mem_cons.mp h
      simp only [List.map_cons, List.mapM_cons, hfirst, ih hrest, bind, Option.bind, pure]

theorem list?_map_self {α : Type} {read : Json → Option α} {write : α → Json} {items : List α}
    (h : ∀ item ∈ items, read (write item) = some item) :
    list? read (.array (items.map write)) = some items := by
  rw [list?_map h, List.map_id']

end Json

/-! ## Decisions -/

theorem Evaluation.ofJson?_toJson {evaluation : Evaluation}
    (finite : evaluation.weight.isFinite = true) :
    ofJson? evaluation.toJson = some evaluation := by
  obtain ⟨decision, weight, reason, source, ruleId⟩ := evaluation
  have hweight : (Json.ofFloat weight).float? = some weight := Json.float?_ofFloat finite
  cases reason <;> cases ruleId <;>
    simp [ofJson?, toJson, Layout.read, Layout.readFields, Fields.get?_cons, hweight,
      Json.optional?, Json.string?]

structure Decision.Finite (decision : Decision) : Prop where
  confidence : decision.confidence.isFinite = true
  weights : ∀ evaluation ∈ decision.evaluations, evaluation.weight.isFinite = true

theorem Decision.ofJson?_toJson {decision : Decision} (finite : decision.Finite) :
    ofJson? decision.toJson = some decision := by
  obtain ⟨decision, confidence, explanations, evaluations⟩ := decision
  obtain ⟨hconfidence, hweights⟩ := finite
  have hread : (Json.ofFloat confidence).float? = some confidence :=
    Json.float?_ofFloat hconfidence
  have hexplanations : Json.list? Json.string? (.array (explanations.map .string)) =
      some explanations := Json.list?_map_self fun _ _ => rfl
  have hevaluations : Json.list? Evaluation.ofJson?
      (.array (evaluations.map Evaluation.toJson)) = some evaluations :=
    Json.list?_map_self fun evaluation hmem => Evaluation.ofJson?_toJson (hweights evaluation hmem)
  simp [ofJson?, toJson, Layout.read, Layout.readFields, Fields.get?_cons, hread, hexplanations,
    hevaluations, Json.string?]

/-! ## Traces -/

namespace ConditionTrace

def withoutNull (trace : ConditionTrace) : ConditionTrace :=
  { trace with actual := Json.nonNull trace.actual }

theorem ofJson?_toJson (trace : ConditionTrace) :
    ofJson? trace.toJson = some trace.withoutNull := by
  obtain ⟨path, operator, expected, actual, result, description⟩ := trace
  have hactual := Json.optional?_ofOption actual
  simp [ofJson?, toJson, Layout.read, Layout.readFields, Fields.get?_cons, hactual, Json.string?,
    Json.bool?, withoutNull]

theorem withoutNull_eq_self_iff {trace : ConditionTrace} :
    trace.withoutNull = trace ↔ trace.actual ≠ some .null := by
  rw [← Json.nonNull_eq_self_iff]
  obtain ⟨path, operator, expected, actual, result, description⟩ := trace
  simp [withoutNull]

end ConditionTrace

namespace RuleTrace

def withoutNulls (trace : RuleTrace) : RuleTrace :=
  { trace with conditions := trace.conditions.map ConditionTrace.withoutNull }

theorem ofJson?_toJson {trace : RuleTrace} (finite : trace.weight.isFinite = true) :
    ofJson? trace.toJson = some trace.withoutNulls := by
  obtain ⟨ruleId, matched, conditions, decision, weight, reason⟩ := trace
  have hweight : (Json.ofFloat weight).float? = some weight := Json.float?_ofFloat finite
  have hconditions : Json.list? ConditionTrace.ofJson?
      (.array (conditions.map ConditionTrace.toJson)) =
        some (conditions.map ConditionTrace.withoutNull) :=
    Json.list?_map fun condition _ => condition.ofJson?_toJson
  have hreason := Json.optional?_ofOption_string reason
  simp [ofJson?, toJson, Layout.read, Layout.readFields, Fields.get?_cons, hweight, hconditions,
    hreason, Json.string?, Json.bool?, withoutNulls]

theorem withoutNulls_eq_self_iff {trace : RuleTrace} :
    trace.withoutNulls = trace ↔
      ∀ condition ∈ trace.conditions, condition.actual ≠ some .null := by
  simp only [← ConditionTrace.withoutNull_eq_self_iff, ← map_eq_self_iff]
  obtain ⟨ruleId, matched, conditions, decision, weight, reason⟩ := trace
  simp [withoutNulls]

end RuleTrace

/-! ## Records -/

namespace AuditRecord

def withoutNulls (record : AuditRecord) : AuditRecord :=
  { record with
    traces := record.traces.map RuleTrace.withoutNulls
    feedback := Json.nonNull record.feedback }

/-- The numbers in a record are finite, and its instant is one that can be written. -/
structure Writable (record : AuditRecord) : Prop where
  decision : record.decision.Finite
  weights : ∀ trace ∈ record.traces, trace.weight.isFinite = true
  recordedAt : record.recordedAt.Valid

/-- A record comes back from its document, up to what is `null`. -/
theorem ofJson?_toJson {record : AuditRecord} (writable : record.Writable) :
    ofJson? record.toJson = some record.withoutNulls := by
  obtain ⟨decision, traces, feedback, recordedAt⟩ := record
  obtain ⟨hfinite, hweights, hvalid⟩ := writable
  have hdecision := Decision.ofJson?_toJson hfinite
  have htraces : Json.list? RuleTrace.ofJson? (.array (traces.map RuleTrace.toJson)) =
      some (traces.map RuleTrace.withoutNulls) :=
    Json.list?_map fun trace hmem => RuleTrace.ofJson?_toJson (hweights trace hmem)
  have hfeedback := Json.optional?_ofOption feedback
  have hinstant : Instant.ofRelaxedText? recordedAt.text = some recordedAt :=
    Instant.ofRelaxedText?_text hvalid
  simp [ofJson?, toJson, Layout.read, Layout.readFields, Fields.get?_cons, hdecision, htraces,
    hfeedback, hinstant, Json.string?, withoutNulls]

theorem withoutNulls_eq_self_iff {record : AuditRecord} :
    record.withoutNulls = record ↔ record.feedback ≠ some .null ∧
      ∀ trace ∈ record.traces, ∀ condition ∈ trace.conditions, condition.actual ≠ some .null := by
  simp only [← RuleTrace.withoutNulls_eq_self_iff, ← map_eq_self_iff]
  rw [← Json.nonNull_eq_self_iff]
  obtain ⟨decision, traces, feedback, recordedAt⟩ := record
  simp [withoutNulls, and_comm]

end AuditRecord
end Verdict
