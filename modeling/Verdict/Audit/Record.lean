import Verdict.Rule.Trace
import Verdict.Decision.Basic
import Verdict.Time.Timestamp
import Verdict.Json.Record

/-!
# Audit records

A record holds one decision with the traces that led to it, the feedback of the caller and an
instant.  It is written as a document and read back from it.
-/

namespace Verdict

/-- Everything recorded about one decision. -/
structure AuditRecord where
  decision : Decision
  traces : RuleTraces
  feedback : Option Json
  recordedAt : Instant

def AuditRecord.toJson (record : AuditRecord) : Json :=
  .object [("decision", record.decision.toJson),
    ("traces", .array (record.traces.map RuleTrace.toJson)),
    ("feedback", .ofOption record.feedback), ("recorded_at", .string record.recordedAt.text)]

/-! ## Reading -/

/-- Reads an evaluation.  Decision and weight are not checked. -/
def Evaluation.ofJson? (document : Json) : Option Evaluation := do
  let layout : Layout := [("decision", .required), ("weight", .required), ("reason", .defaulted),
    ("source", .required), ("rule_id", .defaulted)]
  match ← layout.read document with
  | [some decision, some weight, reason, some source, ruleId] =>
    return ⟨← decision.string?, ← weight.float?, ← Json.optional? Json.string? reason,
      ← source.string?, ← Json.optional? Json.string? ruleId⟩
  | _ => none

def Decision.ofJson? (document : Json) : Option Decision := do
  let layout : Layout := [("decision", .required), ("confidence", .required),
    ("explanations", .required), ("evaluations", .required)]
  match ← layout.read document with
  | [some decision, some confidence, some explanations, some evaluations] =>
    return ⟨← decision.string?, ← confidence.float?, ← Json.list? Json.string? explanations,
      ← Json.list? Evaluation.ofJson? evaluations⟩
  | _ => none

/-- Reads the trace of a leaf.  A `null` as actual value is taken for none. -/
def ConditionTrace.ofJson? (document : Json) : Option ConditionTrace := do
  let layout : Layout := [("field", .required), ("operator", .required),
    ("expected_value", .required), ("actual_value", .optional), ("result", .required),
    ("description", .required)]
  match ← layout.read document with
  | [some path, some operator, some expected, actual, some result, some description] =>
    return ⟨← path.string?, ← operator.string?, expected, ← Json.optional? some actual,
      ← result.bool?, ← description.string?⟩
  | _ => none

def RuleTrace.ofJson? (document : Json) : Option RuleTrace := do
  let layout : Layout := [("rule_id", .required), ("matched", .required),
    ("condition_traces", .required), ("decision", .required), ("weight", .required),
    ("reason", .optional)]
  match ← layout.read document with
  | [some ruleId, some matched, some conditions, some decision, some weight, reason] =>
    return ⟨← ruleId.string?, ← matched.bool?, ← Json.list? ConditionTrace.ofJson? conditions,
      ← decision.string?, ← weight.float?, ← Json.optional? Json.string? reason⟩
  | _ => none

def AuditRecord.ofJson? (document : Json) : Option AuditRecord := do
  let layout : Layout := [("decision", .required), ("traces", .required),
    ("feedback", .optional), ("recorded_at", .required)]
  match ← layout.read document with
  | [some decision, some traces, feedback, some recordedAt] =>
    return ⟨← Decision.ofJson? decision, ← Json.list? RuleTrace.ofJson? traces,
      ← Json.optional? some feedback, ← recordedAt.string?.bind Instant.ofRelaxedText?⟩
  | _ => none

end Verdict
