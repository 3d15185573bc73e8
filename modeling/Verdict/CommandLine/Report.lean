import Verdict.Decision.Basic
import Verdict.Rule.Trace

/-!
# Reports

A decision is reported as lines for a reader or as a document.
-/

namespace Verdict.Report

def leafLine (trace : ConditionTrace) : String :=
  "    " ++ (if trace.result then "+" else "-") ++ " " ++ trace.description ++ " (actual: " ++
    ((trace.actual.map Json.render).getD "missing") ++ ")\n"

def ruleLines (trace : RuleTrace) : String :=
  "  rule " ++ trace.ruleId ++ " (" ++ trace.decision ++ "): " ++
    (if trace.matched then "matched" else "no match") ++ "\n" ++
    String.join (trace.conditions.map leafLine)

def lines (decision : Decision) (traces : Option RuleTraces) : String :=
  "decision:   " ++ decision.decision ++ "\n" ++
    "confidence: " ++ Decimal.fixed 2 decision.confidence ++ "\n" ++
    "explanations:\n" ++
    String.join (decision.explanations.map fun line => "  - " ++ line ++ "\n") ++
    match traces with
    | none => ""
    | some traces => "traces:\n" ++ String.join (traces.map ruleLines)

/-- The document of a decision, its traces last. -/
def document (decision : Decision) (traces : Option RuleTraces) : Json :=
  match decision.toJson, traces with
  | .object fields, some traces =>
    .object (fields ++ [("traces", .array (traces.map RuleTrace.toJson))])
  | document, _ => document

end Verdict.Report
