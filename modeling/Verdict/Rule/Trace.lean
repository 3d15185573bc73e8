import Verdict.Condition.Trace

/-!
# Traces of rules

A trace records one rule that was tried, with the traces of the leaves that were evaluated for it.
-/

namespace Verdict

structure RuleTrace where
  ruleId : String
  matched : Bool
  conditions : List ConditionTrace
  decision : String
  weight : Float
  reason : Option String

def RuleTrace.toJson (trace : RuleTrace) : Json :=
  .object [("rule_id", .string trace.ruleId), ("matched", .bool trace.matched),
    ("condition_traces", .array (trace.conditions.map ConditionTrace.toJson)),
    ("decision", .string trace.decision), ("weight", .ofFloat trace.weight),
    ("reason", .ofOption (trace.reason.map .string))]

/-- The traces of one decision in the order in which the rules were tried. -/
abbrev RuleTraces := List RuleTrace

namespace RuleTraces

def matched (traces : RuleTraces) : RuleTraces :=
  traces.filter RuleTrace.matched

def ids (traces : RuleTraces) : List String :=
  traces.map RuleTrace.ruleId

end RuleTraces
end Verdict
