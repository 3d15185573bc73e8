import Verdict.Proofs.Condition.Replay
import Verdict.Proofs.Evaluator.Tracing
import Verdict.Proofs.Rule.Writing

/-!
# The check of a document is a gate

Evaluation has an answer for a leaf whose operator is not known and for a rule that cannot make a
valid evaluation.  A rule set that has passed the check never gets there, not even under another
registry that knows as many names.
-/

namespace Verdict

namespace RuleEvaluator

def visitsOf (interpreter : Interpreter) (context : Context) : List Rule → List Call → List Visit
  | [], _ => []
  | rule :: rest, calls =>
    interpreter.visits rule.condition ⟨context, calls⟩ ++
      match interpreter.evaluate rule.condition ⟨context, calls⟩ with
      | (true, _) => []
      | (false, scope) => visitsOf interpreter context rest scope.calls

/-- The leaves that are met while a context is evaluated. -/
def visits (evaluator : RuleEvaluator) (context : Context) (calls : List Call) : List Visit :=
  visitsOf evaluator.interpreter context evaluator.ruleSet.rules calls

theorem conditions_trials
    (interpreter : Interpreter) (context : Context) (rules : List Rule) (calls : List Call) :
    (trials interpreter context rules calls).flatMap RuleTrace.conditions =
      (visitsOf interpreter context rules calls).map interpreter.traceOf := by
  induction rules generalizing calls with
  | nil => rfl
  | cons rule rest ih =>
      rw [trials, visitsOf, Interpreter.evaluateTraced_eq, List.map_append]
      rcases interpreter.evaluate rule.condition ⟨context, calls⟩ with ⟨_ | _, scope⟩
      · have hrest := ih scope.calls
        simp only [traceOf, List.flatMap_cons, List.nil_append, hrest]
      · simp only [traceOf, List.flatMap_cons, List.flatMap_nil, List.nil_append, List.map_nil]

theorem exists_rule_of_mem_visitsOf
    {interpreter : Interpreter} {context : Context} {rules : List Rule} {calls : List Call}
    {visit : Visit} (met : visit ∈ visitsOf interpreter context rules calls) :
    ∃ rule ∈ rules, visit.leaf ∈ rule.condition.leaves := by
  induction rules generalizing calls with
  | nil => cases met
  | cons rule rest ih =>
      rw [visitsOf, List.mem_append] at met
      rcases met with hfirst | hrest
      · have hleaf : visit.leaf ∈
            (interpreter.visits rule.condition ⟨context, calls⟩).map Visit.leaf :=
          List.mem_map_of_mem hfirst
        have hsublist := Interpreter.visits_sublist_leaves interpreter rule.condition
          ⟨context, calls⟩
        exact ⟨rule, List.mem_cons_self, hsublist.subset hleaf⟩
      · split at hrest
        · cases hrest
        · obtain ⟨other, hother, hleaf⟩ := ih hrest
          exact ⟨other, List.mem_cons_of_mem rule hother, hleaf⟩

end RuleEvaluator

theorem Registry.contains_register {registry : Registry} {name : String}
    (known : registry.contains name = true) (other : String) (test : Test) :
    (registry.register other test).contains name = true := by
  show ((registry.register other test).get? name).isSome = true
  by_cases heq : name = other
  · rw [heq, get?_register_self]
    rfl
  · rw [get?_register_of_ne registry test heq]
    exact known

namespace RuleSet

theorem rule?_of_mem {ruleSet : RuleSet}
    (distinct : ruleSet.rules.Pairwise fun earlier later => earlier.id ≠ later.id)
    {rule : Rule} (hrule : rule ∈ ruleSet.rules) : ruleSet.rule? rule.id = some rule := by
  obtain ⟨before, after, hsplit⟩ := List.append_of_mem hrule
  rw [hsplit, List.pairwise_append] at distinct
  have hothers : ∀ other ∈ before, (other.id == rule.id) = false := by
    intro other hother
    have hne : other.id ≠ rule.id := distinct.2.2 other hother rule List.mem_cons_self
    simpa using hne
  have hbefore : before.find? (fun other => other.id == rule.id) = none := by
    rw [List.find?_eq_none]
    intro other hother
    simp [hothers other hother]
  rw [rule?, hsplit, List.find?_append, hbefore, Option.none_or]
  exact List.find?_cons_of_pos (beq_self_eq_true rule.id)

theorem known_of_check
    {registry : Registry} {document : Json} {ruleSet : RuleSet}
    (checked : check registry document = .sound ruleSet) {rule : Rule}
    (hrule : rule ∈ ruleSet.rules) {leaf : FieldCondition}
    (hleaf : leaf ∈ rule.condition.leaves) : registry.contains leaf.operator = true := by
  obtain ⟨hformed, hdenotes⟩ := check_eq_sound_iff.mp checked
  obtain ⟨hreadable, -⟩ := hformed.readable_of_denotes hdenotes
  exact ((hreadable.rules rule hrule).condition leaf hleaf).operator

end RuleSet

namespace RuleEvaluator

/-- A rule set that has passed the check is evaluated without gaps: every leaf that is met has an
operator, every rule makes a valid evaluation, and every rule is the one that is found under its id.
The evaluator may know more operators than the check did. -/
theorem check_guards_evaluation
    (evaluator : RuleEvaluator) (registry : Registry) (document : Json)
    (checked : RuleSet.check registry document = .sound evaluator.ruleSet)
    (knows : ∀ name, registry.contains name = true →
      evaluator.interpreter.registry.contains name = true)
    (context : Context) (calls : List Call) (traces : RuleTraces) :
    (∀ visit ∈ evaluator.visits context calls, ∃ operator,
        evaluator.interpreter.registry.get? visit.leaf.operator = some operator) ∧
      (∃ recorded, (evaluator.evaluateTraced context traces calls).2.1 = traces ++ recorded ∧
        recorded.flatMap RuleTrace.conditions =
          (evaluator.visits context calls).map evaluator.interpreter.traceOf) ∧
      (∀ rule ∈ evaluator.ruleSet.rules, ∃ evaluation,
        Evaluation.make rule.decision rule.weight rule.reason evaluator.name = .ok evaluation) ∧
      ((evaluator.evaluate context calls).1 =
        (firstMatch evaluator.interpreter context evaluator.ruleSet.rules calls).1.map
          (Rule.proposal evaluator.name)) ∧
      (evaluator.evaluateTraced context traces calls).1 = (evaluator.evaluate context calls).1 ∧
      ∀ rule ∈ evaluator.ruleSet.rules, evaluator.ruleSet.rule? rule.id = some rule := by
  have validated : evaluator.ruleSet.Validated := ⟨registry, document, checked⟩
  refine ⟨?_, ?_, ?_, ?_, ?_, ?_⟩
  · intro visit hmet
    obtain ⟨rule, hrule, hleaf⟩ := exists_rule_of_mem_visitsOf hmet
    have hknown := knows _ (RuleSet.known_of_check checked hrule hleaf)
    exact Option.isSome_iff_exists.mp hknown
  · rw [evaluateTraced_eq]
    exact ⟨_, rfl, conditions_trials _ _ _ _⟩
  · intro rule hrule
    exact ⟨_, (validated.admissible rule hrule).make_eq evaluator.name⟩
  · exact evaluate_eq_firstMatch validated.admissible context calls
  · rw [evaluateTraced_eq]
  · intro rule hrule
    obtain ⟨hformed, hdenotes⟩ := RuleSet.check_eq_sound_iff.mp checked
    obtain ⟨hreadable, -⟩ := hformed.readable_of_denotes hdenotes
    exact RuleSet.rule?_of_mem hreadable.ids hrule

def strictRegistry : Registry :=
  Registry.builtin.register "trusted" fun _ _ _ => true

def wideSample : RuleEvaluator :=
  { name := "access"
    ruleSet := ⟨"1.5", [
      ⟨"seen", .any [.field ⟨"user.email", "blank", .null⟩,
        .all [.field ⟨"score", "eq", .null⟩, .field ⟨"score", "present", .ofInt 1⟩]],
        "review", 1, none⟩,
      ⟨"trusted", .field ⟨"user.id", "trusted", .null⟩, "accept", 0.5, some "known"⟩]⟩
    interpreter :=
      { registry := (strictRegistry.register "trusted" fun actual _ _ => actual.isSome).register
          "barred" fun _ _ _ => false
        collaborator := none
        now := ⟨0, 0⟩ } }

theorem check_guards_evaluation_wideSample :
    RuleSet.check strictRegistry wideSample.ruleSet.toJson = .sound wideSample.ruleSet ∧
      (∀ name, strictRegistry.contains name = true →
        wideSample.interpreter.registry.contains name = true) ∧
      (wideSample.visits ⟨[("user", .object [("email", .string "a@b"), ("id", .ofInt 7)])]⟩ []).map
          (fun visit => visit.leaf.operator) = ["blank", "eq", "present", "trusted"] ∧
      (wideSample.evaluate
          ⟨[("user", .object [("email", .string "a@b"), ("id", .ofInt 7)])]⟩ []).1 =
        some ⟨"accept", 0.5, some "known", "access", some "trusted"⟩ ∧
      wideSample.ruleSet.rule? "trusted" = wideSample.ruleSet.rules[1]? := by
  have checked : RuleSet.check strictRegistry wideSample.ruleSet.toJson =
      .sound wideSample.ruleSet := rfl
  have knows : ∀ name, strictRegistry.contains name = true →
      wideSample.interpreter.registry.contains name = true := by
    intro name hname
    have htrusted := Registry.contains_register hname "trusted" fun actual _ _ => actual.isSome
    exact Registry.contains_register htrusted "barred" fun _ _ _ => false
  have hguards := check_guards_evaluation wideSample strictRegistry _ checked knows
    ⟨[("user", .object [("email", .string "a@b"), ("id", .ofInt 7)])]⟩ [] []
  refine ⟨checked, knows, rfl, ?_, ?_⟩
  · rw [hguards.2.2.2.1]
    rfl
  · exact hguards.2.2.2.2.2 _ (List.mem_cons_of_mem _ List.mem_cons_self)

end RuleEvaluator
end Verdict
