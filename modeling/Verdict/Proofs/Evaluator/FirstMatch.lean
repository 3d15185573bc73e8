import Verdict.Evaluator.Rules
import Verdict.Proofs.Condition.Stateless
import Verdict.Proofs.Rule.Grammar

/-!
# The first match

With a stateless collaborator every rule is tried as if it were the only one
(`RuleEvaluator.firstMatch_eq_find?`).  A rule of a validated set is always able to propose
something (`RuleEvaluator.propose_of_admissible`), so a match is never lost.
-/

namespace Verdict

def Rule.proposal (name : String) (rule : Rule) : Evaluation :=
  { decision := rule.decision
    weight := rule.weight
    reason := rule.reason
    source := name
    ruleId := some rule.id }

theorem Rule.Admissible.make_eq {rule : Rule} (admissible : rule.Admissible) (name : String) :
    Evaluation.make rule.decision rule.weight rule.reason name =
      .ok ⟨rule.decision, rule.weight, rule.reason, name, none⟩ := by
  have hdecision : rule.decision.isEmpty = false := by
    simpa using admissible.decision
  have hfinite : rule.weight.isFinite = true := admissible.isFinite_weight
  simp [Evaluation.make, hdecision, hfinite, admissible.weight.1, admissible.weight.2]

namespace RuleEvaluator

theorem propose_of_admissible
    {rule : Rule} (admissible : rule.Admissible) (name : String) :
    propose name rule = some (rule.proposal name) := by
  rw [propose, admissible.make_eq]
  rfl

theorem mem_of_firstMatch {interpreter : Interpreter} {context : Context} {rules : List Rule}
    {calls : List Call} {rule : Rule}
    (found : (firstMatch interpreter context rules calls).1 = some rule) : rule ∈ rules := by
  induction rules generalizing calls with
  | nil => cases found
  | cons first rest ih =>
      rw [firstMatch] at found
      split at found
      · cases found
        exact List.mem_cons_self
      · exact List.mem_cons_of_mem first (ih found)

/-- If every rule is able to make its proposal, a match is never lost. -/
theorem evaluate_eq_firstMatch
    {evaluator : RuleEvaluator}
    (admissible : ∀ rule ∈ evaluator.ruleSet.rules, rule.Admissible)
    (context : Context) (calls : List Call) :
    (evaluator.evaluate context calls).1 =
      (firstMatch evaluator.interpreter context evaluator.ruleSet.rules calls).1.map
        (Rule.proposal evaluator.name) := by
  have hevaluate : (evaluator.evaluate context calls).1 =
      (firstMatch evaluator.interpreter context evaluator.ruleSet.rules calls).1.bind
        (propose evaluator.name) := rfl
  rw [hevaluate]
  cases hfound : (firstMatch evaluator.interpreter context evaluator.ruleSet.rules calls).1 with
  | none => rfl
  | some rule =>
      have hmem : rule ∈ evaluator.ruleSet.rules := mem_of_firstMatch hfound
      exact propose_of_admissible (admissible rule hmem) evaluator.name

/-- No rule sees what an earlier one has fetched: the search is the search for the first rule that
holds on its own. -/
theorem firstMatch_eq_find?
    {interpreter : Interpreter} (stateless : interpreter.Stateless)
    (context : Context) (rules : List Rule) (calls : List Call) :
    (firstMatch interpreter context rules calls).1 =
      rules.find? fun rule => interpreter.holds rule.condition context := by
  induction rules generalizing calls with
  | nil => rfl
  | cons rule rest ih =>
      have hanswer := Interpreter.evaluate_fst_eq_holds stateless rule.condition context calls
      rw [firstMatch, List.find?_cons, ← hanswer]
      rcases interpreter.evaluate rule.condition ⟨context, calls⟩ with ⟨_ | _, scope⟩
      · exact ih scope.calls
      · rfl

theorem evaluate_eq_find?
    {evaluator : RuleEvaluator} (validated : evaluator.ruleSet.Validated)
    (stateless : evaluator.interpreter.Stateless) (context : Context) (calls : List Call) :
    (evaluator.evaluate context calls).1 =
      (evaluator.ruleSet.rules.find? fun rule =>
        evaluator.interpreter.holds rule.condition context).map (Rule.proposal evaluator.name) := by
  rw [evaluate_eq_firstMatch validated.admissible, firstMatch_eq_find? stateless]

/-- The first match wins.  There is an evaluation exactly if the condition of some rule holds on its
own in the context; it is the proposal of the first such rule; and every rule is able to make its
proposal. -/
theorem evaluate_first_match
    (evaluator : RuleEvaluator) (context : Context) (calls : List Call)
    (validated : evaluator.ruleSet.Validated) (stateless : evaluator.interpreter.Stateless) :
    ((evaluator.evaluate context calls).1.isSome ↔
        ∃ rule ∈ evaluator.ruleSet.rules,
          evaluator.interpreter.holds rule.condition context = true) ∧
      (∀ evaluation : Evaluation,
        (evaluator.evaluate context calls).1 = some evaluation ↔
          ∃ (index : Nat) (bound : index < evaluator.ruleSet.rules.length),
            evaluator.interpreter.holds evaluator.ruleSet.rules[index].condition context = true ∧
            (∀ (earlier : Nat) (before : earlier < index),
              evaluator.interpreter.holds evaluator.ruleSet.rules[earlier].condition context =
                false) ∧
            evaluation = evaluator.ruleSet.rules[index].proposal evaluator.name) ∧
      (∀ rule ∈ evaluator.ruleSet.rules,
        propose evaluator.name rule = some (rule.proposal evaluator.name)) := by
  rw [evaluate_eq_find? validated stateless]
  refine ⟨?_, ?_, ?_⟩
  · rw [Option.isSome_map, List.find?_isSome]
  · intro evaluation
    rw [Option.map_eq_some_iff]
    constructor
    · rintro ⟨rule, hfound, rfl⟩
      obtain ⟨hholds, index, bound, rfl, hearlier⟩ := List.find?_eq_some_iff_getElem.mp hfound
      refine ⟨index, bound, hholds, ?_, rfl⟩
      intro earlier before
      simpa using hearlier earlier before
    · rintro ⟨index, bound, hholds, hearlier, rfl⟩
      refine ⟨_, List.find?_eq_some_iff_getElem.mpr ⟨hholds, index, bound, rfl, ?_⟩, rfl⟩
      intro earlier before
      simpa using hearlier earlier before
  · intro rule hrule
    exact propose_of_admissible (validated.admissible rule hrule) evaluator.name

/-- The first of these rules fetches a score and then misses a grade, the second would match if it
saw the score, and the third always matches. -/
def sampleRules : RuleSet :=
  ⟨"1", [
    ⟨"grade", .all [
      .field ⟨"applicant", "fetch_from_api", .object [("endpoint", .string "bureau"),
        ("mapping", .object [("score", .string "bureau.score")])]⟩,
      .field ⟨"bureau.grade", "present", .null⟩], "approve", 1, none⟩,
    ⟨"score", .field ⟨"bureau.score", "present", .null⟩, "reject", 1, none⟩,
    ⟨"rest", .all [], "review", 0.5, some "no other rule"⟩]⟩

def sample : RuleEvaluator :=
  { name := "scoring"
    ruleSet := sampleRules
    interpreter :=
      { registry := .builtin
        collaborator := some (Responses.empty.withResponse "bureau"
          (.object [("score", .ofInt 700)])).collaborator
        now := ⟨0, 0⟩ } }

theorem evaluate_first_match_sample :
    sample.ruleSet.Validated ∧ sample.interpreter.Stateless ∧
      (sample.evaluate .empty []).1 =
        some ⟨"review", 0.5, some "no other rule", "scoring", some "rest"⟩ := by
  have validated : sample.ruleSet.Validated := ⟨.builtin, sampleRules.toJson, rfl⟩
  have stateless : sample.interpreter.Stateless := by
    rintro collaborator ⟨⟩
    exact Responses.stateless _
  have hfirst := (evaluate_first_match sample .empty [] validated stateless).2.1
  exact ⟨validated, stateless, (hfirst _).mpr ⟨2, by decide, rfl, by decide, rfl⟩⟩

end RuleEvaluator
end Verdict
