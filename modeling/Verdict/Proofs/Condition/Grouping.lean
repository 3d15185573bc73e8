import Verdict.Proofs.Condition.Denotation
import Verdict.Proofs.Condition.Fetching

/-!
# Groups inside groups

A group runs its children in turn until one of them settles the answer.  Running one thing behind
another in this manner (`Run.andThen`) is associative, and a run that does not settle anything is
its unit, whatever the runs do to the scope and to the traces.  So regrouping makes no difference to
what evaluation does.
-/

namespace Verdict

/-- What evaluation with traces does to a scope and to the traces before: it answers, and leaves a
scope and traces behind. -/
abbrev Run := Scope → List ConditionTrace → Bool × Scope × List ConditionTrace

namespace Run

def answering (answer : Bool) : Run :=
  fun scope traces => (answer, scope, traces)

/-- One run and, unless its answer settles the matter, another one behind it.  The answer that
settles nothing is `goOn`. -/
def andThen (goOn : Bool) (first second : Run) : Run := fun scope traces =>
  match first scope traces with
  | (answer, scope, traces) =>
    if answer = goOn then second scope traces else (answer, scope, traces)

def inTurn (goOn : Bool) (runs : List Run) : Run :=
  runs.foldr (andThen goOn) (answering goOn)

theorem answering_andThen (goOn : Bool) (run : Run) : andThen goOn (answering goOn) run = run := by
  funext scope traces
  exact if_pos rfl

theorem andThen_answering (goOn : Bool) (run : Run) : andThen goOn run (answering goOn) = run := by
  funext scope traces
  rcases hrun : run scope traces with ⟨answer, after, recorded⟩
  by_cases hanswer : answer = goOn
  · simp only [andThen, answering, hrun, hanswer, if_true]
  · simp only [andThen, hrun, if_neg hanswer]

theorem andThen_assoc (goOn : Bool) (first second third : Run) :
    andThen goOn (andThen goOn first second) third =
      andThen goOn first (andThen goOn second third) := by
  funext scope traces
  rcases hfirst : first scope traces with ⟨answer, after, recorded⟩
  by_cases hanswer : answer = goOn
  · simp only [andThen, hfirst, if_pos hanswer]
  · simp only [andThen, hfirst, if_neg hanswer]

theorem inTurn_cons (goOn : Bool) (run : Run) (rest : List Run) :
    inTurn goOn (run :: rest) = andThen goOn run (inTurn goOn rest) :=
  rfl

theorem inTurn_append (goOn : Bool) (runs others : List Run) :
    inTurn goOn (runs ++ others) = andThen goOn (inTurn goOn runs) (inTurn goOn others) := by
  induction runs with
  | nil => exact (answering_andThen goOn _).symm
  | cons run rest ih =>
      rw [List.cons_append, inTurn_cons, inTurn_cons, ih, andThen_assoc]

theorem inTurn_singleton (goOn : Bool) (run : Run) : inTurn goOn [run] = run :=
  andThen_answering goOn run

/-- Runs in turn among other runs that go on with the same answer. -/
theorem inTurn_splice (goOn : Bool) (before inner after : List Run) :
    inTurn goOn (before ++ inTurn goOn inner :: after) =
      inTurn goOn (before ++ inner ++ after) := by
  have hinner : inTurn goOn (inTurn goOn inner :: after) = inTurn goOn (inner ++ after) :=
    (inTurn_append goOn inner after).symm
  rw [List.append_assoc, inTurn_append, inTurn_append, hinner]

end Run

namespace Condition

/-- A group inside a group of its own kind gives way to its children, or a group of one child gives
way to this child. -/
inductive Regrouping : Condition → Condition → Prop where
  | splice {name : String} {make : List Condition → Condition} (kind : (name, make) ∈ groups)
      (before inner after : List Condition) :
      Regrouping (make (before ++ make inner :: after)) (make (before ++ inner ++ after))
  | unwrap {name : String} {make : List Condition → Condition} (kind : (name, make) ∈ groups)
      (child : Condition) : Regrouping (make [child]) child

/-- Conditions that become the same by regrouping at any depth, any number of times and in either
direction. -/
def Regrouped : Condition → Condition → Prop :=
  Relation.EqvGen (Within Regrouping)

end Condition

namespace Interpreter

theorem evaluateAllTraced_eq_inTurn (interpreter : Interpreter) (children : List Condition) :
    interpreter.evaluateAllTraced children =
      Run.inTurn true (children.map interpreter.evaluateTraced) := by
  induction children with
  | nil => rfl
  | cons child rest ih =>
      funext scope traces
      rw [evaluateAllTraced, List.map_cons, Run.inTurn_cons, ← ih, Run.andThen]
      rcases interpreter.evaluateTraced child scope traces with ⟨_ | _, after, recorded⟩
      · rfl
      · rfl

theorem evaluateAnyTraced_eq_inTurn (interpreter : Interpreter) (children : List Condition) :
    interpreter.evaluateAnyTraced children =
      Run.inTurn false (children.map interpreter.evaluateTraced) := by
  induction children with
  | nil => rfl
  | cons child rest ih =>
      funext scope traces
      rw [evaluateAnyTraced, List.map_cons, Run.inTurn_cons, ← ih, Run.andThen]
      rcases interpreter.evaluateTraced child scope traces with ⟨_ | _, after, recorded⟩
      · rfl
      · rfl

theorem exists_inTurn {name : String} {make : List Condition → Condition}
    (kind : (name, make) ∈ Condition.groups) :
    ∃ goOn : Bool, ∀ (interpreter : Interpreter) (children : List Condition),
      interpreter.evaluateTraced (make children) =
        Run.inTurn goOn (children.map interpreter.evaluateTraced) := by
  rcases Condition.eq_of_mem_groups kind with ⟨-, rfl⟩ | ⟨-, rfl⟩
  · refine ⟨true, fun interpreter children => ?_⟩
    rw [← evaluateAllTraced_eq_inTurn]
    funext scope traces
    rw [evaluateTraced]
  · refine ⟨false, fun interpreter children => ?_⟩
    rw [← evaluateAnyTraced_eq_inTurn]
    funext scope traces
    rw [evaluateTraced]

/-- What is known of all runs is known of evaluation without traces. -/
theorem evaluate_congr {interpreter other : Interpreter} {a b : Condition}
    (same : interpreter.evaluateTraced a = other.evaluateTraced b) (scope : Scope) :
    interpreter.evaluate a scope = other.evaluate b scope := by
  have hrun : interpreter.evaluateTraced a scope [] = other.evaluateTraced b scope [] :=
    congrFun (congrFun same scope) []
  rw [evaluateTraced_eq, evaluateTraced_eq, Prod.mk.injEq, Prod.mk.injEq] at hrun
  exact Prod.ext hrun.1 hrun.2.1

theorem evaluateTraced_of_regrouping (interpreter : Interpreter) {a b : Condition}
    (h : Condition.Regrouping a b) :
    interpreter.evaluateTraced a = interpreter.evaluateTraced b := by
  cases h with
  | splice kind before inner after =>
      obtain ⟨goOn, hgroup⟩ := exists_inTurn kind
      rw [hgroup, hgroup, List.map_append, List.map_cons, hgroup, Run.inTurn_splice,
        List.map_append, List.map_append]
  | unwrap kind child =>
      obtain ⟨goOn, hgroup⟩ := exists_inTurn kind
      rw [hgroup, List.map_singleton, Run.inTurn_singleton]

theorem evaluateTraced_of_within (interpreter : Interpreter) {a b : Condition}
    (h : Condition.Within Condition.Regrouping a b) :
    interpreter.evaluateTraced a = interpreter.evaluateTraced b := by
  induction h with
  | here change => exact interpreter.evaluateTraced_of_regrouping change
  | inside kind before after change ih =>
      obtain ⟨goOn, hgroup⟩ := exists_inTurn kind
      rw [hgroup, hgroup, List.map_append, List.map_append, List.map_cons, List.map_cons, ih]

theorem evaluateTraced_of_regrouped (interpreter : Interpreter) {a b : Condition}
    (h : a.Regrouped b) : interpreter.evaluateTraced a = interpreter.evaluateTraced b := by
  induction h with
  | rel a b change => exact interpreter.evaluateTraced_of_within change
  | refl a => rfl
  | symm a b _ ih => exact ih.symm
  | trans a b c _ _ first second => exact first.trans second

/-- Regrouping a condition, at any depth, is not seen from outside: the answer, the calls, the
context and the traces are the same. -/
theorem evaluate_of_regrouped
    (interpreter : Interpreter) (a b : Condition) (regrouped : a.Regrouped b) (scope : Scope)
    (traces : List ConditionTrace) :
    interpreter.evaluate a scope = interpreter.evaluate b scope ∧
      interpreter.evaluateTraced a scope traces = interpreter.evaluateTraced b scope traces := by
  have same := interpreter.evaluateTraced_of_regrouped regrouped
  exact ⟨evaluate_congr same scope, congrFun (congrFun same scope) traces⟩

def fetchScore : FieldCondition :=
  ⟨"applicant", "fetch_from_api", .object [("endpoint", .string "bureau"),
    ("mapping", .object [("score", .string "bureau.score")])]⟩

def nestedSample : Condition :=
  .all [.all [.field fetchScore, .any [.field ⟨"bureau.score", "gte", .ofInt 800⟩]],
    .field ⟨"applicant", "present", .null⟩]

def flatSample : Condition :=
  .all [.field fetchScore, .field ⟨"bureau.score", "gte", .ofInt 800⟩,
    .field ⟨"applicant", "present", .null⟩]

theorem regrouped_sample : nestedSample.Regrouped flatSample := by
  have hall : ("all", Condition.all) ∈ Condition.groups := .head _
  have hany : ("any", Condition.any) ∈ Condition.groups := .tail _ (.head _)
  have hspliced := Condition.Within.here (Condition.Regrouping.splice hall []
    [.field fetchScore, .any [.field ⟨"bureau.score", "gte", .ofInt 800⟩]]
    [.field ⟨"applicant", "present", .null⟩])
  have hunwrapped := Condition.Within.inside hall [.field fetchScore]
    [.field ⟨"applicant", "present", .null⟩]
    (.here (Condition.Regrouping.unwrap hany (.field ⟨"bureau.score", "gte", .ofInt 800⟩)))
  exact .trans _ _ _ (.rel _ _ hspliced) (.rel _ _ hunwrapped)

theorem evaluate_of_regrouped_sample :
    nestedSample.Regrouped flatSample ∧
      ∃ scope traces, bureau.evaluateTraced nestedSample ⟨.empty, []⟩ [] = (false, scope, traces) ∧
        bureau.evaluate nestedSample ⟨.empty, []⟩ = (false, scope) ∧
        scope.calls = [⟨"bureau", []⟩] ∧ scope.context.has "bureau.score" = true ∧
        traces.map ConditionTrace.path = ["applicant", "bureau.score"] := by
  obtain ⟨hplain, htraced⟩ :=
    evaluate_of_regrouped bureau nestedSample flatSample regrouped_sample ⟨.empty, []⟩ []
  exact ⟨regrouped_sample, _, _, htraced.trans rfl, hplain.trans rfl, rfl, rfl, rfl⟩

end Interpreter
end Verdict
