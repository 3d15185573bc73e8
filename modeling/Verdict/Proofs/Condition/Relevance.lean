import Verdict.Proofs.Condition.Denotation
import Verdict.Proofs.Context.Merging
import Verdict.Proofs.Operator.Missing

/-!
# Relevant data

A condition without fetches looks at a context only through the paths of its leaves
(`Condition.satisfied_iff_of_agree`), and the tests of the library do not tell a missing value from
`null`.
-/

namespace Verdict

open Operator

namespace Condition

/-- The two contexts hold the same at the path of every leaf. -/
def Agree (condition : Condition) (context other : Context) : Prop :=
  ∀ leaf ∈ condition.leaves, SameFinding (context.get? leaf.path) (other.get? leaf.path)

def ForgetsNull (registry : Registry) (condition : Condition) : Prop :=
  ∀ leaf ∈ condition.leaves, ∀ test,
    registry.get? leaf.operator = some (.pure test) → test.ForgetsNull

theorem satisfied_leaf_iff_of_agree
    {registry : Registry} {leaf : FieldCondition} {context other : Context}
    (forgets : (field leaf).ForgetsNull registry) (agree : (field leaf).Agree context other)
    (now : Instant) :
    (field leaf).Satisfied registry now context ↔ (field leaf).Satisfied registry now other := by
  have hmem : leaf ∈ (field leaf).leaves := List.mem_cons_self
  have hanswer (test : Test) (hoperator : registry.get? leaf.operator = some (.pure test)) :
      test (context.get? leaf.path) leaf.operand now =
        test (other.get? leaf.path) leaf.operand now :=
    (forgets leaf hmem test hoperator).eq_of_sameFinding (agree leaf hmem) leaf.operand now
  rw [Satisfied, Satisfied]
  constructor
  · rintro ⟨test, hoperator, htrue⟩
    exact ⟨test, hoperator, (hanswer test hoperator).symm.trans htrue⟩
  · rintro ⟨test, hoperator, htrue⟩
    exact ⟨test, hoperator, (hanswer test hoperator).trans htrue⟩

theorem satisfied_iff_of_agree
    {registry : Registry} {condition : Condition} {context other : Context}
    (forgets : condition.ForgetsNull registry) (agree : condition.Agree context other)
    (now : Instant) :
    condition.Satisfied registry now context ↔ condition.Satisfied registry now other := by
  induction condition using induction_on_groups with
  | leaf leaf => exact satisfied_leaf_iff_of_agree forgets agree now
  | @group name make children kind ih =>
      have hchild (child : Condition) (hmem : child ∈ children) :
          child.Satisfied registry now context ↔ child.Satisfied registry now other := by
        have hleaf {leaf : FieldCondition} (h : leaf ∈ child.leaves) :
            leaf ∈ (make children).leaves :=
          (mem_leaves_make kind).mpr ⟨child, hmem, h⟩
        apply ih child hmem
        · intro leaf h
          exact forgets leaf (hleaf h)
        · intro leaf h
          exact agree leaf (hleaf h)
      rcases eq_of_mem_groups kind with ⟨-, rfl⟩ | ⟨-, rfl⟩
      · rw [Satisfied, Satisfied]
        exact forall₂_congr hchild
      · rw [Satisfied, Satisfied]
        simp only [exists_prop]
        exact exists_congr fun child => and_congr_right (hchild child)

/-- Values stored beside the paths of a condition leave a context that agrees with the old one. -/
theorem agree_merged {condition : Condition} {pairs : List (String × Json)}
    (beside : ∀ pair ∈ pairs, ∀ leaf ∈ condition.leaves, ¬ DotPath.Overlap pair.1 leaf.path)
    (context : Context) : condition.Agree (context.merged pairs) context := by
  intro leaf hleaf
  left
  apply context.get?_merged_of_not_overlap
  intro pair hpair
  exact beside pair hpair leaf hleaf

end Condition

namespace Interpreter

theorem evaluate_eq_of_agree
    (interpreter : Interpreter) {condition : Condition} {context other : Context}
    (free : condition.FetchFree interpreter.registry)
    (forgets : condition.ForgetsNull interpreter.registry)
    (agree : condition.Agree context other) (calls calls' : List Call) :
    (interpreter.evaluate condition ⟨context, calls⟩).1 =
      (interpreter.evaluate condition ⟨other, calls'⟩).1 := by
  have hcontext := (interpreter.evaluate_of_fetchFree ⟨context, calls⟩ condition free).2
  have hother := (interpreter.evaluate_of_fetchFree ⟨other, calls'⟩ condition free).2
  rw [Bool.eq_iff_iff, hcontext, hother]
  exact Condition.satisfied_iff_of_agree forgets agree interpreter.now

/-- A condition over the tests of the library sees the values at the paths of its leaves and nothing
else, and no test tells a path that does not resolve from a stored `null`. -/
theorem evaluate_sees_relevant_data_only
    (collaborator : Option Collaborator) (now : Instant) (condition : Condition)
    (tests : ∀ leaf ∈ condition.leaves, leaf.operator ≠ Registry.fetchName) :
    (∀ (context other : Context) (calls calls' : List Call) (traces traces' : List ConditionTrace),
        (∀ leaf ∈ condition.leaves,
          context.get? leaf.path = other.get? leaf.path ∨
            (context.get? leaf.path = none ∨ context.get? leaf.path = some .null) ∧
            (other.get? leaf.path = none ∨ other.get? leaf.path = some .null)) →
        (evaluate ⟨.builtin, collaborator, now⟩ condition ⟨context, calls⟩).1 =
            (evaluate ⟨.builtin, collaborator, now⟩ condition ⟨other, calls'⟩).1 ∧
          (evaluateTraced ⟨.builtin, collaborator, now⟩ condition ⟨context, calls⟩ traces).1 =
            (evaluateTraced ⟨.builtin, collaborator, now⟩ condition ⟨other, calls'⟩ traces').1) ∧
      (∀ (name : String) (test : Test), Registry.builtin.get? name = some (.pure test) →
        ∀ (operand : Json) (now : Instant), test none operand now = test (some .null) operand now) ∧
      (∀ (context : Context) (calls : List Call) (pairs : List (String × Json)),
        (∀ pair ∈ pairs, ∀ leaf ∈ condition.leaves, ¬ DotPath.Overlap pair.1 leaf.path) →
        (evaluate ⟨.builtin, collaborator, now⟩ condition ⟨context.merged pairs, calls⟩).1 =
          (evaluate ⟨.builtin, collaborator, now⟩ condition ⟨context, calls⟩).1) := by
  have free : condition.FetchFree .builtin := by
    intro leaf hleaf hfetch
    exact tests leaf hleaf (Registry.eq_fetchName_of_get?_builtin hfetch)
  have forgets : condition.ForgetsNull .builtin := by
    intro leaf _ test hoperator
    exact Registry.forgetsNull_of_get?_builtin hoperator
  refine ⟨?_, ?_, ?_⟩
  · intro context other calls calls' traces traces' hagree
    have agree : condition.Agree context other := by
      intro leaf hleaf
      rw [SameFinding, defined_eq_none_iff, defined_eq_none_iff]
      exact hagree leaf hleaf
    have hanswer := evaluate_eq_of_agree ⟨.builtin, collaborator, now⟩ free forgets agree calls
      calls'
    rw [evaluateTraced_eq, evaluateTraced_eq]
    exact ⟨hanswer, hanswer⟩
  · intro name test hoperator
    exact Registry.forgetsNull_of_get?_builtin hoperator
  · intro context calls pairs beside
    exact evaluate_eq_of_agree ⟨.builtin, collaborator, now⟩ free forgets
      (Condition.agree_merged beside context) calls calls

def sampleTests : Condition :=
  .any [.field ⟨"score", "modulo", .array [.ofInt 3, .ofInt 0]⟩,
    .all [.field ⟨"applicant.age", "gte", .ofInt 18⟩, .field ⟨"reason", "blank", .null⟩]]

theorem evaluate_sees_relevant_data_only_sample :
    (∀ leaf ∈ sampleTests.leaves, leaf.operator ≠ Registry.fetchName) ∧
      (evaluate ⟨.builtin, none, ⟨0, 0⟩⟩ sampleTests
        ⟨⟨[("applicant", .object [("age", .ofInt 20)]), ("reason", .null)]⟩, []⟩).1 = true ∧
      (evaluate ⟨.builtin, none, ⟨0, 0⟩⟩ sampleTests
        ⟨⟨[("applicant", .object [("age", .ofInt 20), ("name", .string "Ada")]),
          ("score", .null)]⟩, []⟩).1 = true := by
  have tests : ∀ leaf ∈ sampleTests.leaves, leaf.operator ≠ Registry.fetchName :=
    List.forall_mem_cons.mpr ⟨by decide, List.forall_mem_cons.mpr ⟨by decide,
      List.forall_mem_cons.mpr ⟨by decide, List.forall_mem_nil _⟩⟩⟩
  obtain ⟨hagree, -, -⟩ := evaluate_sees_relevant_data_only none ⟨0, 0⟩ sampleTests tests
  have hsame := hagree
    ⟨[("applicant", .object [("age", .ofInt 20)]), ("reason", .null)]⟩
    ⟨[("applicant", .object [("age", .ofInt 20), ("name", .string "Ada")]), ("score", .null)]⟩
    [] [] [] []
    (List.forall_mem_cons.mpr ⟨Or.inr ⟨Or.inl rfl, Or.inr rfl⟩, List.forall_mem_cons.mpr
      ⟨Or.inl rfl, List.forall_mem_cons.mpr
        ⟨Or.inr ⟨Or.inr rfl, Or.inl rfl⟩, List.forall_mem_nil _⟩⟩⟩)
  exact ⟨tests, rfl, hsame.1.symm.trans rfl⟩

end Interpreter
end Verdict
