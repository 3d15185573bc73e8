import Verdict.Operator.Registry
import Verdict.Proofs.Json.Canonical
import Mathlib.Tactic.FinCases

/-!
# Missing values

A path that does not resolve and a path at which `null` is stored are the same to every test of the
built-in registry (`Registry.forgetsNull_of_get?_builtin`).
-/

namespace Verdict

/-- A test that answers alike for a missing value and for `null`. -/
def Test.ForgetsNull (test : Test) : Prop :=
  ∀ operand now, test none operand now = test (some .null) operand now

namespace Operator

/-- Two look-ups that find one value, or nothing but `null` on either side. -/
def SameFinding (found other : Option Json) : Prop :=
  found = other ∨ defined found = none ∧ defined other = none

theorem defined_eq_none_iff {found : Option Json} :
    defined found = none ↔ found = none ∨ found = some .null := by
  cases found with
  | none => exact iff_of_true rfl (Or.inl rfl)
  | some value =>
      cases value with
      | null => exact iff_of_true rfl (Or.inr rfl)
      | _ => simp [defined, Json.isNull]

end Operator

open Operator

theorem Test.ForgetsNull.eq_of_sameFinding {test : Test} (forgets : test.ForgetsNull)
    {found other : Option Json} (same : SameFinding found other) (operand : Json)
    (now : Instant) : test found operand now = test other operand now := by
  have hundefined {found : Option Json} (h : defined found = none) :
      test found operand now = test none operand now := by
    rcases defined_eq_none_iff.mp h with rfl | rfl
    · rfl
    · exact (forgets operand now).symm
  rcases same with rfl | ⟨hfound, hother⟩
  · rfl
  · rw [hundefined hfound, hundefined hother]

namespace Registry

theorem forgetsNull_of_mem_families {entry : String × Test} (h : entry ∈ families) :
    entry.2.ForgetsNull := by
  intro operand now
  simp only [families, comparisons, textuals, numerics, temporals, collections, geographics,
    List.cons_append, List.nil_append] at h
  -- Whatever a test does first with what was found comes to the same for `none` and `null`, so both
  -- sides compute to one answer.
  fin_cases h <;> rfl

theorem eq_fetchName_of_get?_builtin {name : String}
    (h : builtin.get? name = some .enrichment) : name = fetchName := by
  have hmem := Fields.mem_of_mem_ofList (Fields.mem_of_get? h)
  rcases List.mem_append.mp hmem with hpure | hfetch
  · obtain ⟨entry, -, hentry⟩ := List.mem_map.mp hpure
    cases hentry
  · cases List.mem_singleton.mp hfetch
    rfl

theorem forgetsNull_of_get?_builtin {name : String} {test : Test}
    (h : builtin.get? name = some (.pure test)) : test.ForgetsNull := by
  have hmem := Fields.mem_of_mem_ofList (Fields.mem_of_get? h)
  rcases List.mem_append.mp hmem with hpure | hfetch
  · obtain ⟨entry, hfamily, hentry⟩ := List.mem_map.mp hpure
    cases hentry
    exact forgetsNull_of_mem_families hfamily
  · cases List.mem_singleton.mp hfetch

end Registry
end Verdict
