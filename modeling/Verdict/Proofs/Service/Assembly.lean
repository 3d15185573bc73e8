import Verdict.Service.Basic
import Verdict.Proofs.Decimal.UnitInterval

/-!
# From a configuration to a service

The check of a configuration and the check of an agent look at the cutoff of a threshold in the same
way (`Agent.checkStrategy_of_inRange`).  Only the second one looks at the fallback
(`Agent.check_admits_unbackedConfig`).
-/

namespace Verdict

namespace Strategy

def InRange : Strategy Float → Prop
  | threshold cutoff _ => 0 ≤ cutoff ∧ cutoff ≤ 1
  | _ => True

/-- The strategy is a threshold that has nothing to fall back to. -/
def lacksFallback : Strategy Float → Bool
  | threshold _ fallback => fallback.isEmpty
  | _ => false

end Strategy

namespace Config

theorem check_eq_ok_iff {config accepted : Config} :
    config.check = .ok accepted ↔
      (config.timeLimit.nanos ≠ 0 ∧ config.queueCapacity ≠ 0 ∧ config.strategy.InRange) ∧
        accepted = config := by
  unfold check
  by_cases htime : config.timeLimit.nanos = 0
  · simp [htime]
  by_cases hcapacity : config.queueCapacity = 0
  · simp [htime, hcapacity]
  rw [if_neg htime, if_neg hcapacity]
  cases hstrategy : config.strategy with
  | threshold cutoff fallback =>
      by_cases hrange : 0 ≤ cutoff ∧ cutoff ≤ 1
      · simp [htime, hcapacity, Strategy.InRange, hrange, eq_comm]
      · simp [Strategy.InRange, hrange]
  | weightedAverage => simp [htime, hcapacity, Strategy.InRange, eq_comm]
  | maxWeight => simp [htime, hcapacity, Strategy.InRange, eq_comm]
  | consensus => simp [htime, hcapacity, Strategy.InRange, eq_comm]

end Config

namespace Agent

variable {σ : Type}

theorem checkStrategy_of_inRange {strategy : Strategy Float} (inRange : strategy.InRange) :
    checkStrategy strategy =
      if strategy.lacksFallback then .error .emptyFallback else .ok () := by
  cases strategy with
  | threshold cutoff fallback =>
      obtain ⟨hlow, hhigh⟩ := inRange
      have hfinite : cutoff.isFinite = true := UnitInterval.isFinite_of_le hlow hhigh
      simp [checkStrategy, Strategy.lacksFallback, hfinite, hlow, hhigh]
  | weightedAverage => rfl
  | maxWeight => rfl
  | consensus => rfl

/-- A configuration that has passed the check makes an agent of any evaluators, if there are some,
unless its strategy is a threshold that lacks a fallback. -/
theorem make_of_check (config : Config) (evaluators : List Evaluator)
    (sink : Option (Sink AuditRecord σ))
    (checked : config.check = .ok config) (occupied : evaluators ≠ []) :
    make evaluators config.strategy sink config.trace =
      if config.strategy.lacksFallback then .error .emptyFallback
      else .ok ⟨evaluators, config.strategy, sink, config.trace⟩ := by
  obtain ⟨⟨-, -, inRange⟩, -⟩ := Config.check_eq_ok_iff.mp checked
  have hoccupied : evaluators.isEmpty = false := by simpa using occupied
  rw [make, hoccupied, if_neg Bool.false_ne_true, checkStrategy_of_inRange inRange]
  split
  · rfl
  · rfl

def strictConfig : Config := ⟨.threshold 1 "review", .ofSeconds 5, true, 1⟩

def unbackedConfig : Config := ⟨.threshold 0.5 "", .ofSeconds 5, false, 1024⟩

def baseline : Evaluator := .fixed ⟨"approve", 1, none, "baseline", none⟩

theorem make_of_check_strictConfig :
    strictConfig.check = .ok strictConfig ∧ [baseline] ≠ [] ∧
      make [baseline] strictConfig.strategy (none : Option (Sink AuditRecord Unit))
          strictConfig.trace =
        .ok ⟨[baseline], .threshold 1 "review", none, true⟩ := by
  have checked : strictConfig.check = .ok strictConfig := rfl
  have occupied : [baseline] ≠ [] := List.cons_ne_nil _ _
  exact ⟨checked, occupied, make_of_check strictConfig [baseline] none checked occupied⟩

/-- The configuration without a fallback passes the check, and no agent can be made of it. -/
theorem check_admits_unbackedConfig :
    unbackedConfig.check = .ok unbackedConfig ∧ [baseline] ≠ [] ∧
      ∀ agent : Agent Unit,
        make [baseline] unbackedConfig.strategy none unbackedConfig.trace ≠ .ok agent := by
  refine ⟨rfl, List.cons_ne_nil _ _, ?_⟩
  intro agent h
  cases h

end Agent
end Verdict
