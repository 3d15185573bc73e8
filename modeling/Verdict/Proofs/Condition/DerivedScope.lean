import Verdict.Proofs.Condition.Fetching
import Verdict.Proofs.Condition.Tracing
import Verdict.Proofs.Context.Merging

/-!
# What fetches leave behind

The scope is handed on from leaf to leaf (`Interpreter.linked_visits`).  So the context at a leaf is
the one at the start with everything merged in that the fetches before it have stored, whatever
became of the groups around them (`Interpreter.Linked.replay`).
-/

namespace Verdict

theorem exists_cut_of_forall₂ {α β : Type} {R : α → β → Prop} {before after : List α}
    {source : α} {targets : List β} (h : List.Forall₂ R (before ++ source :: after) targets) :
    ∃ earlier target later, targets = earlier ++ target :: later ∧ R source target ∧
      List.Forall₂ R after later := by
  induction before generalizing targets with
  | nil =>
      cases h with
      | cons hsource hafter => exact ⟨[], _, _, rfl, hsource, hafter⟩
  | cons first rest ih =>
      cases h with
      | cons _ hrest =>
          obtain ⟨earlier, target, later, rfl, hsource, hafter⟩ := ih hrest
          exact ⟨_ :: earlier, target, later, rfl, hsource, hafter⟩

namespace Interpreter

/-! ## From leaf to leaf -/

/-- Each visit starts in the scope that the one before it has left behind. -/
inductive Linked (interpreter : Interpreter) : Scope → List Visit → Scope → Prop where
  | nil (scope : Scope) : Linked interpreter scope [] scope
  | cons (leaf : FieldCondition) {scope last : Scope} {rest : List Visit}
      (link : Linked interpreter (interpreter.scopeAfter ⟨leaf, scope⟩) rest last) :
      Linked interpreter scope (⟨leaf, scope⟩ :: rest) last

theorem Linked.append {interpreter : Interpreter} {first middle last : Scope}
    {visits others : List Visit} (h : interpreter.Linked first visits middle)
    (h' : interpreter.Linked middle others last) :
    interpreter.Linked first (visits ++ others) last := by
  induction h with
  | nil scope => exact h'
  | cons leaf _ ih => exact .cons leaf (ih h')

mutual

theorem linked_visits (interpreter : Interpreter) :
    ∀ (condition : Condition) (scope : Scope),
      interpreter.Linked scope (interpreter.visits condition scope)
        (interpreter.evaluate condition scope).2
  | .all children, scope => linked_visitsAll interpreter children scope
  | .any children, scope => linked_visitsAny interpreter children scope
  | .field leaf, _ => .cons leaf (.nil _)

theorem linked_visitsAll (interpreter : Interpreter) :
    ∀ (children : List Condition) (scope : Scope),
      interpreter.Linked scope (interpreter.visitsAll children scope)
        (interpreter.evaluateAll children scope).2
  | [], scope => .nil scope
  | child :: rest, scope => by
      have hchild := linked_visits interpreter child scope
      rw [visitsAll, evaluateAll]
      rcases hresult : interpreter.evaluate child scope with ⟨_ | _, after⟩
      · rw [hresult] at hchild
        exact hchild.append (.nil after)
      · rw [hresult] at hchild
        exact hchild.append (linked_visitsAll interpreter rest after)

theorem linked_visitsAny (interpreter : Interpreter) :
    ∀ (children : List Condition) (scope : Scope),
      interpreter.Linked scope (interpreter.visitsAny children scope)
        (interpreter.evaluateAny children scope).2
  | [], scope => .nil scope
  | child :: rest, scope => by
      have hchild := linked_visits interpreter child scope
      rw [visitsAny, evaluateAny]
      rcases hresult : interpreter.evaluate child scope with ⟨_ | _, after⟩
      · rw [hresult] at hchild
        exact hchild.append (linked_visitsAny interpreter rest after)
      · rw [hresult] at hchild
        exact hchild.append (.nil after)

end

/-! ## What is stored -/

/-- The values that a visited leaf stores, with the paths to store them under. -/
def stored (interpreter : Interpreter) (visit : Visit) : List (String × Json) :=
  match interpreter.registry.get? visit.leaf.operator with
  | some .enrichment => (interpreter.fetch visit.leaf.operand visit.scope).2.getD []
  | _ => []

theorem context_scopeAfter (interpreter : Interpreter) (visit : Visit) :
    (interpreter.scopeAfter visit).context =
      visit.scope.context.merged (interpreter.stored visit) := by
  unfold scopeAfter evaluateLeaf stored
  cases interpreter.registry.get? visit.leaf.operator with
  | none => rfl
  | some operator =>
      cases operator with
      | pure test => rfl
      | enrichment =>
          rcases interpreter.fetch visit.leaf.operand visit.scope with ⟨calls, _ | overlay⟩
          · rfl
          · rfl

/-- The context at each visit, and the one left behind in the end, is the first one with what the
visits before have stored. -/
theorem Linked.replay {interpreter : Interpreter} {first last : Scope} {visits : List Visit}
    (h : interpreter.Linked first visits last) :
    (∀ (index : Nat) (bound : index < visits.length),
        visits[index].scope.context =
          first.context.merged ((visits.take index).flatMap interpreter.stored)) ∧
      last.context = first.context.merged (visits.flatMap interpreter.stored) := by
  induction h with
  | nil scope => exact ⟨fun index bound => absurd bound (Nat.not_lt_zero index), rfl⟩
  | @cons leaf scope last rest _ ih =>
      obtain ⟨heach, hlast⟩ := ih
      rw [context_scopeAfter] at heach hlast
      constructor
      · intro index bound
        cases index with
        | zero => rfl
        | succ index =>
            rw [List.getElem_cons_succ, heach index (Nat.lt_of_succ_lt_succ bound),
              ← Context.merged_append, List.take_succ_cons, List.flatMap_cons]
      · rw [hlast, ← Context.merged_append, List.flatMap_cons]

theorem stored_of_success {interpreter : Interpreter} {visit : Visit}
    (fetches : interpreter.registry.get? visit.leaf.operator = some .enrichment)
    (holds : interpreter.resultOf visit = true) :
    ∃ collaborator request call response,
      interpreter.Calls visit.leaf.operand visit.scope collaborator request call ∧
        collaborator visit.scope.calls call = .ok response ∧
        List.Forall₂ (Request.Maps response) request.mapping (interpreter.stored visit) := by
  have houtcome := interpreter.fetchOutcome visit.leaf.operand visit.scope
  rw [resultOf, evaluateLeaf_of_enrichment fetches] at holds
  simp only [stored, fetches]
  generalize interpreter.fetch visit.leaf.operand visit.scope = result at houtcome holds ⊢
  cases houtcome with
  | silent h => cases holds
  | failed calls h => cases holds
  | fetched calls answered mapped => exact ⟨_, _, _, _, calls, answered, mapped⟩

theorem stored_eq_nil {interpreter : Interpreter} {visit : Visit}
    (h : interpreter.registry.get? visit.leaf.operator ≠ some .enrichment ∨
      interpreter.resultOf visit = false) : interpreter.stored visit = [] := by
  cases hoperator : interpreter.registry.get? visit.leaf.operator with
  | none => simp only [stored, hoperator]
  | some operator =>
      cases operator with
      | pure test => simp only [stored, hoperator]
      | enrichment =>
          have hfails : interpreter.resultOf visit = false :=
            h.resolve_left fun hne => hne hoperator
          rw [resultOf, evaluateLeaf_of_enrichment hoperator] at hfails
          simp only [stored, hoperator]
          generalize interpreter.fetch visit.leaf.operand visit.scope = result at hfails ⊢
          rcases result with ⟨calls, _ | overlay⟩
          · rfl
          · cases hfails

/-- Right after a fetch, the target of an entry holds its value, unless the target of a later entry
overlaps with it. -/
theorem get?_scopeAfter_of_mapped {interpreter : Interpreter} {visit : Visit}
    {response : Fields Json} {before after : List (String × Json)} {source target : String}
    (mapped : List.Forall₂ (Request.Maps response) (before ++ (source, .string target) :: after)
      (interpreter.stored visit))
    (apart : ∀ entry ∈ after, ∀ later, entry.2 = .string later → ¬ DotPath.Overlap later target) :
    ∃ value, Request.find? response source = some value ∧
      (interpreter.scopeAfter visit).context.get? target = some value := by
  obtain ⟨earlier, pair, later, hstored, hpair, hlater⟩ := exists_cut_of_forall₂ mapped
  refine ⟨pair.2, hpair.value, ?_⟩
  have htarget : target = pair.1 := Json.string.inj hpair.target
  rw [context_scopeAfter, hstored, htarget]
  apply Context.get?_merged_append
  intro other hother
  obtain ⟨entry, hentry, hmaps⟩ := exists_source_of_mem hlater hother
  rw [← htarget]
  exact apart entry hentry other.1 hmaps.target

/-- The context that a leaf sees is the first one with what the leaves before it have stored merged
in at once.  A fetch that succeeds stores what its mapping takes from the answer, and afterwards the
target of an entry leads to its value unless the target of a later entry overlaps with it. -/
theorem evaluate_replays_fetches
    (interpreter : Interpreter) (condition : Condition) (context : Context) (calls : List Call) :
    ∃ visits : List Visit,
      visits = interpreter.visits condition ⟨context, calls⟩ ∧
        (interpreter.evaluateTraced condition ⟨context, calls⟩ []).2.2 =
          visits.map interpreter.traceOf ∧
        (∀ (index : Nat) (bound : index < visits.length),
          visits[index].scope.context =
            context.merged ((visits.take index).flatMap interpreter.stored)) ∧
        (interpreter.evaluate condition ⟨context, calls⟩).2.context =
          context.merged (visits.flatMap interpreter.stored) ∧
        ∀ visit ∈ visits,
          (interpreter.registry.get? visit.leaf.operator = some .enrichment →
            interpreter.resultOf visit = true →
            ∃ collaborator request call response,
              interpreter.Calls visit.leaf.operand visit.scope collaborator request call ∧
                collaborator visit.scope.calls call = .ok response ∧
                List.Forall₂ (Request.Maps response) request.mapping
                  (interpreter.stored visit) ∧
                ∀ before source target after,
                  request.mapping = before ++ (source, .string target) :: after →
                  (∀ entry ∈ after, ∀ later, entry.2 = .string later →
                    ¬ DotPath.Overlap later target) →
                  ∃ value, Request.find? response source = some value ∧
                    (interpreter.scopeAfter visit).context.get? target = some value) ∧
          (interpreter.registry.get? visit.leaf.operator ≠ some .enrichment ∨
            interpreter.resultOf visit = false → interpreter.stored visit = []) := by
  obtain ⟨heach, hlast⟩ := (interpreter.linked_visits condition ⟨context, calls⟩).replay
  refine ⟨interpreter.visits condition ⟨context, calls⟩, rfl, ?_, heach, hlast, ?_⟩
  · rw [evaluateTraced_eq, List.nil_append]
  · intro visit _
    refine ⟨?_, stored_eq_nil⟩
    intro fetches holds
    obtain ⟨collaborator, request, call, response, hcalls, hanswer, hmapped⟩ :=
      stored_of_success fetches holds
    refine ⟨collaborator, request, call, response, hcalls, hanswer, hmapped, ?_⟩
    intro before source target after hmapping apart
    rw [hmapping] at hmapped
    exact get?_scopeAfter_of_mapped hmapped apart

def scoreWithoutTier : Condition :=
  .any [
    .all [
      .field ⟨"applicant", "fetch_from_api", .object [("endpoint", .string "bureau"),
        ("mapping", .object [("score", .string "bureau.score")])]⟩,
      .field ⟨"bureau.tier", "present", .null⟩],
    .field ⟨"bureau.score", "present", .null⟩]

theorem evaluate_replays_fetches_sample :
    ∃ bound : 2 < (bureau.visits scoreWithoutTier ⟨.empty, []⟩).length,
      (bureau.visits scoreWithoutTier ⟨.empty, []⟩)[2].scope.context =
          Context.empty.merged [("bureau.score", .ofInt 700)] ∧
        (bureau.evaluate scoreWithoutTier ⟨.empty, []⟩).1 = true := by
  have bound : 2 < (bureau.visits scoreWithoutTier ⟨.empty, []⟩).length := by decide
  obtain ⟨visits, rfl, -, heach, -⟩ := evaluate_replays_fetches bureau scoreWithoutTier .empty []
  exact ⟨bound, (heach 2 bound).trans rfl, rfl⟩

end Interpreter
end Verdict
