import Verdict.Condition.Evaluation
import Verdict.Proofs.Enrichment.Requests

/-!
# Fetches

`Interpreter.FetchOutcome` lists the three ways in which a fetch can end: without a call, with a
call that was of no use, and with values to store.  There is no fourth (`Interpreter.fetchOutcome`).
-/

namespace Verdict

namespace Request

theorem DescribedBy.unique {request other : Request} {operand : Json}
    (h : request.DescribedBy operand) (h' : other.DescribedBy operand) : request = other :=
  Option.some.inj ((ofJson?_eq_some_iff.mpr h).symm.trans (ofJson?_eq_some_iff.mpr h'))

theorem Asks.unique {request : Request} {context : Context} {call other : Call}
    (h : request.Asks context call) (h' : request.Asks context other) : call = other :=
  Option.some.inj ((call?_eq_some_iff.mpr h).symm.trans (call?_eq_some_iff.mpr h'))

end Request

namespace Interpreter

/-- The call of a request that an operand describes, made to a collaborator. -/
structure Calls (interpreter : Interpreter) (operand : Json) (scope : Scope)
    (collaborator : Collaborator) (request : Request) (call : Call) : Prop where
  wired : interpreter.collaborator = some collaborator
  described : request.DescribedBy operand
  asked : request.Asks scope.context call

theorem exists_calls_iff {interpreter : Interpreter} {operand : Json} {scope : Scope} :
    (∃ collaborator request call,
        interpreter.Calls operand scope collaborator request call) ↔
      interpreter.collaborator ≠ none ∧
        ∃ request : Request, request.DescribedBy operand ∧
          ∀ param ∈ request.params, Template.Resolvable scope.context param.2 := by
  simp only [← Request.isSome_call?_iff, Option.isSome_iff_exists, Request.call?_eq_some_iff]
  constructor
  · rintro ⟨collaborator, request, call, hwired, hdescribed, hasked⟩
    refine ⟨?_, request, hdescribed, call, hasked⟩
    rw [hwired]
    exact Option.some_ne_none collaborator
  · rintro ⟨hwired, request, hdescribed, call, hasked⟩
    obtain ⟨collaborator, hcollaborator⟩ := Option.ne_none_iff_exists'.mp hwired
    exact ⟨collaborator, request, call, hcollaborator, hdescribed, hasked⟩

/-- How a fetch can end: the calls that it has made, and the values to store if it succeeds. -/
inductive FetchOutcome (interpreter : Interpreter) (operand : Json) (scope : Scope) :
    List Call × Option (List (String × Json)) → Prop where
  | silent (h : ∀ collaborator request call,
      ¬ interpreter.Calls operand scope collaborator request call) :
      FetchOutcome interpreter operand scope ([], none)
  | failed {collaborator : Collaborator} {request : Request} {call : Call}
      (calls : interpreter.Calls operand scope collaborator request call)
      (h : ∀ response, collaborator scope.calls call = .ok response →
        ¬ ∀ entry ∈ request.mapping, ∃ pair, Request.Maps response entry pair) :
      FetchOutcome interpreter operand scope ([call], none)
  | fetched {collaborator : Collaborator} {request : Request} {call : Call}
      {response : Fields Json} {pairs : List (String × Json)}
      (calls : interpreter.Calls operand scope collaborator request call)
      (answered : collaborator scope.calls call = .ok response)
      (mapped : List.Forall₂ (Request.Maps response) request.mapping pairs) :
      FetchOutcome interpreter operand scope ([call], some pairs)

theorem fetchOutcome (interpreter : Interpreter) (operand : Json) (scope : Scope) :
    interpreter.FetchOutcome operand scope (interpreter.fetch operand scope) := by
  unfold fetch
  split
  · next collaborator request hwired hrequest =>
    have hdescribed := Request.ofJson?_eq_some_iff.mp hrequest
    split
    · next hcall =>
      apply FetchOutcome.silent
      intro collaborator' request' call calls
      obtain rfl := calls.described.unique hdescribed
      rw [Request.call?_eq_some_iff.mpr calls.asked] at hcall
      cases hcall
    · next call hcall =>
      have calls : interpreter.Calls operand scope collaborator request call :=
        ⟨hwired, hdescribed, Request.call?_eq_some_iff.mp hcall⟩
      split
      · next error hanswer =>
        apply FetchOutcome.failed calls
        intro response hresponse
        rw [hanswer] at hresponse
        cases hresponse
      · next response hanswer =>
        cases hoverlay : Request.overlay? response request.mapping with
        | none =>
            apply FetchOutcome.failed calls
            intro response' hresponse hmapped
            rw [hanswer] at hresponse
            cases hresponse
            have hsome := Request.isSome_overlay?_iff.mpr hmapped
            rw [hoverlay] at hsome
            cases hsome
        | some pairs =>
            exact .fetched calls hanswer (Request.overlay?_eq_some_iff.mp hoverlay)
  · next hnot =>
    apply FetchOutcome.silent
    intro collaborator request call calls
    exact hnot collaborator request calls.wired (Request.ofJson?_eq_some_iff.mpr calls.described)

theorem Calls.unique {interpreter : Interpreter} {operand : Json} {scope : Scope}
    {collaborator collaborator' : Collaborator} {request request' : Request} {call call' : Call}
    (h : interpreter.Calls operand scope collaborator request call)
    (h' : interpreter.Calls operand scope collaborator' request' call') :
    collaborator = collaborator' ∧ request = request' ∧ call = call' := by
  obtain rfl : request = request' := h.described.unique h'.described
  exact ⟨Option.some.inj (h.wired.symm.trans h'.wired), rfl, h.asked.unique h'.asked⟩

theorem evaluateLeaf_of_enrichment {interpreter : Interpreter} {leaf : FieldCondition}
    (fetches : interpreter.registry.get? leaf.operator = some .enrichment) (scope : Scope) :
    interpreter.evaluateLeaf leaf scope =
      match interpreter.fetch leaf.operand scope with
      | (calls, none) => (false, ⟨scope.context, scope.calls ++ calls⟩)
      | (calls, some overlay) => (true, ⟨scope.context.merged overlay, scope.calls ++ calls⟩) := by
  rcases hresult : interpreter.fetch leaf.operand scope with ⟨calls, _ | overlay⟩
  · simp only [evaluateLeaf, fetches, hresult]
  · simp only [evaluateLeaf, fetches, hresult]

/-- A leaf that fetches calls the collaborator once or not at all.  It is true exactly if the call
is answered and every entry of the mapping has a target and a value; when it is false, later leaves
see the context that there was before. -/
theorem evaluateLeaf_fetch_discipline
    (interpreter : Interpreter) (leaf : FieldCondition) (scope : Scope)
    (fetches : interpreter.registry.get? leaf.operator = some .enrichment) :
    ∃ made : List Call,
      (interpreter.evaluateLeaf leaf scope).2.calls = scope.calls ++ made ∧
        made.length ≤ 1 ∧
        (made ≠ [] ↔ interpreter.collaborator ≠ none ∧
          ∃ request : Request, request.DescribedBy leaf.operand ∧
            ∀ param ∈ request.params, Template.Resolvable scope.context param.2) ∧
        (∀ call ∈ made, ∃ request : Request, request.DescribedBy leaf.operand ∧
          request.Asks scope.context call) ∧
        ((interpreter.evaluateLeaf leaf scope).1 = true ↔
          ∃ collaborator request call response,
            interpreter.Calls leaf.operand scope collaborator request call ∧ made = [call] ∧
            collaborator scope.calls call = .ok response ∧
            ∀ entry ∈ request.mapping, ∃ pair, Request.Maps response entry pair) ∧
        ((interpreter.evaluateLeaf leaf scope).1 = false →
          (interpreter.evaluateLeaf leaf scope).2.context = scope.context) := by
  have houtcome := interpreter.fetchOutcome leaf.operand scope
  rw [evaluateLeaf_of_enrichment fetches, ← exists_calls_iff]
  generalize interpreter.fetch leaf.operand scope = result at houtcome ⊢
  cases houtcome with
  | silent h =>
      refine ⟨[], rfl, Nat.zero_le 1, ?_, List.forall_mem_nil _, ?_, fun _ => rfl⟩
      · refine iff_of_false (fun hne => hne rfl) ?_
        rintro ⟨collaborator, request, call, calls⟩
        exact h collaborator request call calls
      · refine iff_of_false Bool.false_ne_true ?_
        rintro ⟨collaborator, request, call, response, calls, -⟩
        exact h collaborator request call calls
  | @failed collaborator request call calls h =>
      refine ⟨[call], rfl, Nat.le_refl 1, ?_, ?_, ?_, fun _ => rfl⟩
      · exact iff_of_true (List.cons_ne_nil _ _) ⟨collaborator, request, call, calls⟩
      · exact List.forall_mem_singleton.mpr ⟨request, calls.described, calls.asked⟩
      · refine iff_of_false Bool.false_ne_true ?_
        rintro ⟨collaborator', request', call', response, calls', -, hanswer, hmapped⟩
        obtain ⟨rfl, rfl, rfl⟩ := calls.unique calls'
        exact h response hanswer hmapped
  | @fetched collaborator request call response pairs calls answered mapped =>
      refine ⟨[call], rfl, Nat.le_refl 1, ?_, ?_, ?_, fun hfalse => nomatch hfalse⟩
      · exact iff_of_true (List.cons_ne_nil _ _) ⟨collaborator, request, call, calls⟩
      · exact List.forall_mem_singleton.mpr ⟨request, calls.described, calls.asked⟩
      · exact iff_of_true rfl ⟨collaborator, request, call, response, calls, rfl, answered,
          exists_forall₂_iff.mp ⟨pairs, mapped⟩⟩

def bureau : Interpreter :=
  { registry := .builtin
    collaborator := some (Responses.empty.withResponse "bureau"
      (.object [("score", .ofInt 700)])).collaborator
    now := ⟨0, 0⟩ }

def scoreAndTier : FieldCondition :=
  ⟨"applicant", "fetch_from_api", .object [("endpoint", .string "bureau"),
    ("mapping", .object [("score", .string "bureau.score"), ("tier", .string "bureau.tier")]),
    ("params", .object [("id", .string "\x7b\x7b applicant.id \x7d\x7d")])]⟩

theorem evaluateLeaf_fetch_discipline_sample :
    bureau.registry.get? scoreAndTier.operator = some .enrichment ∧
      ∃ context, context = Context.ofPairs [("applicant", .object [("id", .ofInt 7)])] ∧
        (bureau.evaluateLeaf scoreAndTier ⟨context, []⟩).2.calls =
          [⟨"bureau", [("id", .ofInt 7)]⟩] ∧
        (bureau.evaluateLeaf scoreAndTier ⟨context, []⟩).1 = false ∧
        (bureau.evaluateLeaf scoreAndTier ⟨context, []⟩).2.context = context := by
  refine ⟨rfl, _, rfl, rfl, rfl, ?_⟩
  obtain ⟨-, -, -, -, -, -, hcontext⟩ := evaluateLeaf_fetch_discipline bureau scoreAndTier
    ⟨.ofPairs [("applicant", .object [("id", .ofInt 7)])], []⟩ rfl
  exact hcontext rfl

end Interpreter
end Verdict
