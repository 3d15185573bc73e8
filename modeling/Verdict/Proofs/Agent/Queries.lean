import Verdict.Proofs.Agent.Attribution

/-!
# Queries, one after another

One query leads to the reply and the record that belong to it (`Agent.answer_eq`), so a sequence
leads to the replies and records of its queries, in order (`Agent.serve_eq`).  A reply depends on
the evaluators, the strategy and the context alone.
-/

namespace Verdict

structure Query where
  traced : Bool
  context : Context
  feedback : Option Json
  now : Instant

structure Reply where
  decision : Decision
  traces : Option RuleTraces

namespace Evaluator

/-- The evaluator follows rules with a stateless collaborator or always proposes the same. -/
inductive Deterministic : Evaluator → Prop where
  | rules {evaluator : RuleEvaluator} (stateless : evaluator.interpreter.Stateless) :
      Deterministic (.rules evaluator)
  | fixed (evaluation : Evaluation) : Deterministic (.fixed evaluation)

theorem Deterministic.declarative {evaluator : Evaluator}
    (deterministic : evaluator.Deterministic) : evaluator.Declarative := by
  cases deterministic with
  | rules stateless => exact .rules _
  | fixed evaluation => exact .fixed evaluation

/-- A deterministic evaluator proposes the same and leaves the same traces, whatever its
collaborator has been called for before. -/
theorem Deterministic.of_rules {evaluator : RuleEvaluator}
    (deterministic : (Evaluator.rules evaluator).Deterministic) (context : Context)
    (calls : List Call) :
    (evaluator.evaluate context calls).1 = (Evaluator.rules evaluator).opinion context ∧
      (evaluator.evaluateTraced context [] calls).2.1 =
        (Evaluator.rules evaluator).account context := by
  cases deterministic with
  | rules stateless =>
      rw [account_rules, RuleEvaluator.evaluateTraced_eq, List.nil_append]
      exact ⟨RuleEvaluator.evaluate_eq_of_stateless stateless context calls [],
        RuleEvaluator.trials_eq_of_stateless stateless context _ calls []⟩

end Evaluator

namespace Agent

variable {σ : Type}

def answer (agent : Agent σ) (query : Query) (state : σ) : Except Breakdown Reply × σ :=
  if query.traced then
    let (result, state) := agent.decideTraced query.now query.context query.feedback state
    (result.map fun (decision, traces) => ⟨decision, some traces⟩, state)
  else
    let (result, state) := agent.decide query.now query.context query.feedback state
    (result.map fun decision => ⟨decision, none⟩, state)

def serve (agent : Agent σ) : List Query → σ → List (Except Breakdown Reply) × σ
  | [], state => ([], state)
  | query :: rest, state =>
    let (reply, state) := agent.answer query state
    let (replies, state) := serve agent rest state
    (reply :: replies, state)

def replyTo (agent : Agent σ) (query : Query) : Reply :=
  { decision := agent.verdict query.context
    traces := if query.traced then some (agent.account query.context) else none }

def recordOf (agent : Agent σ) (query : Query) : AuditRecord :=
  { decision := agent.verdict query.context
    traces := if query.traced || agent.tracing then agent.account query.context else []
    feedback := query.feedback
    recordedAt := query.now }

theorem answer_eq {agent : Agent σ} (declarative : agent.Declarative) (query : Query)
    (state : σ) :
    agent.answer query state =
      (.ok (agent.replyTo query), agent.audit (agent.recordOf query) state) := by
  obtain ⟨traced, context, feedback, now⟩ := query
  cases traced with
  | true =>
      rw [answer, if_pos rfl, decideTraced, decideWith_eq declarative]
      rfl
  | false =>
      rw [answer, if_neg Bool.false_ne_true, decide, decideWith_eq declarative]
      rfl

theorem serve_eq {agent : Agent σ} (declarative : agent.Declarative) (queries : List Query)
    (state : σ) :
    agent.serve queries state =
      (queries.map fun query => .ok (agent.replyTo query),
        (queries.map agent.recordOf).foldl (fun state record => agent.audit record state)
          state) := by
  induction queries generalizing state with
  | nil => rfl
  | cons query rest ih =>
      rw [serve, answer_eq declarative]
      simp only [ih, List.map_cons, List.foldl_cons]

theorem decisions_eq {τ : Type} {agent : Agent σ} {other : Agent τ}
    (declarative : agent.Declarative) (evaluators : other.evaluators = agent.evaluators)
    (strategy : other.strategy = agent.strategy) {queries queries' : List Query}
    (contexts : queries'.map Query.context = queries.map Query.context)
    (state : σ) (state' : τ) :
    (other.serve queries' state').1.map (Except.map Reply.decision) =
      (agent.serve queries state).1.map (Except.map Reply.decision) := by
  have declarative' : other.Declarative := by
    intro evaluator hmem
    rw [evaluators] at hmem
    exact declarative evaluator hmem
  have hverdict : other.verdict = agent.verdict := by
    funext context
    rw [verdict, verdict, evaluators, strategy]
  have hdecisions {ρ : Type} (agent : Agent ρ) (queries : List Query) :
      (queries.map fun query => (Except.ok (agent.replyTo query) : Except Breakdown Reply)).map
          (Except.map Reply.decision) =
        (queries.map Query.context).map fun context => .ok (agent.verdict context) := by
    rw [List.map_map, List.map_map]
    rfl
  rw [serve_eq declarative, serve_eq declarative', hdecisions, hdecisions, contexts, hverdict]

/-- Every query is answered with what the strategy makes of the proposals that the evaluators make
on their own, and it leaves one record.  None of this depends on what the sink does with a record,
nor on what the collaborators have been called for before. -/
theorem serve_replies_and_records
    (agent : Agent σ) (queries : List Query) (state : σ)
    (deterministic : ∀ evaluator ∈ agent.evaluators, evaluator.Deterministic) :
    ((agent.serve queries state).1 = queries.map fun query => .ok
        { decision := Decision.score agent.strategy
            (agent.evaluators.filterMap (Evaluator.opinion query.context))
          traces := if query.traced then some (agent.account query.context) else none }) ∧
      (∀ sink, agent.sink = some sink →
        (agent.serve queries state).2 =
          (queries.map agent.recordOf).foldl (fun state record => (sink record state).2) state) ∧
      (agent.sink = none → (agent.serve queries state).2 = state) ∧
      (∀ (τ : Type) (other : Agent τ) (queries' : List Query) (state' : τ),
        other.evaluators = agent.evaluators → other.strategy = agent.strategy →
        queries'.map Query.context = queries.map Query.context →
        (other.serve queries' state').1.map (Except.map Reply.decision) =
          (agent.serve queries state).1.map (Except.map Reply.decision)) ∧
      (∀ evaluator, .rules evaluator ∈ agent.evaluators →
        ∀ (context : Context) (calls : List Call),
          (evaluator.evaluate context calls).1 = (Evaluator.rules evaluator).opinion context ∧
          (evaluator.evaluateTraced context [] calls).2.1 =
            (Evaluator.rules evaluator).account context) := by
  have declarative : agent.Declarative :=
    fun evaluator hmem => (deterministic evaluator hmem).declarative
  have hserve := serve_eq declarative queries state
  refine ⟨?_, ?_, ?_, ?_, ?_⟩
  · rw [hserve]
    rfl
  · intro sink hsink
    have haudit : agent.audit = fun record state => (sink record state).2 := by
      funext record state
      rw [audit, hsink]
    rw [hserve, haudit]
  · intro hnone
    have haudit : agent.audit = fun _ state => state := by
      funext record state
      rw [audit, hnone]
    rw [hserve, haudit]
    exact List.foldl_fixed' (fun _ => rfl) _
  · intro τ other queries' state' hevaluators hstrategy hcontexts
    exact decisions_eq declarative hevaluators hstrategy hcontexts state state'
  · intro evaluator hmem context calls
    exact (deterministic _ hmem).of_rules context calls

def sampleQueries : List Query :=
  [⟨false, .empty, none, ⟨0, 0⟩⟩, ⟨true, .empty, some (.string "repaid"), ⟨60, 0⟩⟩]

theorem serve_replies_and_records_sample :
    (∀ evaluator ∈ sample.evaluators, evaluator.Deterministic) ∧
      (sample.serve sampleQueries []).1.map (fun reply =>
          reply.toOption.map fun reply =>
            (reply.decision.decision, reply.traces.map RuleTraces.ids)) =
        [some ("review", none), some ("review", some ["grade", "score", "rest"])] ∧
      (sample.serve sampleQueries []).2.map (fun record =>
          (record.decision.decision, record.traces.ids, record.feedback.bind Json.string?)) =
        [("review", [], none), ("review", ["grade", "score", "rest"], some "repaid")] := by
  have deterministic : ∀ evaluator ∈ sample.evaluators, evaluator.Deterministic :=
    List.forall_mem_cons.mpr ⟨.fixed _, List.forall_mem_cons.mpr
      ⟨.rules RuleEvaluator.stateless_sample, List.forall_mem_nil _⟩⟩
  obtain ⟨hreplies, hrecords, -⟩ :=
    serve_replies_and_records sample sampleQueries [] deterministic
  refine ⟨deterministic, ?_, ?_⟩
  · rw [hreplies]
    rfl
  · rw [hrecords _ rfl]
    rfl

end Agent
end Verdict
