import Verdict.Config.Basic
import Verdict.Service.Batch

/-!
# Decision service

A service runs an agent under a configuration: every call has a time limit, and many contexts can be
decided at once.
-/

namespace Verdict

/-- An agent and the configuration it runs under. -/
structure Service (σ : Type) where
  agent : Agent σ
  config : Config

namespace Service

variable {α σ : Type}

def make (config : Config) (evaluators : List Evaluator) (sink : Option (Sink AuditRecord σ)) :
    Except AgentError (Service σ) :=
  (Agent.make evaluators config.strategy sink config.trace).map fun agent => ⟨agent, config⟩

def perform (service : Service σ) (work : Work α σ) (contexts : List Context) (state : σ) :
    List (Option (Except ServiceError α)) × σ :=
  let delays := contexts.map fun context => Agent.delay context service.agent.evaluators
  let limit := service.config.timeLimit
  let batch := (Batch.make contexts state).run limit work (Batch.schedule limit delays)
  (batch.replies, batch.state)

/-- Decides for contexts at once.  The clock is pinned: one instant `now` stamps all records of the
batch, although each record is made at an instant of its own. -/
def decideBatch (service : Service σ) (now : Instant) (contexts : List Context) (state : σ) :
    List (Option (Except ServiceError Decision)) × σ :=
  service.perform (fun context state => service.agent.decide now context none state) contexts state

def performOne (service : Service σ) (work : Work α σ) (context : Context) (state : σ) :
    Option (Except ServiceError α) × σ :=
  let (replies, state) := service.perform work [context] state
  (replies.head?.join, state)

def decide (service : Service σ) (now : Instant) (context : Context) (feedback : Option Json)
    (state : σ) : Option (Except ServiceError Decision) × σ :=
  service.performOne (fun context state => service.agent.decide now context feedback state) context
    state

def decideTraced (service : Service σ) (now : Instant) (context : Context)
    (feedback : Option Json) (state : σ) :
    Option (Except ServiceError (Decision × RuleTraces)) × σ :=
  service.performOne (fun context state => service.agent.decideTraced now context feedback state)
    context state

end Service
end Verdict
