import Verdict.Agent.Basic

/-!
# Batches

Jobs run at the same time: they start, end and run out of time in any order.  A job that has run out
of time is answered at once and goes on to its end all the same, so its record is made.
`Batch.step` is one event, and a list of events is a schedule.
-/

namespace Verdict

inductive ServiceError where
  | timeout (limit : Duration)
  | brokenDown (breakdown : Breakdown)

def ServiceError.message : ServiceError → String
  | timeout limit => "Decision timed out after " ++ limit.brief
  | brokenDown breakdown => "Decision task failed: " ++ breakdown.evaluator

inductive Progress where
  | waiting
  | running
  | ended
deriving DecidableEq

/-- The work for one context, and what its caller has been answered. -/
structure Job (α : Type) where
  context : Context
  progress : Progress
  reply : Option (Except ServiceError α)

/-- What is done for a context, with a state that all jobs share. -/
abbrev Work (α σ : Type) := Context → σ → Except Breakdown α × σ

structure Batch (α σ : Type) where
  jobs : List (Job α)
  state : σ

namespace Batch

variable {α σ : Type}

def make (contexts : List Context) (state : σ) : Batch α σ :=
  ⟨contexts.map fun context => ⟨context, .waiting, none⟩, state⟩

/-- What happens to the job at an index. -/
inductive Event where
  | start (index : Nat)
  | finish (index : Nat)
  | timeout (index : Nat)
deriving DecidableEq

/-- The job with a reply, unless it has one already. -/
def answer (job : Job α) (reply : Except ServiceError α) : Job α :=
  { job with reply := job.reply.or (some reply) }

def step (limit : Duration) (work : Work α σ) (batch : Batch α σ) : Event → Batch α σ
  | .start index =>
    match batch.jobs[index]? with
    | some job =>
      if job.progress = .waiting then
        { batch with jobs := batch.jobs.set index { job with progress := .running } }
      else batch
    | none => batch
  | .finish index =>
    match batch.jobs[index]? with
    | some job =>
      if job.progress = .running then
        let (result, state) := work job.context batch.state
        let job := answer { job with progress := .ended } (result.mapError .brokenDown)
        ⟨batch.jobs.set index job, state⟩
      else batch
    | none => batch
  | .timeout index =>
    match batch.jobs[index]? with
    | some job => { batch with jobs := batch.jobs.set index (answer job (.error (.timeout limit))) }
    | none => batch

def run (limit : Duration) (work : Work α σ) (batch : Batch α σ) (events : List Event) :
    Batch α σ :=
  events.foldl (step limit work) batch

def replies (batch : Batch α σ) : List (Option (Except ServiceError α)) :=
  batch.jobs.map Job.reply

/-- All jobs start, those that take longer than the limit run out of time, and all end. -/
def schedule (limit : Duration) (delays : List Duration) : List Event :=
  let late := delays.zipIdx.filter fun (delay, _) => limit.nanos < delay.nanos
  (List.range delays.length).map .start ++ late.map (fun (_, index) => .timeout index) ++
    (List.range delays.length).map .finish

end Batch
end Verdict
