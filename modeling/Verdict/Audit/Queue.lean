import Verdict.Audit.Sink

/-!
# Audit queues

A queue takes records without waiting and hands them, one at a time and in order, to a store that
may refuse them.  The writer that hands them on can be stopped at any moment, which discards what is
waiting.  `Queue.step` is one event in the life of a queue.
-/

namespace Verdict

inductive Writer where
  | running
  /-- It has ended, after the last handle was dropped and the queue was empty. -/
  | ended
  /-- It was stopped from outside. -/
  | stopped
deriving DecidableEq

/-- A queue between its handles and its writer. -/
structure Queue (α : Type) where
  slots : Nat
  handles : Nat
  writer : Writer
  waiting : List α
  /-- The record that the writer is handing to the store. -/
  inHand : Option α
  received : List α
  stored : List α
  discarded : List α

namespace Queue

variable {α : Type}

/-- A queue with one handle.  It has at least one slot. -/
def make (capacity : Nat) : Queue α :=
  { slots := max capacity 1
    handles := 1
    writer := .running
    waiting := []
    inHand := none
    received := []
    stored := []
    discarded := [] }

def remaining (queue : Queue α) : Nat :=
  queue.slots - queue.waiting.length

def record : Sink α (Queue α) := fun record queue =>
  if queue.writer ≠ .running then (.error .closed, queue)
  else if queue.slots ≤ queue.waiting.length then (.error .queueFull, queue)
  else (.ok (), { queue with waiting := queue.waiting ++ [record] })

def clone (queue : Queue α) : Queue α :=
  { queue with handles := queue.handles + 1 }

def drop (queue : Queue α) : Queue α :=
  { queue with handles := queue.handles - 1 }

/-- The writer takes the next record if it has none in hand.  It ends when there is no record left
and no handle to bring another one. -/
def receive (queue : Queue α) : Queue α :=
  if queue.writer = .running ∧ queue.inHand.isNone then
    match queue.waiting with
    | record :: rest =>
      { queue with
        waiting := rest
        inHand := some record
        received := queue.received ++ [record] }
    | [] => if queue.handles = 0 then { queue with writer := .ended } else queue
  else queue

/-- The store takes or refuses the record in the hand of the writer. -/
def settle (accepted : Bool) (queue : Queue α) : Queue α :=
  match queue.inHand with
  | some record =>
    { queue with
      inHand := none
      stored := if accepted then queue.stored ++ [record] else queue.stored }
  | none => queue

def abort (queue : Queue α) : Queue α :=
  if queue.writer = .running then
    { queue with
      writer := .stopped
      waiting := []
      inHand := none
      discarded := queue.waiting }
  else queue

inductive Event (α : Type) where
  | record (value : α)
  | clone
  | drop
  | receive
  | settle (accepted : Bool)
  | abort

/-- The queue after an event.  Only a handle can bring a record or another handle. -/
def step (queue : Queue α) : Event α → Queue α
  | .record value => if queue.handles = 0 then queue else (record value queue).2
  | .clone => if queue.handles = 0 then queue else queue.clone
  | .drop => queue.drop
  | .receive => queue.receive
  | .settle accepted => queue.settle accepted
  | .abort => queue.abort

def run (queue : Queue α) (events : List (Event α)) : Queue α :=
  events.foldl step queue

/-- The queue after the writer has handed on everything that was waiting. -/
def drain (accepts : α → Bool) (queue : Queue α) : Queue α :=
  queue.waiting.foldl (fun queue record => queue.receive.settle (accepts record)) queue

/-- The queue after its handles have been given up and the writer has come to its end. -/
def finish (accepts : α → Bool) (queue : Queue α) : Queue α :=
  receive { drain accepts queue with handles := 0 }

end Queue
end Verdict
