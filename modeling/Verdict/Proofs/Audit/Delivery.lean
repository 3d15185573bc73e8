import Verdict.Audit.Queue
import Mathlib.Tactic.Common

/-!
# What becomes of the records in a queue

A record that has been accepted is in one of three places: the writer has received it, it is
waiting, or it was waiting when the writer was stopped.  One event keeps this
(`Queue.Accounts.step`), so it holds after any events (`Queue.accounts_run`).
-/

namespace Verdict
namespace Queue

variable {α β : Type}

/-! ## Observations -/

def log (observe : Queue α → Event α → List β) (queue : Queue α) : List (Event α) → List β
  | [] => []
  | event :: rest => observe queue event ++ log observe (queue.step event) rest

def acceptedAt (queue : Queue α) : Event α → List α
  | .record value =>
    if queue.handles = 0 then []
    else
      match (record value queue).1 with
      | .ok () => [value]
      | .error _ => []
  | _ => []

/-- The record whose handing over to the store comes to its end at an event, and whether the store
has taken it. -/
def deliveredAt (queue : Queue α) : Event α → List (α × Bool)
  | .settle taken => queue.inHand.toList.map fun record => (record, taken)
  | _ => []

def accepted (queue : Queue α) (events : List (Event α)) : List α :=
  log acceptedAt queue events

/-- The records that the store was handed, in order, and whether it has taken them. -/
def deliveries (queue : Queue α) (events : List (Event α)) : List (α × Bool) :=
  log deliveredAt queue events

/-! ## What one operation does -/

variable {queue : Queue α}

theorem record_of_not_running (value : α) (closed : queue.writer ≠ .running) :
    record value queue = (.error .closed, queue) :=
  if_pos closed

theorem record_of_full (value : α) (running : queue.writer = .running)
    (full : queue.slots ≤ queue.waiting.length) :
    record value queue = (.error .queueFull, queue) := by
  have hopen : ¬ queue.writer ≠ .running := not_not_intro running
  rw [record, if_neg hopen, if_pos full]

theorem record_of_free (value : α) (running : queue.writer = .running)
    (free : queue.waiting.length < queue.slots) :
    record value queue = (.ok (), { queue with waiting := queue.waiting ++ [value] }) := by
  have hopen : ¬ queue.writer ≠ .running := not_not_intro running
  rw [record, if_neg hopen, if_neg (Nat.not_le.mpr free)]

/-- A record is refused by a closed queue and by a full one, and both stay as they are. -/
theorem record_cases (value : α) (queue : Queue α) :
    (queue.writer ≠ .running ∧ record value queue = (.error .closed, queue)) ∨
      (queue.writer = .running ∧ queue.slots ≤ queue.waiting.length ∧
        record value queue = (.error .queueFull, queue)) ∨
      (queue.writer = .running ∧ queue.waiting.length < queue.slots ∧
        record value queue = (.ok (), { queue with waiting := queue.waiting ++ [value] })) := by
  by_cases running : queue.writer = .running
  · by_cases full : queue.slots ≤ queue.waiting.length
    · exact Or.inr (Or.inl ⟨running, full, record_of_full value running full⟩)
    · have free : queue.waiting.length < queue.slots := Nat.not_le.mp full
      exact Or.inr (Or.inr ⟨running, free, record_of_free value running free⟩)
  · exact Or.inl ⟨running, record_of_not_running value running⟩

/-- The writer takes the record that has been waiting for longest, or it ends for want of handles,
or nothing happens. -/
theorem receive_cases (queue : Queue α) :
    queue.receive = queue ∨
      (queue.writer = .running ∧ queue.inHand = none ∧ ∃ value rest,
        queue.waiting = value :: rest ∧
          queue.receive = { queue with
            waiting := rest
            inHand := some value
            received := queue.received ++ [value] }) ∨
      (queue.writer = .running ∧ queue.inHand = none ∧ queue.waiting = [] ∧ queue.handles = 0 ∧
        queue.receive = { queue with writer := .ended }) := by
  by_cases ready : queue.writer = .running ∧ queue.inHand.isNone
  · have hhand : queue.inHand = none := Option.isNone_iff_eq_none.mp ready.2
    cases hwaiting : queue.waiting with
    | nil =>
        by_cases hhandles : queue.handles = 0
        · refine Or.inr (Or.inr ⟨ready.1, hhand, rfl, hhandles, ?_⟩)
          rw [receive, if_pos ready, hwaiting]
          exact if_pos hhandles
        · refine Or.inl ?_
          rw [receive, if_pos ready, hwaiting]
          exact if_neg hhandles
    | cons value rest =>
        refine Or.inr (Or.inl ⟨ready.1, hhand, value, rest, rfl, ?_⟩)
        rw [receive, if_pos ready, hwaiting]
  · exact Or.inl (if_neg ready)

/-! ## Accounts -/

/-- The state of a queue accounts for the records that have been accepted and for those that the
store was handed. -/
structure Accounts (slots : Nat) (accepted : List α) (deliveries : List (α × Bool))
    (queue : Queue α) : Prop where
  slots_eq : queue.slots = slots
  bounded : queue.waiting.length ≤ slots
  accounted : queue.received ++ queue.waiting ++ queue.discarded = accepted
  handed : queue.writer ≠ .stopped →
    deliveries.map Prod.fst ++ queue.inHand.toList = queue.received
  started : deliveries.map Prod.fst <+: queue.received
  stored : queue.stored = (deliveries.filter Prod.snd).map Prod.fst
  kept : queue.writer ≠ .stopped → queue.discarded = []
  idle : queue.writer ≠ .running → queue.waiting = [] ∧ queue.inHand = none
  abandoned : queue.writer = .ended → queue.handles = 0

theorem accounts_make (capacity : Nat) :
    Accounts (max capacity 1) [] [] (make capacity : Queue α) where
  slots_eq := rfl
  bounded := Nat.zero_le _
  accounted := rfl
  handed := fun _ => rfl
  started := List.prefix_rfl
  stored := rfl
  kept := fun _ => rfl
  idle := fun stopped => absurd rfl stopped
  abandoned := fun ended => by cases ended

namespace Accounts

variable {slots : Nat} {accepted : List α} {deliveries : List (α × Bool)}

theorem record (h : Accounts slots accepted deliveries queue) (value : α) :
    Accounts slots (accepted ++ queue.acceptedAt (.record value)) deliveries
      (queue.step (.record value)) := by
  by_cases hhandles : queue.handles = 0
  · rw [acceptedAt, step, if_pos hhandles, if_pos hhandles, List.append_nil]
    exact h
  · rw [acceptedAt, step, if_neg hhandles, if_neg hhandles]
    rcases record_cases value queue with ⟨-, hrecord⟩ | ⟨-, -, hrecord⟩ | ⟨hrunning, hfree, hrecord⟩
    · rw [hrecord, List.append_nil]
      exact h
    · rw [hrecord, List.append_nil]
      exact h
    · rw [hrecord]
      have hdiscarded : queue.discarded = [] := h.kept (by simp [hrunning])
      have haccepted : queue.received ++ queue.waiting = accepted := by
        simpa [hdiscarded] using h.accounted
      refine { h with bounded := ?_, accounted := ?_, idle := ?_ }
      · rw [h.slots_eq] at hfree
        simpa using Nat.succ_le_of_lt hfree
      · simp [hdiscarded, ← haccepted]
      · exact fun closed => absurd hrunning closed

theorem clone (h : Accounts slots accepted deliveries queue) :
    Accounts slots accepted deliveries (queue.step .clone) := by
  by_cases hhandles : queue.handles = 0
  · rw [step, if_pos hhandles]
    exact h
  · rw [step, if_neg hhandles]
    exact { h with abandoned := fun ended => absurd (h.abandoned ended) hhandles }

theorem drop (h : Accounts slots accepted deliveries queue) :
    Accounts slots accepted deliveries (queue.step .drop) := by
  refine { h with abandoned := ?_ }
  intro ended
  have hhandles : queue.handles = 0 := h.abandoned ended
  exact Nat.sub_eq_zero_of_le (hhandles ▸ Nat.zero_le 1)

theorem receive (h : Accounts slots accepted deliveries queue) :
    Accounts slots accepted deliveries (queue.step .receive) := by
  rw [step]
  rcases receive_cases queue with
    hreceive | ⟨hrunning, hhand, value, rest, hwaiting, hreceive⟩ |
      ⟨hrunning, hhand, hwaiting, hhandles, hreceive⟩
  · rw [hreceive]
    exact h
  · rw [hreceive]
    have hnot : queue.writer ≠ .stopped := by simp [hrunning]
    have hhanded : deliveries.map Prod.fst = queue.received := by
      simpa [hhand] using h.handed hnot
    have hlength : rest.length + 1 ≤ slots := by simpa [hwaiting] using h.bounded
    refine { h with bounded := ?_, accounted := ?_, handed := ?_, started := ?_, idle := ?_ }
    · exact Nat.le_of_succ_le hlength
    · rw [← h.accounted, hwaiting]
      simp
    · intro _
      rw [hhanded]
      rfl
    · rw [hhanded]
      exact List.prefix_append _ _
    · exact fun closed => absurd hrunning closed
  · rw [hreceive]
    exact { h with
      handed := fun _ => h.handed (by simp [hrunning])
      kept := fun _ => h.kept (by simp [hrunning])
      idle := fun _ => ⟨hwaiting, hhand⟩
      abandoned := fun _ => hhandles }

theorem settle (h : Accounts slots accepted deliveries queue) (taken : Bool) :
    Accounts slots accepted (deliveries ++ queue.deliveredAt (.settle taken))
      (queue.step (.settle taken)) := by
  rw [step, Queue.settle, deliveredAt]
  cases hhand : queue.inHand with
  | none =>
      rw [Option.toList_none, List.map_nil, List.append_nil]
      exact h
  | some value =>
      have hrunning : queue.writer = .running := by
        by_contra closed
        have hempty := (h.idle closed).2
        rw [hhand] at hempty
        cases hempty
      have hhanded : deliveries.map Prod.fst ++ [value] = queue.received := by
        simpa [hhand] using h.handed (by simp [hrunning])
      refine { h with handed := ?_, started := ?_, stored := ?_, idle := ?_ }
      · intro _
        simpa using hhanded
      · simp [← hhanded]
      · cases taken <;> simp [h.stored]
      · exact fun closed => absurd hrunning closed

theorem abort (h : Accounts slots accepted deliveries queue) :
    Accounts slots accepted deliveries (queue.step .abort) := by
  rw [step, Queue.abort]
  by_cases hrunning : queue.writer = .running
  · rw [if_pos hrunning]
    have hdiscarded : queue.discarded = [] := h.kept (by simp [hrunning])
    refine { h with
      bounded := Nat.zero_le _, accounted := ?_, handed := ?_, kept := ?_, idle := ?_,
      abandoned := ?_ }
    · rw [← h.accounted, hdiscarded]
      simp
    · exact fun stopped => absurd rfl stopped
    · exact fun stopped => absurd rfl stopped
    · exact fun _ => ⟨rfl, rfl⟩
    · exact fun ended => by cases ended
  · rw [if_neg hrunning]
    exact h

/-- No event loses, repeats or moves an accepted record. -/
theorem step (h : Accounts slots accepted deliveries queue) (event : Event α) :
    Accounts slots (accepted ++ queue.acceptedAt event) (deliveries ++ queue.deliveredAt event)
      (queue.step event) := by
  cases event with
  | record value => simpa [deliveredAt] using h.record value
  | clone => simpa [acceptedAt, deliveredAt] using h.clone
  | drop => simpa [acceptedAt, deliveredAt] using h.drop
  | receive => simpa [acceptedAt, deliveredAt] using h.receive
  | settle taken => simpa [acceptedAt] using h.settle taken
  | abort => simpa [acceptedAt, deliveredAt] using h.abort

theorem run (h : Accounts slots accepted deliveries queue) (events : List (Event α)) :
    Accounts slots (accepted ++ queue.accepted events) (deliveries ++ queue.deliveries events)
      (queue.run events) := by
  induction events generalizing queue accepted deliveries with
  | nil => simpa [Queue.accepted, Queue.deliveries, log, Queue.run] using h
  | cons event rest ih =>
      have hrest := ih (h.step event)
      rw [List.append_assoc, List.append_assoc] at hrest
      exact hrest

end Accounts

theorem accounts_run (capacity : Nat) (events : List (Event α)) :
    Accounts (max capacity 1) (accepted (make capacity) events)
      (deliveries (make capacity) events) ((make capacity).run events) :=
  (accounts_make capacity).run events

/-- Nothing that was accepted is lost, repeated or moved, whatever happens to a queue.  Only a full
queue or a closed one refuses a record, and when the writer has ended by itself, every accepted
record has been handed to the store once, in order. -/
theorem run_delivers_accepted (capacity : Nat) (events : List (Event α)) :
    let start : Queue α := make capacity
    let queue := start.run events
    queue.received ++ queue.waiting ++ queue.discarded = start.accepted events ∧
      (queue.writer ≠ .stopped → queue.discarded = []) ∧
      (queue.writer = .stopped → queue.waiting = []) ∧
      queue.waiting.length ≤ max capacity 1 ∧
      (∀ value,
        ((record value queue).1 = .error .queueFull ↔
            queue.writer = .running ∧ queue.waiting.length = max capacity 1) ∧
          ((record value queue).1 = .error .closed ↔ queue.writer ≠ .running) ∧
          ∀ error, (record value queue).1 = .error error → (record value queue).2 = queue) ∧
      queue.stored = ((start.deliveries events).filter Prod.snd).map Prod.fst ∧
      (queue.writer = .ended →
        queue.handles = 0 ∧ (start.deliveries events).map Prod.fst = start.accepted events) := by
  intro start queue
  have h : Accounts (max capacity 1) (start.accepted events) (start.deliveries events) queue :=
    accounts_run capacity events
  refine ⟨h.accounted, h.kept, ?_, h.bounded, ?_, h.stored, ?_⟩
  · intro stopped
    exact (h.idle (by simp [stopped])).1
  · intro value
    have hslots := h.slots_eq
    have hbounded := h.bounded
    rcases record_cases value queue with
      ⟨hclosed, hrecord⟩ | ⟨hopen, hfull, hrecord⟩ | ⟨hopen, hfree, hrecord⟩
    · simp [hrecord, hclosed]
    · have hlength : queue.waiting.length = max capacity 1 := by omega
      simp [hrecord, hopen, hlength]
    · have hlength : queue.waiting.length ≠ max capacity 1 := by omega
      simp [hrecord, hopen, hlength]
  · intro ended
    have hnot : queue.writer ≠ .stopped := by simp [ended]
    obtain ⟨hwaiting, hhand⟩ := h.idle (by simp [ended])
    have hdelivered : (start.deliveries events).map Prod.fst = queue.received := by
      simpa [hhand] using h.handed hnot
    refine ⟨h.abandoned ended, ?_⟩
    calc (start.deliveries events).map Prod.fst
        = queue.received ++ queue.waiting ++ queue.discarded := by
          rw [hdelivered, hwaiting, h.kept hnot, List.append_nil, List.append_nil]
      _ = start.accepted events := h.accounted

def settledEvents : List (Event String) :=
  [.clone, .record "first", .record "surplus", .receive, .record "second", .settle false, .drop,
    .receive, .record "third", .settle true, .drop, .receive, .settle true, .receive]

def abortedEvents : List (Event String) :=
  [.record "first", .receive, .record "second", .abort, .record "late"]

theorem run_delivers_accepted_settledEvents :
    ((make 0).run settledEvents).writer = .ended ∧
      ((make 0).deliveries settledEvents).map Prod.fst = ["first", "second", "third"] ∧
      ((make 0).run settledEvents).stored = ["second", "third"] ∧
      ((make 2).run abortedEvents).writer = .stopped ∧
      ((make 2).run abortedEvents).received ++ ((make 2).run abortedEvents).waiting ++
        ((make 2).run abortedEvents).discarded = ["first", "second"] := by
  have hended : ((make 0).run settledEvents).writer = .ended := rfl
  obtain ⟨-, -, -, -, -, hstored, hdelivered⟩ := run_delivers_accepted 0 settledEvents
  obtain ⟨haccounted, -⟩ := run_delivers_accepted 2 abortedEvents
  refine ⟨hended, (hdelivered hended).2.trans ?_, hstored.trans ?_, rfl, haccounted.trans ?_⟩
  · decide
  · decide
  · decide

end Queue
end Verdict
