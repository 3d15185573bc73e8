import Verdict.Service.Basic
import Mathlib.Data.List.Induction
import Mathlib.Data.List.Nodup
import Mathlib.Tactic.Common

/-!
# Batches under any schedule

What becomes of a job is decided by the events that are about it: whether it has ended
(`Batch.Ended`), and whether its timer fired before that (`Batch.TimedOut`).  One event keeps this
(`Batch.Follows.advance`), so it holds under any schedule (`Batch.follows_run`).  The state that the
jobs share has seen the work of the jobs that have ended, each once, in some order
(`Batch.exists_order`).
-/

namespace Verdict

namespace Batch

variable {α σ : Type}

/-! ## Schedules -/

def Event.index : Event → Nat
  | start index => index
  | finish index => index
  | timeout index => index

/-- The job has started, and it has ended after that. -/
def Ended (index : Nat) (events : List Event) : Prop :=
  [Event.start index, Event.finish index].Sublist events

/-- The timer of the job has fired when the job had not ended. -/
def TimedOut (index : Nat) (events : List Event) : Prop :=
  ∃ before after, events = before ++ .timeout index :: after ∧ ¬ Ended index before

/-- The job has been running, and the event is its end. -/
def Ends (index : Nat) (events : List Event) (event : Event) : Prop :=
  event = .finish index ∧ .start index ∈ events ∧ ¬ Ended index events

variable {index : Nat} {events : List Event} {event : Event}

theorem ended_append_singleton_iff :
    Ended index (events ++ [event]) ↔
      Ended index events ∨ event = .finish index ∧ .start index ∈ events := by
  constructor
  · intro h
    obtain ⟨front, back, hsplit, hfront, hback⟩ := List.sublist_append_iff.mp h
    rcases List.sublist_cons_iff.mp hback with hnil | ⟨rest, rfl, hrest⟩
    · obtain rfl := List.sublist_nil.mp hnil
      rw [List.append_nil] at hsplit
      rw [← hsplit] at hfront
      exact Or.inl hfront
    · obtain rfl := List.sublist_nil.mp hrest
      have hparts : [Event.start index] = front ∧ [Event.finish index] = [event] :=
        List.append_inj' (hsplit : [Event.start index] ++ [Event.finish index] = _) rfl
      refine Or.inr ⟨(List.singleton_inj.mp hparts.2).symm, ?_⟩
      rw [← hparts.1] at hfront
      exact List.singleton_sublist.mp hfront
  · rintro (h | ⟨rfl, hstart⟩)
    · exact h.trans (List.sublist_append_left events [event])
    · exact (List.singleton_sublist.mpr hstart).append (List.Sublist.refl [Event.finish index])

theorem ended_append_singleton_iff_ends :
    Ended index (events ++ [event]) ↔ Ended index events ∨ Ends index events event := by
  rw [ended_append_singleton_iff]
  by_cases h : Ended index events
  · simp [h]
  · simp [h, Ends]

theorem timedOut_append_singleton_iff :
    TimedOut index (events ++ [event]) ↔
      TimedOut index events ∨ event = .timeout index ∧ ¬ Ended index events := by
  constructor
  · rintro ⟨before, after, hsplit, hbefore⟩
    rcases List.eq_nil_or_concat after with rfl | ⟨middle, last, rfl⟩
    · obtain ⟨rfl, hevent⟩ := List.append_inj' hsplit rfl
      exact Or.inr ⟨List.singleton_inj.mp hevent, hbefore⟩
    · have hmove : events ++ [event] = (before ++ .timeout index :: middle) ++ [last] := by
        rw [hsplit, List.concat_eq_append, List.append_assoc, List.cons_append]
      obtain ⟨rfl, -⟩ := List.append_inj' hmove rfl
      exact Or.inl ⟨before, middle, rfl, hbefore⟩
  · rintro (⟨before, after, rfl, hbefore⟩ | ⟨rfl, hevents⟩)
    · exact ⟨before, after ++ [event], by simp, hbefore⟩
    · exact ⟨events, [], rfl, hevents⟩

theorem TimedOut.mem (h : TimedOut index events) : .timeout index ∈ events := by
  obtain ⟨before, after, rfl, -⟩ := h
  exact List.mem_append_right before List.mem_cons_self

theorem not_ended_nil : ¬ Ended index [] := fun h => by cases h

theorem not_timedOut_nil : ¬ TimedOut index [] := fun h => List.not_mem_nil h.mem

/-! ## One event -/

/-- The job after an event that is about it, if its work has the result given. -/
def advance (limit : Duration) (result : Except Breakdown α) : Event → Job α → Job α
  | .start _, job => if job.progress = .waiting then { job with progress := .running } else job
  | .finish _, job =>
    if job.progress = .running then
      answer { job with progress := .ended } (result.mapError .brokenDown)
    else job
  | .timeout _, job => answer job (.error (.timeout limit))

def share (worked : σ) : Event → Job α → σ → σ
  | .finish _, job, state => if job.progress = .running then worked else state
  | _, _, state => state

variable {limit : Duration} {work : Work α σ} {batch : Batch α σ} {job : Job α}

theorem step_of_none (absent : batch.jobs[event.index]? = none) :
    step limit work batch event = batch := by
  cases event with
  | start index | finish index | timeout index =>
      simp only [Event.index] at absent
      simp only [step, absent]

theorem step_of_some (found : batch.jobs[event.index]? = some job) :
    step limit work batch event =
      ⟨batch.jobs.set event.index (advance limit (work job.context batch.state).1 event job),
        share (work job.context batch.state).2 event job batch.state⟩ := by
  have hself : batch.jobs.set event.index job = batch.jobs := by
    obtain ⟨bound, rfl⟩ := List.getElem?_eq_some_iff.mp found
    exact List.set_getElem_self bound
  cases event with
  | start index =>
      simp only [Event.index] at found hself
      simp only [step, found, advance, share, Event.index]
      by_cases hwaiting : job.progress = .waiting
      · rw [if_pos hwaiting, if_pos hwaiting]
      · rw [if_neg hwaiting, if_neg hwaiting, hself]
  | finish index =>
      simp only [Event.index] at found hself
      simp only [step, found, advance, share, Event.index]
      by_cases hrunning : job.progress = .running
      · rw [if_pos hrunning, if_pos hrunning, if_pos hrunning]
      · rw [if_neg hrunning, if_neg hrunning, if_neg hrunning, hself]
  | timeout index =>
      simp only [Event.index] at found
      simp only [step, found, advance, share, Event.index]

theorem length_jobs_step : (step limit work batch event).jobs.length = batch.jobs.length := by
  cases hjob : batch.jobs[event.index]? with
  | none => rw [step_of_none hjob]
  | some job => rw [step_of_some hjob, List.length_set]

theorem getElem?_step_of_ne {other : Nat} (h : event.index ≠ other) :
    (step limit work batch event).jobs[other]? = batch.jobs[other]? := by
  cases hjob : batch.jobs[event.index]? with
  | none => rw [step_of_none hjob]
  | some job => rw [step_of_some hjob, List.getElem?_set_ne h]

theorem getElem?_step (found : batch.jobs[event.index]? = some job) :
    (step limit work batch event).jobs[event.index]? =
      some (advance limit (work job.context batch.state).1 event job) := by
  obtain ⟨bound, -⟩ := List.getElem?_eq_some_iff.mp found
  rw [step_of_some found, List.getElem?_set_self bound]

theorem context_advance {result : Except Breakdown α} :
    (advance limit result event job).context = job.context := by
  cases event with
  | start index =>
      rw [advance]
      split <;> rfl
  | finish index =>
      rw [advance]
      split <;> rfl
  | timeout index => rfl

theorem state_step_of_not_running
    (h : ∀ index, event = .finish index → ∀ job, batch.jobs[index]? = some job →
      job.progress ≠ .running) :
    (step limit work batch event).state = batch.state := by
  cases hjob : batch.jobs[event.index]? with
  | none => rw [step_of_none hjob]
  | some job =>
      rw [step_of_some hjob]
      cases event with
      | start index => rfl
      | finish index => exact if_neg (h index rfl job hjob)
      | timeout index => rfl

/-! ## What becomes of a job -/

/-- The progress of a job and the answer to its caller are what the events about it make of them,
where the work has the result given. -/
structure Follows (limit : Duration) (result : Except Breakdown α) (index : Nat)
    (events : List Event) (job : Job α) : Prop where
  waiting : job.progress = .waiting ↔ .start index ∉ events
  ended : job.progress = .ended ↔ Ended index events
  late : TimedOut index events → job.reply = some (.error (.timeout limit))
  answered : Ended index events → ¬ TimedOut index events →
    job.reply = some (result.mapError .brokenDown)
  pending : ¬ Ended index events → ¬ TimedOut index events → job.reply = none

namespace Follows

variable {result : Except Breakdown α}

theorem running_iff (h : Follows limit result index events job) :
    job.progress = .running ↔ .start index ∈ events ∧ ¬ Ended index events := by
  have hwaiting := h.waiting
  have hended := h.ended
  cases hprogress : job.progress with
  | waiting =>
      rw [hprogress] at hwaiting
      simp [hwaiting.mp rfl]
  | running =>
      rw [hprogress] at hwaiting hended
      simp only [reduceCtorEq, false_iff, not_not] at hwaiting hended
      simp [hwaiting, hended]
  | ended =>
      rw [hprogress] at hended
      simp [hended.mp rfl]

theorem of_same {later : List Event} (h : Follows limit result index events job)
    (hstart : .start index ∈ later ↔ .start index ∈ events)
    (hended : Ended index later ↔ Ended index events)
    (htimedOut : TimedOut index later ↔ TimedOut index events) :
    Follows limit result index later job := by
  refine ⟨?_, ?_, ?_, ?_, ?_⟩
  · rw [hstart, h.waiting]
  · rw [hended, h.ended]
  · rw [htimedOut]
    exact h.late
  · rw [hended, htimedOut]
    exact h.answered
  · rw [hended, htimedOut]
    exact h.pending

theorem of_ne (h : Follows limit result index events job) (other : event.index ≠ index) :
    Follows limit result index (events ++ [event]) job := by
  refine h.of_same ?_ ?_ ?_
  · have hstart : Event.start index ≠ event := fun heq => other (heq ▸ rfl)
    simp [hstart]
  · rw [ended_append_singleton_iff]
    refine or_iff_left ?_
    rintro ⟨rfl, -⟩
    exact other rfl
  · rw [timedOut_append_singleton_iff]
    refine or_iff_left ?_
    rintro ⟨rfl, -⟩
    exact other rfl

theorem start (h : Follows limit result index events job) :
    Follows limit result index (events ++ [.start index])
      (advance limit result (.start index) job) := by
  have hended : Ended index (events ++ [.start index]) ↔ Ended index events := by
    simp [ended_append_singleton_iff]
  have htimedOut : TimedOut index (events ++ [.start index]) ↔ TimedOut index events := by
    simp [timedOut_append_singleton_iff]
  rw [advance]
  by_cases hwaiting : job.progress = .waiting
  · rw [if_pos hwaiting]
    have hunended : ¬ Ended index events := by simp [← h.ended, hwaiting]
    refine ⟨?_, ?_, ?_, ?_, ?_⟩
    · simp
    · simp [hended, hunended]
    · rw [htimedOut]
      exact h.late
    · exact fun hdone => absurd (hended.mp hdone) hunended
    · rw [hended, htimedOut]
      exact h.pending
  · rw [if_neg hwaiting]
    have hstarted : .start index ∈ events := by simpa [h.waiting] using hwaiting
    exact h.of_same (by simp [hstarted]) hended htimedOut

theorem finish (h : Follows limit result index events job) :
    Follows limit result index (events ++ [.finish index])
      (advance limit result (.finish index) job) := by
  have hended : Ended index (events ++ [.finish index]) ↔
      Ended index events ∨ .start index ∈ events := by
    simp [ended_append_singleton_iff]
  have htimedOut : TimedOut index (events ++ [.finish index]) ↔ TimedOut index events := by
    simp [timedOut_append_singleton_iff]
  rw [advance]
  by_cases hrunning : job.progress = .running
  · rw [if_pos hrunning]
    obtain ⟨hstarted, hunended⟩ := h.running_iff.mp hrunning
    have hdone : Ended index (events ++ [.finish index]) := hended.mpr (Or.inr hstarted)
    refine ⟨?_, ?_, ?_, ?_, ?_⟩
    · simp [answer, hstarted]
    · simp [answer, hdone]
    · rw [htimedOut]
      intro hlate
      simp [answer, h.late hlate]
    · rw [htimedOut]
      intro _ hpunctual
      simp [answer, h.pending hunended hpunctual]
    · exact fun hopen => absurd hdone hopen
  · rw [if_neg hrunning]
    refine h.of_same (by simp) (hended.trans (or_iff_left_of_imp ?_)) htimedOut
    intro hstarted
    by_contra hunended
    exact hrunning (h.running_iff.mpr ⟨hstarted, hunended⟩)

theorem timeout (h : Follows limit result index events job) :
    Follows limit result index (events ++ [.timeout index])
      (advance limit result (.timeout index) job) := by
  have hended : Ended index (events ++ [.timeout index]) ↔ Ended index events := by
    simp [ended_append_singleton_iff]
  have htimedOut : TimedOut index (events ++ [.timeout index]) ↔
      TimedOut index events ∨ ¬ Ended index events := by
    simp [timedOut_append_singleton_iff]
  rw [advance]
  refine ⟨?_, ?_, ?_, ?_, ?_⟩
  · simp [answer, h.waiting]
  · rw [hended, ← h.ended]
    rfl
  · rw [htimedOut]
    by_cases hlate : TimedOut index events
    · intro _
      simp [answer, h.late hlate]
    · intro hnow
      have hunended : ¬ Ended index events := hnow.resolve_left hlate
      simp [answer, h.pending hunended hlate]
  · rw [hended, htimedOut, not_or]
    rintro hdone ⟨hpunctual, -⟩
    simp [answer, h.answered hdone hpunctual]
  · rw [hended, htimedOut, not_or]
    rintro hunended ⟨-, hdone⟩
    exact absurd hunended hdone

theorem nil {context : Context} :
    Follows limit result index [] ⟨context, .waiting, none⟩ := by
  refine ⟨?_, ?_, ?_, ?_, ?_⟩
  · simp
  · simp [not_ended_nil]
  · exact fun h => absurd h not_timedOut_nil
  · exact fun h => absurd h not_ended_nil
  · exact fun _ _ => rfl

/-- One event keeps a job to the events about it. -/
theorem advance (h : Follows limit result index events job) (own : event.index = index) :
    Follows limit result index (events ++ [event]) (Batch.advance limit result event job) := by
  subst own
  cases event with
  | start index => exact h.start
  | finish index => exact h.finish
  | timeout index => exact h.timeout

end Follows

/-! ## Any schedule -/

theorem run_append_singleton :
    batch.run limit work (events ++ [event]) =
      step limit work (batch.run limit work events) event :=
  List.foldl_append

theorem length_jobs_run : (batch.run limit work events).jobs.length = batch.jobs.length := by
  induction events using List.reverseRecOn with
  | nil => rfl
  | append_singleton events event ih => rw [run_append_singleton, length_jobs_step, ih]

theorem filterMap_getElem?_range {β : Type} (l : List β) :
    (List.range l.length).filterMap (l[·]?) = l := by
  induction l with
  | nil => rfl
  | cons head tail ih =>
      rw [List.length_cons, List.range_succ_eq_map, List.filterMap_cons, List.filterMap_map]
      exact congrArg (head :: ·) ih

theorem length_replies_run (limit : Duration) (work : Work α σ) (contexts : List Context)
    (state : σ) (events : List Event) :
    ((make contexts state).run limit work events).replies.length = contexts.length := by
  rw [replies, List.length_map, length_jobs_run, make, List.length_map]

section Independent

variable {result : Context → Except Breakdown α}
  (independent : ∀ context state, (work context state).1 = result context)
  (limit : Duration) (contexts : List Context) (state : σ) (events : List Event)

include independent

/-- If the result of the work does not depend on the shared state, then what becomes of a job under
any schedule is a matter of the events about it. -/
theorem follows_run {context : Context} (found : contexts[index]? = some context) :
    ∃ job, ((make contexts state).run limit work events).jobs[index]? = some job ∧
      job.context = context ∧ Follows limit (result context) index events job := by
  induction events using List.reverseRecOn with
  | nil =>
      refine ⟨⟨context, .waiting, none⟩, ?_, rfl, Follows.nil⟩
      simp [run, make, found]
  | append_singleton events event ih =>
      obtain ⟨job, hjob, hcontext, hfollows⟩ := ih
      rw [run_append_singleton]
      by_cases own : event.index = index
      · subst own
        refine ⟨_, getElem?_step hjob, context_advance.trans hcontext, ?_⟩
        rw [independent, hcontext]
        exact hfollows.advance rfl
      · rw [getElem?_step_of_ne own]
        exact ⟨job, hjob, hcontext, hfollows.of_ne own⟩

theorem getElem?_replies_run {context : Context} (found : contexts[index]? = some context) :
    ∃ job, ((make contexts state).run limit work events).replies[index]? = some job.reply ∧
      Follows limit (result context) index events job := by
  obtain ⟨job, hjob, -, hfollows⟩ := follows_run independent limit contexts state events found
  refine ⟨job, ?_, hfollows⟩
  rw [replies, List.getElem?_map, hjob, Option.map_some]

theorem state_run_of_ends {context : Context} (ends : Ends index events event)
    (found : contexts[index]? = some context) :
    ((make contexts state).run limit work (events ++ [event])).state =
      (work context ((make contexts state).run limit work events).state).2 := by
  obtain ⟨rfl, running⟩ := ends
  obtain ⟨job, hjob, rfl, hfollows⟩ := follows_run independent limit contexts state events found
  have hown : ((make contexts state).run limit work events).jobs[(Event.finish index).index]? =
      some job := hjob
  rw [run_append_singleton, step_of_some hown]
  exact if_pos (hfollows.running_iff.mpr running)

theorem state_run_of_not_ends
    (h : ∀ index, index < contexts.length → ¬ Ends index events event) :
    ((make contexts state).run limit work (events ++ [event])).state =
      ((make contexts state).run limit work events).state := by
  rw [run_append_singleton]
  refine state_step_of_not_running ?_
  rintro index rfl job hjob hrunning
  have bound : index < contexts.length := by
    obtain ⟨hbound, -⟩ := List.getElem?_eq_some_iff.mp hjob
    rwa [length_jobs_run, make, List.length_map] at hbound
  obtain ⟨own, hown, -, hfollows⟩ :=
    follows_run independent limit contexts state events (List.getElem?_eq_getElem bound)
  obtain rfl : own = job := Option.some.inj (hown.symm.trans hjob)
  exact h index bound ⟨rfl, hfollows.running_iff.mp hrunning⟩

/-- The shared state has seen the work of the jobs that have ended, each once, in some order. -/
theorem exists_order :
    ∃ order : List Nat, order.Nodup ∧
      (∀ index, index ∈ order ↔ index < contexts.length ∧ Ended index events) ∧
      ((make contexts state).run limit work events).state =
        (order.filterMap (contexts[·]?)).foldl (fun state context => (work context state).2)
          state := by
  induction events using List.reverseRecOn with
  | nil => exact ⟨[], List.nodup_nil, by simp [not_ended_nil], rfl⟩
  | append_singleton events event ih =>
      obtain ⟨order, hnodup, hmem, hstate⟩ := ih
      -- The jobs stand in the order in which they end; a job ends at one event at most.
      by_cases hends : ∃ index, index < contexts.length ∧ Ends index events event
      · obtain ⟨index, bound, hends⟩ := hends
        have hnew : index ∉ order := fun hold => hends.2.2 ((hmem index).mp hold).2
        refine ⟨order ++ [index], ?_, ?_, ?_⟩
        · exact hnodup.append (List.nodup_singleton index) (List.disjoint_singleton.mpr hnew)
        · intro other
          have hone : Ends other events event ↔ other = index := by
            constructor
            · rintro ⟨rfl, -⟩
              exact Event.finish.inj hends.1
            · rintro rfl
              exact hends
          rw [List.mem_append, hmem, List.mem_singleton, ended_append_singleton_iff_ends, hone]
          constructor
          · rintro (⟨hbound, hended⟩ | rfl)
            · exact ⟨hbound, Or.inl hended⟩
            · exact ⟨bound, Or.inr rfl⟩
          · rintro ⟨hbound, hended | hlast⟩
            · exact Or.inl ⟨hbound, hended⟩
            · exact Or.inr hlast
        · have found : contexts[index]? = some contexts[index] := List.getElem?_eq_getElem bound
          rw [state_run_of_ends independent limit contexts state events hends found,
            List.filterMap_append, List.foldl_append, ← hstate]
          simp [found]
      · rw [not_exists] at hends
        have hnone (index : Nat) (bound : index < contexts.length) : ¬ Ends index events event :=
          fun h => hends index ⟨bound, h⟩
        refine ⟨order, hnodup, ?_, ?_⟩
        · intro other
          rw [hmem, ended_append_singleton_iff_ends]
          refine and_congr_right fun bound => ?_
          rw [or_iff_left (hnone other bound)]
        · rw [state_run_of_not_ends independent limit contexts state events hnone, hstate]

theorem exists_perm (ended : ∀ index, index < contexts.length → Ended index events) :
    ∃ performed : List Context, performed.Perm contexts ∧
      ((make contexts state).run limit work events).state =
        performed.foldl (fun state context => (work context state).2) state := by
  obtain ⟨order, hnodup, hmem, hstate⟩ := exists_order independent limit contexts state events
  refine ⟨order.filterMap (contexts[·]?), ?_, hstate⟩
  have hperm : order.Perm (List.range contexts.length) := by
    refine (List.perm_ext_iff_of_nodup hnodup List.nodup_range).mpr ?_
    intro index
    rw [hmem, List.mem_range]
    exact and_iff_left_of_imp (ended index)
  have hall := hperm.filterMap (contexts[·]?)
  rwa [filterMap_getElem?_range] at hall

end Independent

/-! ## The schedule on which every timer keeps its time -/

variable {delays : List Duration} {delay : Duration}

theorem ended_schedule (bound : index < delays.length) : Ended index (schedule limit delays) := by
  have hstart : [Event.start index].Sublist ((List.range delays.length).map .start) :=
    List.singleton_sublist.mpr (List.mem_map_of_mem (List.mem_range.mpr bound))
  have hfinish : [Event.finish index].Sublist ((List.range delays.length).map .finish) :=
    List.singleton_sublist.mpr (List.mem_map_of_mem (List.mem_range.mpr bound))
  exact (hstart.trans (List.sublist_append_left _ _)).append hfinish

theorem timedOut_schedule_iff (found : delays[index]? = some delay) :
    TimedOut index (schedule limit delays) ↔ limit.nanos < delay.nanos := by
  rw [schedule]
  generalize hevents : List.map _ (List.filter _ _) = late
  have hlate : Event.timeout index ∈ late ↔ limit.nanos < delay.nanos := by
    simp [← hevents, List.mem_zipIdx_iff_getElem?, found]
  rw [← hlate]
  constructor
  · intro hexpired
    simpa using hexpired.mem
  · intro hmem
    obtain ⟨front, back, hsplit⟩ := List.append_of_mem hmem
    refine ⟨(List.range delays.length).map .start ++ front,
      back ++ (List.range delays.length).map .finish, ?_, ?_⟩
    · simp only [hsplit, List.append_assoc, List.cons_append]
    · intro hended
      have hfinish : Event.finish index ∈ (List.range delays.length).map .start ++ front :=
        hended.subset (by simp)
      have hfront : Event.finish index ∈ front := by simpa using hfinish
      have hback : Event.finish index ∈ front ++ .timeout index :: back :=
        List.mem_append_left _ hfront
      rw [← hsplit, ← hevents] at hback
      simp at hback

end Batch

namespace Agent

variable {σ : Type} (agent : Agent σ) (now : Instant) (context : Context)

/-- The record of a decision without feedback, if no evaluator breaks down.  It has the instant `now`
of the whole batch instead of one of its own. -/
def recordAt : Option AuditRecord :=
  (agent.run agent.tracing context).toOption.map fun (decision, traces) =>
    ⟨decision, traces, none, now⟩

theorem decide_fst (feedback : Option Json) (state : σ) :
    (agent.decide now context feedback state).1 =
      (agent.run agent.tracing context).map Prod.fst := by
  cases hrun : agent.run agent.tracing context with
  | error breakdown => simp [decide, decideWith, hrun]
  | ok found => simp [decide, decideWith, hrun]

theorem decide_snd (state : σ) :
    (agent.decide now context none state).2 =
      match agent.recordAt now context with
      | some record => agent.audit record state
      | none => state := by
  cases hrun : agent.run agent.tracing context with
  | error breakdown => simp [decide, decideWith, recordAt, hrun, Except.toOption]
  | ok found => simp [decide, decideWith, recordAt, hrun, Except.toOption]

theorem foldl_decide_snd (contexts : List Context) (state : σ) :
    contexts.foldl (fun state context => (agent.decide now context none state).2) state =
      (contexts.filterMap (agent.recordAt now)).foldl (fun state record => agent.audit record state)
        state := by
  induction contexts generalizing state with
  | nil => rfl
  | cons context rest ih =>
      rw [List.foldl_cons, ih, List.filterMap_cons, decide_snd]
      cases agent.recordAt now context with
      | none => rfl
      | some record => rfl

theorem map_decision_recordAt (state : σ) :
    (agent.recordAt now context).map AuditRecord.decision =
      (agent.decide now context none state).1.toOption := by
  rw [decide_fst, recordAt]
  cases agent.run agent.tracing context with
  | error breakdown => rfl
  | ok found => rfl

theorem foldl_audit_keeping {agent : Agent (List AuditRecord)}
    (keeping : agent.sink = some Sink.keeping) (records kept : List AuditRecord) :
    records.foldl (fun state record => agent.audit record state) kept = kept ++ records := by
  induction records generalizing kept with
  | nil => exact (List.append_nil kept).symm
  | cons record rest ih =>
      have haudit : agent.audit record kept = kept ++ [record] := by
        rw [audit, keeping]
        rfl
      rw [List.foldl_cons, ih, haudit, List.append_assoc, List.singleton_append]

end Agent

namespace Service

variable {σ : Type}

/-- The batch for contexts after the events of a schedule. -/
def batchAfter (service : Service σ) (now : Instant) (contexts : List Context) (state : σ)
    (events : List Batch.Event) : Batch Decision σ :=
  (Batch.make contexts state).run service.config.timeLimit
    (fun context state => service.agent.decide now context none state) events

/-- Whatever the schedule, there is one place for each context, and its caller is answered by the
fate of its own job: with a timeout if its timer fired before the end, else with the decision of the
agent or the breakdown of an evaluator.  When all jobs have ended, the sink has one record for each
context on which no evaluator breaks down, late or not.  A call for a batch is one of these
schedules.  Two conditions are built in: collaborators are stateless (`Evaluator.Deterministic`), as
every evaluation starts without earlier calls, and the clock is pinned, with one instant for the
operators and one for all records. -/
theorem decideBatch_under_any_schedule (service : Service σ) (now : Instant)
    (contexts : List Context) (state : σ) :
    (∀ events,
      let batch := service.batchAfter now contexts state events
      batch.replies.length = contexts.length ∧
      (∀ index context, contexts[index]? = some context →
        (Batch.TimedOut index events →
          batch.replies[index]? = some (some (.error (.timeout service.config.timeLimit)))) ∧
        (Batch.Ended index events → ¬ Batch.TimedOut index events → ∀ other,
          batch.replies[index]? =
            some (some ((service.agent.decide now context none other).1.mapError .brokenDown))) ∧
        (¬ Batch.Ended index events → ¬ Batch.TimedOut index events →
          batch.replies[index]? = some none)) ∧
      ((∀ index, index < contexts.length → Batch.Ended index events) →
        ∃ records, List.Perm records (contexts.filterMap (service.agent.recordAt now)) ∧
          batch.state = records.foldl (fun state record => service.agent.audit record state)
            state)) ∧
    (∀ context other, (service.agent.recordAt now context).map AuditRecord.decision =
      (service.agent.decide now context none other).1.toOption) ∧
    ∃ events,
      (service.decideBatch now contexts state =
        ((service.batchAfter now contexts state events).replies,
          (service.batchAfter now contexts state events).state)) ∧
      (∀ index, index < contexts.length → Batch.Ended index events) ∧
      ∀ index context, contexts[index]? = some context →
        (Batch.TimedOut index events ↔ service.config.timeLimit.nanos <
          (Agent.delay context service.agent.evaluators).nanos) := by
  have independent (context : Context) (state : σ) :
      (service.agent.decide now context none state).1 =
        (service.agent.run service.agent.tracing context).map Prod.fst :=
    service.agent.decide_fst now context none state
  refine ⟨?_, service.agent.map_decision_recordAt now, ?_⟩
  · intro events
    refine ⟨?_, ?_, ?_⟩
    · exact Batch.length_replies_run service.config.timeLimit _ contexts state events
    · intro index context found
      obtain ⟨job, hreply, hfollows⟩ := Batch.getElem?_replies_run independent
        service.config.timeLimit contexts state events found
      rw [batchAfter, hreply]
      refine ⟨?_, ?_, ?_⟩
      · intro hlate
        rw [hfollows.late hlate]
      · intro hended hpunctual other
        rw [hfollows.answered hended hpunctual, independent]
      · intro hunended hpunctual
        rw [hfollows.pending hunended hpunctual]
    · intro ended
      obtain ⟨performed, hperm, hstate⟩ := Batch.exists_perm independent service.config.timeLimit
        contexts state events ended
      refine ⟨performed.filterMap (service.agent.recordAt now), hperm.filterMap _, ?_⟩
      rw [batchAfter, hstate, Agent.foldl_decide_snd]
  · refine ⟨Batch.schedule service.config.timeLimit
      (contexts.map fun context => Agent.delay context service.agent.evaluators), rfl, ?_, ?_⟩
    · intro index bound
      exact Batch.ended_schedule (by rwa [List.length_map])
    · intro index context found
      refine Batch.timedOut_schedule_iff ?_
      rw [List.getElem?_map, found, Option.map_some]

def fragile : Evaluator :=
  .other "fragile" .zero fun context =>
    if context.isEmpty then .ok (some ⟨"approve", 1, none, "fragile", none⟩)
    else .error ⟨"fragile"⟩

def fragileService : Service (List AuditRecord) :=
  { agent := ⟨[fragile], .maxWeight, some Sink.keeping, false⟩
    config := ⟨.maxWeight, .ofSeconds 5, false, 1⟩ }

def mixedContexts : List Context := [.empty, ⟨[("age", .null)]⟩, .empty]

def mixedEvents : List Batch.Event :=
  [.start 2, .timeout 0, .start 0, .finish 2, .start 1, .finish 1, .finish 0]

theorem ended_mixedEvents :
    ∀ index, index < mixedContexts.length → Batch.Ended index mixedEvents := by
  unfold Batch.Ended
  decide

theorem decideBatch_under_any_schedule_mixedEvents :
    let batch := fragileService.batchAfter ⟨0, 0⟩ mixedContexts [] mixedEvents
    batch.replies[0]? = some (some (.error (.timeout (.ofSeconds 5)))) ∧
      batch.replies[1]? = some (some (.error (.brokenDown ⟨"fragile"⟩))) ∧
      (∃ decision, batch.replies[2]? = some (some (.ok decision)) ∧
        decision.decision = "approve") ∧
      batch.state.length = 2 := by
  intro batch
  obtain ⟨hschedule, -, -⟩ :=
    decideBatch_under_any_schedule fragileService ⟨0, 0⟩ mixedContexts []
  obtain ⟨-, hreplies, hstate⟩ := hschedule mixedEvents
  have hlate : Batch.TimedOut 0 mixedEvents := ⟨[.start 2], _, rfl, by unfold Batch.Ended; decide⟩
  have hpunctual (index : Nat) (h : Batch.Event.timeout index ∉ mixedEvents) :
      ¬ Batch.TimedOut index mixedEvents := fun hlate => h hlate.mem
  refine ⟨(hreplies 0 _ rfl).1 hlate, ?_, ?_, ?_⟩
  · exact (hreplies 1 _ rfl).2.1 (ended_mixedEvents 1 (by decide)) (hpunctual 1 (by decide)) []
  · exact ⟨_, (hreplies 2 _ rfl).2.1 (ended_mixedEvents 2 (by decide)) (hpunctual 2 (by decide)) [],
      rfl⟩
  · obtain ⟨records, hperm, hrecords⟩ := hstate ended_mixedEvents
    have hkept : batch.state = [] ++ records :=
      hrecords.trans (Agent.foldl_audit_keeping rfl records [])
    rw [hkept, List.nil_append, hperm.length_eq]
    rfl

end Service
end Verdict
