import LanguageAgent.Interleaving.Evaluation
import LanguageAgent.Queue.Conformance
import LanguageAgent.Queue.Runs

/-! # What a waiter reads

`get_job_result` and `get_job_status` of the API process while nobody else moves.
-/

namespace LanguageAgent.Queue

open Interleaving

/-- A routine of a waiter, or a part of it, while nobody else moves. -/
abbrev ReadsAlone (waiter : Nat) {α : Type} (m : QueueM Unit α) (w : World) (out : Except QueueError α) (w' : World) : Prop :=
  m.Evaluates machine (.wait waiter) () w out () w'

section Reads

variable {settings : Settings} {jobId : String} {waiter : Nat} {w w' w'' : World} {site : FetchSite}
  {call payload : LLMCallJob} {job : RQJob}

theorem World.SameStore.trans (first : w.SameStore w') (second : w'.SameStore w'') : w.SameStore w'' where
  env := second.env.trans first.env
  job := second.job.trans first.job
  queued := second.queued.trans first.queued
  events := second.events.trans first.events
  running := second.running.trans first.running
  workerLost := second.workerLost.trans first.workerLost
  reruns := second.reruns.trans first.reruns

theorem World.sameStore_ask {party : Party} : w.SameStore (w.ask party) := ⟨rfl, rfl, rfl, rfl, rfl, rfl, rfl⟩

theorem computeElapsedSeconds_alone : ∃ elapsed w', ReadsAlone waiter (computeElapsedSeconds call) w (.ok elapsed) w' ∧
    w.SameStore w' := by
  unfold computeElapsedSeconds
  cases call.completedAt with
  | some endTime => exact ⟨_, _, .pure, .refl⟩
  | none => exact ⟨_, _, (Routine.Evaluates.issue rfl).bind .pure, World.sameStore_ask⟩

theorem serializeLlmCall_alone : ∃ elapsed w',
    ReadsAlone waiter (serializeLlmCall call) w (.ok (call.withElapsed elapsed)) w' ∧ w.SameStore w' := by
  obtain ⟨elapsed, w', computed, same⟩ := @computeElapsedSeconds_alone waiter w call
  exact ⟨elapsed, w', computed.bind .pure, same⟩

theorem getJob_alone {job : Snapshot} (found : w.snapshot = some job) : ReadsAlone waiter (getJob site) w (.ok job) w := by
  have answered : machine.exec (.wait waiter) (.fetchJob site) w = some (some job, w) := by
    rw [← found]
    rfl
  exact (Routine.Evaluates.issue answered).bind .pure

/-- A readable record is returned, up to what is computed anew. -/
theorem getJobResult_alone (readable : readPayload w.snapshot = some payload) :
    ∃ result w', ReadsAlone waiter (getJobResult settings jobId site) w (.ok result) w' ∧
      payload.SameButRead result ∧ w.SameStore w' := by
  obtain ⟨job, found, read⟩ := Option.bind_eq_some_iff.mp readable
  obtain ⟨stored, valid⟩ := Option.filter_eq_some_iff.mp read
  have validated : ReadsAlone waiter (modelValidate payload) w (.ok payload) w := by
    simp only [modelValidate, valid, if_true]
    exact .pure
  let named : LLMCallJob :=
    { payload with streamChannel := some (payload.streamChannel.getD (getStreamChannel settings jobId)) }
  by_cases queued : payload.status = .queued
  · let placed := { named with queuePosition := w.env.position (.wait waiter) (w.asked (.wait waiter)) }
    obtain ⟨elapsed, w', timed, same⟩ := @serializeLlmCall_alone waiter (w.ask (.wait waiter)) placed
    refine ⟨placed.withElapsed elapsed, w', (getJob_alone found).bind ?_, ⟨_, _, _, rfl⟩, World.sameStore_ask.trans same⟩
    simp only [stored]
    refine validated.bind ?_
    rw [if_pos queued]
    exact (Routine.Evaluates.issue rfl).bind (Routine.Evaluates.pure.bind timed)
  · obtain ⟨elapsed, w', timed, same⟩ := @serializeLlmCall_alone waiter w named
    refine ⟨named.withElapsed elapsed, w', (getJob_alone found).bind ?_, ⟨_, _, _, rfl⟩, same⟩
    simp only [stored]
    refine validated.bind ?_
    rw [if_neg queued]
    exact Routine.Evaluates.pure.bind timed

theorem getJobResult_alone_unreadable (unreadable : readPayload w.snapshot = none) :
    ∃ error, ReadsAlone waiter (getJobResult settings jobId site) w (.error error) w := by
  unfold getJobResult
  cases found : w.snapshot with
  | none =>
      have answered : machine.exec (.wait waiter) (.fetchJob site) w = some (none, w) := by
        rw [← found]
        rfl
      have missing : ReadsAlone waiter (getJob site) w (.error (.other
          { className := "NoSuchJobError", message := "No such job" })) w :=
        (Routine.Evaluates.issue answered).bind .throw
      exact ⟨_, missing.bind_raised⟩
  | some job =>
      rw [found] at unreadable
      cases stored : job.payload with
      | none =>
          refine ⟨.other { className := "RuntimeError", message := "LLM job '" ++ jobId ++ "' has no result payload." },
            (getJob_alone found).bind ?_⟩
          simp only [stored]
          exact .throw
      | some payload =>
          have invalid : payload.validates = false := by
            simpa [readPayload, stored, Option.filter_some] using unreadable
          have rejected : ∃ error, ReadsAlone waiter (modelValidate payload) w (.error error) w := by
            simp only [modelValidate, invalid, Bool.false_eq_true, if_false]
            exact ⟨_, .throw⟩
          obtain ⟨error, rejected⟩ := rejected
          refine ⟨error, (getJob_alone found).bind ?_⟩
          simp only [stored]
          exact rejected.bind_raised

/-- RQ's status is laid over the record that is read. -/
theorem getJobStatus_alone (found : w.job = some job) (readable : readPayload w.snapshot = some payload) :
    ∃ status w', ReadsAlone waiter (getJobStatus settings jobId) w (.ok status) w' ∧
      status.status = (overlayStatus payload job.status).status ∧ w.SameStore w' := by
  obtain ⟨result, first, reads, same, kept⟩ := @getJobResult_alone settings jobId waiter w .statusRecord payload readable
  have overlaid : (overlayStatus result job.status).status = (overlayStatus payload job.status).status := by
    obtain ⟨_, _, _, rfl⟩ := same
    exact overlayStatus_status rfl
  have rqStatus : ReadsAlone waiter getRqStatus first (.ok job.status) first := by
    apply Routine.Evaluates.issue
    change (first.job.map fun job => (job.status, first)) = _
    rw [kept.job, found]
    rfl
  by_cases pending : job.status.isPending
  · let placed := { overlayStatus result job.status with
      queuePosition := first.env.position (.wait waiter) (first.asked (.wait waiter)) }
    obtain ⟨elapsed, w', timed, later⟩ := @serializeLlmCall_alone waiter (first.ask (.wait waiter)) placed
    refine ⟨placed.withElapsed elapsed, w', reads.bind (rqStatus.bind ?_), overlaid,
      kept.trans (World.sameStore_ask.trans later)⟩
    rw [if_pos pending]
    exact (Routine.Evaluates.issue rfl).bind (Routine.Evaluates.pure.bind timed)
  · obtain ⟨elapsed, w', timed, later⟩ := @serializeLlmCall_alone waiter first (overlayStatus result job.status)
    refine ⟨(overlayStatus result job.status).withElapsed elapsed, w', reads.bind (rqStatus.bind ?_), overlaid,
      kept.trans later⟩
    rw [if_neg pending]
    exact Routine.Evaluates.pure.bind timed

/-- A status that is returned is RQ's laid over a readable record. -/
theorem getJobStatus_returned {status : LLMCallJob}
    (returned : ReadsAlone waiter (getJobStatus settings jobId) w (.ok status) w') :
    ∃ job payload, w.job = some job ∧ readPayload w.snapshot = some payload ∧
      status.status = (overlayStatus payload job.status).status ∧ w.SameStore w' := by
  cases readable : readPayload w.snapshot with
  | none =>
      obtain ⟨error, raises⟩ := @getJobResult_alone_unreadable settings jobId waiter w .statusRecord readable
      cases (returned.unique raises.bind_raised).1
  | some payload =>
      obtain ⟨read, found, _⟩ := Option.bind_eq_some_iff.mp readable
      obtain ⟨job, stored, _⟩ := Option.map_eq_some_iff.mp found
      obtain ⟨shown, later, evaluates, overlaid, same⟩ := @getJobStatus_alone settings jobId waiter w payload job stored readable
      obtain ⟨out, rfl⟩ := returned.unique evaluates
      cases out
      exact ⟨job, payload, stored, rfl, overlaid, same⟩

end Reads

end LanguageAgent.Queue
