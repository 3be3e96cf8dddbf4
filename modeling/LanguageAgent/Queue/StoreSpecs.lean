import LanguageAgent.Queue.Phases

/-! # What the job store does to a protocol

One rule for each routine of the store, over any protocol that lets a party read
clocks, positions and metrics as it likes.
-/

namespace LanguageAgent.Queue

open Interleaving

variable {σ Phase : Type} {P : Protocol signature Phase} {s : σ} {phase : Phase}

/-- Neutral commands are allowed at any time and leave the phase. -/
def ReadsFreely (P : Protocol signature Phase) : Prop :=
  ∀ phase command reply, Command.isNeutral command → P phase command reply phase

theorem issue_obeys {command : Command}
    {post : Except QueueError (Command.Reply command) → σ → Phase → Prop}
    (moves : ∀ reply, ∃ after, P phase command reply after ∧ post (.ok reply) s after) :
    (Routine.issue (S := signature) command : QueueM σ _).Obeys P post s phase := moves

theorem utcnow_obeys (free : ReadsFreely P) {post : Except QueueError Timestamp → σ → Phase → Prop}
    (next : ∀ now, post (.ok now) s phase) : (utcnow : QueueM σ _).Obeys P post s phase := by
  intro now
  exact ⟨phase, free _ _ _ rfl, next now⟩

theorem jobPosition_obeys (free : ReadsFreely P)
    {post : Except QueueError (Option Nat) → σ → Phase → Prop}
    (next : ∀ position, post (.ok position) s phase) :
    (jobPosition : QueueM σ _).Obeys P post s phase := by
  intro position
  exact ⟨phase, free _ _ _ rfl, next position⟩

theorem incrMetric_obeys (free : ReadsFreely P) {post : Except QueueError Unit → σ → Phase → Prop}
    {field : MetricField} {amount : Rat} (next : post (.ok ()) s phase) :
    (incrMetric field amount : QueueM σ _).Obeys P post s phase := by
  intro _
  exact ⟨phase, free _ _ _ rfl, next⟩

section Stamped

variable (stamps : ∀ now, P phase .utcnow now phase)

include stamps

theorem computeElapsedSeconds_stamped {call : LLMCallJob}
    {post : Except QueueError (Option Rat) → σ → Phase → Prop}
    (next : ∀ elapsed, post (.ok elapsed) s phase) :
    (computeElapsedSeconds call : QueueM σ _).Obeys P post s phase := by
  unfold computeElapsedSeconds
  cases call.completedAt with
  | some endTime => exact next _
  | none =>
      simp only [Routine.obeys_bind]
      exact issue_obeys fun now => ⟨phase, stamps now, next _⟩

theorem serializeLlmCall_stamped {call : LLMCallJob}
    {post : Except QueueError LLMCallJob → σ → Phase → Prop}
    (next : ∀ elapsed, post (.ok (call.withElapsed elapsed)) s phase) :
    (serializeLlmCall call : QueueM σ _).Obeys P post s phase := by
  simp only [serializeLlmCall, Routine.obeys_bind]
  exact computeElapsedSeconds_stamped stamps fun elapsed => next elapsed

theorem saveJobPayload_stamped {jobMeta : JobMeta} {call : LLMCallJob}
    {post : Except QueueError LLMCallJob → σ → Phase → Prop}
    (saves : ∀ elapsed, ∃ after,
      P phase (.saveMeta { jobMeta with llmCall := some (call.withElapsed elapsed) }) () after ∧
        post (.ok (call.withElapsed elapsed)) s after) :
    (saveJobPayload jobMeta call : QueueM σ _).Obeys P post s phase := by
  simp only [saveJobPayload, Routine.obeys_bind]
  refine serializeLlmCall_stamped stamps fun elapsed => ?_
  obtain ⟨after, saved, next⟩ := saves elapsed
  exact fun _ => ⟨after, saved, next⟩

end Stamped

theorem computeElapsedSeconds_obeys (free : ReadsFreely P) {call : LLMCallJob}
    {post : Except QueueError (Option Rat) → σ → Phase → Prop}
    (next : ∀ elapsed, post (.ok elapsed) s phase) :
    (computeElapsedSeconds call : QueueM σ _).Obeys P post s phase :=
  computeElapsedSeconds_stamped (fun _ => free _ _ _ rfl) next

theorem serializeLlmCall_obeys (free : ReadsFreely P) {call : LLMCallJob}
    {post : Except QueueError LLMCallJob → σ → Phase → Prop}
    (next : ∀ elapsed, post (.ok (call.withElapsed elapsed)) s phase) :
    (serializeLlmCall call : QueueM σ _).Obeys P post s phase :=
  serializeLlmCall_stamped (fun _ => free _ _ _ rfl) next

theorem saveJobPayload_obeys (free : ReadsFreely P) {jobMeta : JobMeta} {call : LLMCallJob}
    {post : Except QueueError LLMCallJob → σ → Phase → Prop}
    (saves : ∀ elapsed, ∃ after,
      P phase (.saveMeta { jobMeta with llmCall := some (call.withElapsed elapsed) }) () after ∧
        post (.ok (call.withElapsed elapsed)) s after) :
    (saveJobPayload jobMeta call : QueueM σ _).Obeys P post s phase :=
  saveJobPayload_stamped (fun _ => free _ _ _ rfl) saves

theorem getJob_obeys {site : FetchSite} {post : Except QueueError Snapshot → σ → Phase → Prop}
    (missing : ∃ after, P phase (.fetchJob site) none after ∧
      ∀ error, post (.error (.other error)) s after)
    (found : ∀ job, ∃ after, P phase (.fetchJob site) (some job) after ∧ post (.ok job) s after) :
    (getJob site : QueueM σ _).Obeys P post s phase := by
  intro reply
  cases reply with
  | none =>
      obtain ⟨after, move, next⟩ := missing
      exact ⟨after, move, next _⟩
  | some job => exact found job

/-- `get_job_result` raises when there is no readable payload, and otherwise returns
    the payload with its channel, position and elapsed time filled in. -/
theorem getJobResult_obeys (free : ReadsFreely P) {settings : Settings} {jobId : String}
    {site : FetchSite} {post : Except QueueError LLMCallJob → σ → Phase → Prop}
    (unreadable : ∀ reply, readPayload reply = none →
      ∃ after, P phase (.fetchJob site) reply after ∧ ∀ error, post (.error (.other error)) s after)
    (readable : ∀ reply payload, readPayload reply = some payload →
      ∃ after, P phase (.fetchJob site) reply after ∧
        ∀ call, payload.SameButRead call → post (.ok call) s after) :
    (getJobResult settings jobId site : QueueM σ _).Obeys P post s phase := by
  simp only [getJobResult, Routine.obeys_bind]
  refine getJob_obeys (unreadable none rfl) fun job => ?_
  cases stored : job.payload with
  | none =>
      obtain ⟨after, move, next⟩ := unreadable (some job)
        (by simp only [readPayload, Option.bind_some, stored, Option.filter_none])
      refine ⟨after, move, ?_⟩
      simp only [Routine.resume_ok, stored, Routine.obeys_throw]
      exact next _
  | some payload =>
      by_cases valid : payload.validates
      · obtain ⟨after, move, next⟩ := readable (some job) payload
          (by simp only [readPayload, Option.bind_some, stored, Option.filter_some, valid, if_true])
        refine ⟨after, move, ?_⟩
        simp only [Routine.resume_ok, Routine.obeys_pure, stored, modelValidate, valid, if_true,
          Routine.obeys_bind, Routine.obeys_ite]
        constructor
        · intro _
          refine jobPosition_obeys free fun position => ?_
          simp only [Routine.resume_ok, Routine.obeys_pure, Routine.obeys_bind]
          refine computeElapsedSeconds_obeys free fun elapsed => ?_
          exact next _ ⟨_, _, _, rfl⟩
        · intro _
          refine computeElapsedSeconds_obeys free fun elapsed => ?_
          exact next _ ⟨_, _, _, rfl⟩
      · obtain ⟨after, move, next⟩ := unreadable (some job)
          (by simp [readPayload, stored, Option.filter_some, valid])
        refine ⟨after, move, ?_⟩
        simp only [Routine.resume_ok, stored, modelValidate, valid, Routine.obeys_bind,
          Bool.false_eq_true, if_false, Routine.obeys_throw]
        exact next _

theorem isCancelRequested_obeys (free : ReadsFreely P) {settings : Settings} {jobId : String}
    {site : FetchSite} {post : Except QueueError Bool → σ → Phase → Prop}
    (unreadable : ∀ reply, readPayload reply = none →
      ∃ after, P phase (.fetchJob site) reply after ∧ ∀ error, post (.error (.other error)) s after)
    (readable : ∀ reply payload, readPayload reply = some payload →
      ∃ after, P phase (.fetchJob site) reply after ∧ post (.ok payload.cancelRequested) s after) :
    (isCancelRequested settings jobId site : QueueM σ _).Obeys P post s phase := by
  simp only [isCancelRequested, Routine.obeys_bind]
  refine getJobResult_obeys free unreadable fun reply payload read => ?_
  obtain ⟨after, move, next⟩ := readable reply payload read
  refine ⟨after, move, ?_⟩
  rintro call ⟨channel, position, elapsed, rfl⟩
  exact next

end LanguageAgent.Queue
