import LanguageAgent.Interleaving.Matching
import LanguageAgent.Queue.Conformance

/-! # A job taken before its record is stored

`enqueue_llm_call` pushes the job before it stores the record. Up to its first check the
worker does not depend on the record: an attempt that starts from the bare argument goes on
as one that starts from the record does, once its check has found a payload.
-/

namespace LanguageAgent.Queue

open Interleaving

/-! ## Reads leave the locals alone -/

section Reads

variable {σ : Type} {settings : Settings} {jobId : String} {site : FetchSite}

private theorem computeElapsedSeconds_detached {call : LLMCallJob} :
    (computeElapsedSeconds call : QueueM σ (Option Rat)).Detached := by
  unfold computeElapsedSeconds
  cases call.completedAt with
  | none => exact .bind .issue fun _ => .pure
  | some ended => exact .pure

/-- With a payload that validates, `get_job_result` does not look at the locals. -/
private theorem getJobResult_detached : ∃ rest : Snapshot → QueueM σ LLMCallJob,
    getJobResult settings jobId site = (getJob site >>= rest) ∧
      ∀ job payload, job.payload = some payload → payload.validates → (rest job).Detached := by
  refine ⟨_, rfl, fun job payload found valid => ?_⟩
  have timed : ∀ call : LLMCallJob, (do
      let elapsed ← computeElapsedSeconds call
      pure { call with elapsedSeconds := elapsed } : QueueM σ LLMCallJob).Detached :=
    fun _ => .bind computeElapsedSeconds_detached fun _ => .pure
  simp only [found, modelValidate, valid, if_true]
  refine .bind .pure fun call => .ite ?_ (.bind .pure timed)
  exact .bind .issue fun position => .bind .pure timed

/-- Nor does a check that finds one. -/
private theorem isCancelRequested_detached : ∃ rest : Option Snapshot → QueueM σ Bool,
    (∀ locals, (isCancelRequested settings jobId site : QueueM σ Bool) locals =
      .issue (.fetchJob site) fun reply => rest reply locals) ∧
    ∀ reply, (readPayload reply).isSome → (rest reply).Detached := by
  obtain ⟨rest, reads, detached⟩ := @getJobResult_detached σ settings jobId site
  unfold isCancelRequested
  rw [reads]
  refine ⟨_, fun _ => rfl, fun reply readable => ?_⟩
  obtain ⟨payload, read⟩ := Option.isSome_iff_exists.mp readable
  obtain ⟨job, rfl, found⟩ := Option.bind_eq_some_iff.mp read
  obtain ⟨stored, valid⟩ := Option.filter_eq_some_iff.mp found
  exact (detached job payload stored valid).bind fun _ => .pure

end Reads

/-! ## The elapsed time is replaced at the next save -/

/-- The `meta` of the job once `enqueue_llm_call` has stored the record. -/
def recordedMeta (payload : LLMCallJob) (elapsed : Option Rat) : JobMeta :=
  { llmCall := some (payload.withElapsed elapsed) }

section FirstSave

variable {payload call : LLMCallJob} {elapsed : Option Rat}

private theorem finalizeCancelledJob_recorded {message : String} :
    finalizeCancelledJob message ⟨recordedMeta payload elapsed, call.withElapsed elapsed, false⟩ =
      finalizeCancelledJob message ⟨{}, call, false⟩ := rfl

private theorem markProcessing_recorded :
    markProcessing ⟨recordedMeta payload elapsed, call.withElapsed elapsed, false⟩ =
      markProcessing ⟨{}, call, false⟩ := by
  -- whether the clock is read again depends on `completed_at` alone
  obtain ⟨_, _, _, _, _, _, _, _, _, completedAt⟩ := call
  cases completedAt <;> rfl

end FirstSave

/-! ## One attempt from either -/

section Attempt

variable {settings : Settings} {payload : LLMCallJob} {elapsed : Option Rat}

private theorem loadCall_bare (valid : payload.validates) :
    loadCall payload ⟨{}, payload, false⟩ = .done (.ok (), ⟨{}, payload, false⟩) := by
  change Program.bind ((if payload.validates = true then pure payload else throw _ : WorkerM LLMCallJob) _) _ = _
  rw [if_pos valid]
  rfl

private theorem loadCall_recorded (valid : payload.validates) :
    loadCall payload ⟨recordedMeta payload elapsed, payload, false⟩ =
      .done (.ok (), ⟨recordedMeta payload elapsed, payload.withElapsed elapsed, false⟩) := by
  change Program.bind ((if payload.validates = true then pure (payload.withElapsed elapsed) else throw _ :
    WorkerM LLMCallJob) _) _ = _
  rw [if_pos valid]
  rfl

/-- `process_llm_call` as RQ calls it with what it has read of the job. -/
def attemptFrom (settings : Settings) (payload : LLMCallJob) (jobMeta : JobMeta) :
    Program signature (Outcome × JobMeta) :=
  (processLlmCall settings payload ⟨jobMeta, payload, false⟩).bind fun out => .done (out.1, out.2.jobMeta)

/-- Both make the first check next, and go on as one once it has found a payload. -/
def CheckAlike {α : Type} (p p' : Program signature α) : Prop :=
  ∃ next next', p = .issue (.fetchJob .startCheck) next ∧ p' = .issue (.fetchJob .startCheck) next' ∧
    ∀ reply, (readPayload reply).isSome → next' reply = next reply

theorem CheckAlike.bind {α β : Type} {p p' : Program signature α} (alike : CheckAlike p p')
    (f : α → Program signature β) : CheckAlike (p.bind f) (p'.bind f) := by
  obtain ⟨next, next', rfl, rfl, same⟩ := alike
  exact ⟨_, _, rfl, rfl, fun reply readable => by rw [same reply readable]⟩

/-- An attempt checks first, and what it has loaded makes no difference to what comes after. -/
theorem attemptFrom_alike (valid : payload.validates) :
    CheckAlike (attemptFrom settings payload {}) (attemptFrom settings payload (recordedMeta payload elapsed)) := by
  obtain ⟨rest, checks, detached⟩ := @isCancelRequested_detached WorkerLocals settings payload.jobId .startCheck
  unfold attemptFrom
  apply CheckAlike.bind
  change CheckAlike ((loadCall payload ⟨{}, payload, false⟩).bind _)
    ((loadCall payload ⟨recordedMeta payload elapsed, payload, false⟩).bind _)
  rw [loadCall_recorded valid, loadCall_bare valid]
  change CheckAlike
    ((((isCancelRequested settings payload.jobId .startCheck : WorkerM Bool) ⟨{}, payload, false⟩).bind _).bind _)
    ((((isCancelRequested settings payload.jobId .startCheck : WorkerM Bool)
      ⟨recordedMeta payload elapsed, payload.withElapsed elapsed, false⟩).bind _).bind _)
  rw [checks, checks]
  refine ⟨_, _, rfl, rfl, fun reply readable => Eq.symm (Program.Matches.eq ?_)⟩
  have same := detached reply readable ⟨{}, payload, false⟩
    ⟨recordedMeta payload elapsed, payload.withElapsed elapsed, false⟩
  refine Program.Matches.bind (R := fun out out' => ∃ requested : Bool,
      out = (.ok requested, (⟨{}, payload, false⟩ : WorkerLocals)) ∧
      out' = (.ok requested, (⟨recordedMeta payload elapsed, payload.withElapsed elapsed, false⟩ : WorkerLocals)))
    (same.bind ?_) ?_
  · rintro _ _ ⟨requested, rfl, rfl⟩
    exact .done ⟨requested, rfl, rfl⟩
  · rintro _ _ ⟨requested, rfl, rfl⟩
    apply Program.Matches.of_eq
    cases requested with
    | true => exact finalizeCancelledJob_recorded.symm
    | false =>
        change (markProcessing ⟨{}, payload, false⟩).bind _ =
          (markProcessing ⟨recordedMeta payload elapsed, payload.withElapsed elapsed, false⟩).bind _
        rw [markProcessing_recorded]

end Attempt

/-! ## Up to the first check -/

/-- Commands that move the job through RQ's states. -/
def Command.movesJob : Command → Bool
  | .pop | .setStatus _ => true
  | _ => false

/-- Both mark the job started and then check it alike. -/
def StartAlike (p p' : Program signature Outcome) : Prop :=
  ∃ next next', p = .issue (.setStatus .started) next ∧ p' = .issue (.setStatus .started) next' ∧
    CheckAlike (next ()) (next' ())

/-- Until it first looks for the record, the program goes on alike whether it is stored or not. -/
def Unread (payload : LLMCallJob) : Program signature Outcome → Prop
  | .done _ => False
  | .issue (.fetchJob .dequeue) next =>
      Unread payload (next (some ⟨payload, {}, none⟩)) ∧ ∀ elapsed,
        StartAlike (next (some ⟨payload, {}, none⟩)) (next (some ⟨payload, recordedMeta payload elapsed, none⟩))
  | .issue (.fetchJob .startCheck) _ => True
  | .issue command next => command.movesJob ∧ ∀ reply, Unread payload (next reply)

section Unread

variable {settings : Settings} {payload : LLMCallJob}

private theorem runAttempt_unread {raised : QueueError → JobMeta → Program signature Outcome}
    (valid : payload.validates) : Unread payload ((runAttempt settings).bind (settle raised)) := by
  have alike : ∀ elapsed, CheckAlike ((attemptFrom settings payload {}).bind (settle raised))
      ((attemptFrom settings payload (recordedMeta payload elapsed)).bind (settle raised)) :=
    fun elapsed => (attemptFrom_alike valid).bind _
  refine ⟨rfl, fun _ => ⟨⟨rfl, fun _ => ?_⟩, fun elapsed => ⟨_, _, rfl, rfl, alike elapsed⟩⟩⟩
  obtain ⟨next, _, checks, _⟩ := alike none
  change Unread payload ((attemptFrom settings payload {}).bind (settle raised))
  rw [checks]
  trivial

theorem runJob_unread (valid : payload.validates) (retriesLeft : Nat) : Unread payload (runJob settings retriesLeft) := by
  cases retriesLeft with
  | zero => exact runAttempt_unread valid
  | succ retriesLeft => exact runAttempt_unread valid

end Unread

end LanguageAgent.Queue
