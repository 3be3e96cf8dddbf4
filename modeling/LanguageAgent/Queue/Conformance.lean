import LanguageAgent.Queue.AttemptConformance

/-! # The routines obey their protocols -/

namespace LanguageAgent.Queue

open Interleaving

/-! ## The API -/

section Admission

variable {settings : Settings} {σ Phase : Type} {P : Protocol signature Phase} {s : σ} {phase : Phase}

/-- A party that may read in this phase may estimate the wait in it. -/
theorem estimateWaitTimeSeconds_obeys
    (reads : ∀ command reply, Command.isNeutral command → P phase command reply phase)
    {post : Except QueueError Rat → σ → Phase → Prop} (next : ∀ estimate, post (.ok estimate) s phase) :
    (estimateWaitTimeSeconds settings).Obeys P post s phase := by
  simp only [estimateWaitTimeSeconds, readAverageGenerationTimeSeconds, readMetrics,
    Routine.obeys_bind]
  refine issue_obeys fun metrics => ⟨phase, reads _ _ rfl, ?_⟩
  simp only [Routine.resume_ok]
  have estimates : ∀ average, (do
      let depth ← Routine.issue (S := signature) .queueDepth
      let active ← Routine.issue (S := signature) .activeJobCount
      pure ((depth + active : Nat) * perJobSeconds settings average) : QueueM σ Rat).Obeys P post s phase := by
    intro average
    simp only [Routine.obeys_bind]
    refine issue_obeys fun depth => ⟨phase, reads _ _ rfl, ?_⟩
    simp only [Routine.resume_ok, Routine.obeys_bind]
    exact issue_obeys fun active => ⟨phase, reads _ _ rfl, next _⟩
  cases metrics .completedJobs <;> cases metrics .totalGenerationSeconds <;> exact estimates _

/-- The check reads the depth, and lets the request pass only below the limit. -/
theorem checkBackpressure_obeys {estimate : Rat} {post : Except QueueError Unit → σ → Phase → Prop}
    (depth : ∀ depth, ∃ after, P phase .queueDepth depth after ∧
      (depth < settings.llmMaxQueueSize → post (.ok ()) s after) ∧ ∀ error, post (.error error) s after) :
    (checkBackpressure settings estimate).Obeys P post s phase := by
  simp only [checkBackpressure, Routine.obeys_bind]
  refine issue_obeys fun length => ?_
  obtain ⟨after, move, passes, saturated⟩ := depth length
  refine ⟨after, move, ?_⟩
  simp only [Routine.resume_ok, Routine.obeys_ite, Routine.obeys_throw, Routine.obeys_pure]
  exact ⟨fun _ => saturated _, fun room => ⟨fun _ => saturated _, fun _ => passes (Nat.lt_of_not_le room)⟩⟩

end Admission

theorem apiMoves_free {settings : Settings} {new : NewCall} : ReadsFreely (ApiMoves settings new) :=
  fun _ _ _ neutral => .neutral neutral

private theorem publishRecord_obeys {settings : Settings} {new : NewCall} {payload : LLMCallJob}
    (type : payload.callType = new.callType) (id : payload.jobId = new.jobId)
    {post : Except QueueError LLMCallJob → Unit → ApiPhase → Prop}
    (next : ∀ saved, post (.ok saved) () .finished) :
    (publishRecord payload).Obeys (ApiMoves settings new) post () (.pushed payload) := by
  simp only [publishRecord, Routine.obeys_bind]
  refine saveJobPayload_obeys apiMoves_free fun elapsed => ⟨_, .save, ?_⟩
  by_cases streaming : new.callType = .streamingTextGeneration
  · simp only [type, streaming, if_true, Routine.resume_ok, Routine.obeys_bind]
    refine jobPosition_obeys apiMoves_free fun position => ?_
    simp only [Routine.resume_ok, Routine.obeys_bind]
    rw [id]
    exact issue_obeys fun _ => ⟨_, .announce, next _⟩
  · simp only [type, streaming, if_false, Routine.resume_ok, Routine.obeys_pure]
    exact next _

theorem enqueueLlmCall_obeys {settings : Settings} {new : NewCall} :
    (enqueueLlmCall settings new.toCall).Obeys (ApiMoves settings new)
      (fun out _ phase => ∀ saved, out = .ok saved → phase = .finished) () .start := by
  simp only [enqueueLlmCall, Routine.obeys_bind]
  refine estimateWaitTimeSeconds_obeys (fun _ _ => .neutral) fun estimate => ?_
  simp only [Routine.resume_ok, Routine.obeys_bind]
  refine checkBackpressure_obeys fun depth => ⟨.start, .neutral rfl, fun _ => ?_, fun error => ?_⟩
  · simp only [Routine.resume_ok, Routine.obeys_bind]
    refine serializeLlmCall_obeys apiMoves_free fun elapsed => ?_
    simp only [Routine.resume_ok, Routine.obeys_bind]
    refine issue_obeys fun _ => ⟨_, .push, ?_⟩
    simp only [Routine.resume_ok]
    refine publishRecord_obeys rfl rfl fun saved => ?_
    exact fun _ _ => rfl
  · intro saved returned
    cases returned

/-! ## A canceller -/

theorem cancelMoves_free {jobId : String} : ReadsFreely (CancelMoves jobId) :=
  fun _ _ _ neutral => .neutral neutral

private theorem cancelQueued_obeys {jobId : String} {job : Snapshot} {payload call : LLMCallJob}
    (same : payload.SameButRead call)
    {post : Except QueueError LLMCallJob → Unit → CancelPhase → Prop}
    (next : ∀ call : LLMCallJob, call.status = .cancelled → call.cancelRequested = true →
      post (.ok call) () (.returned .cancelled true)) :
    (cancelQueued jobId job call.flagged).Obeys (CancelMoves jobId) post ()
      (.removing job payload) := by
  simp only [cancelQueued, Routine.obeys_bind]
  refine issue_obeys fun _ => ⟨_, .remove, ?_⟩
  simp only [Routine.resume_ok, Routine.obeys_bind]
  refine utcnow_obeys cancelMoves_free fun now => ?_
  simp only [Routine.resume_ok, Routine.obeys_bind]
  refine saveJobPayload_obeys cancelMoves_free fun elapsed => ⟨_, .saveCancelled same, ?_⟩
  simp only [Routine.resume_ok, Routine.obeys_bind]
  refine issue_obeys fun _ => ⟨_, .mark, ?_⟩
  simp only [Routine.resume_ok, Routine.obeys_bind]
  refine issue_obeys fun _ => ⟨_, .announceCancelled, ?_⟩
  exact next _ rfl rfl

private theorem requestCancel_obeys {jobId : String} {job : Snapshot} {payload call : LLMCallJob}
    (same : payload.SameButRead call)
    {post : Except QueueError LLMCallJob → Unit → CancelPhase → Prop}
    (next : ∀ call : LLMCallJob, call.status = payload.status → call.cancelRequested = true →
      post (.ok call) () (.returned payload.status true)) :
    (requestCancel jobId job call.flagged).Obeys (CancelMoves jobId) post ()
      (.requesting job payload) := by
  have status : call.status = payload.status := by obtain ⟨_, _, _, rfl⟩ := same; rfl
  simp only [requestCancel, Routine.obeys_bind]
  refine saveJobPayload_obeys cancelMoves_free fun elapsed => ⟨_, .saveRequest same, ?_⟩
  simp only [Routine.resume_ok, Routine.obeys_bind]
  refine issue_obeys fun _ => ⟨.returned payload.status true, ?_, ?_⟩
  · have announced := @CancelMoves.announceRequest jobId payload.status
    rw [← status] at announced ⊢
    exact announced
  · exact next _ status rfl

theorem cancelLlmCall_obeys {settings : Settings} {jobId : String} :
    (cancelLlmCall settings jobId).Obeys (CancelMoves jobId)
      (fun out _ phase => ∀ call : LLMCallJob, out = .ok call →
        phase = .returned call.status call.cancelRequested) () .start := by
  simp only [cancelLlmCall, Routine.obeys_bind]
  refine getJob_obeys ⟨_, .missing, fun _ _ raised => by cases raised⟩ fun job => ⟨_, .fetch, ?_⟩
  simp only [Routine.resume_ok, Routine.obeys_bind]
  refine getJobResult_obeys cancelMoves_free ?_ ?_
  · exact fun reply unreadable => ⟨_, .unreadable unreadable, fun _ _ raised => by cases raised⟩
  · intro reply payload readable
    refine ⟨.read job payload, .read readable, ?_⟩
    intro call same
    have status : call.status = payload.status := by obtain ⟨_, _, _, rfl⟩ := same; rfl
    have flag : call.cancelRequested = payload.cancelRequested := by
      obtain ⟨_, _, _, rfl⟩ := same; rfl
    simp only [Routine.resume_ok, Routine.obeys_bind, getRqStatus]
    refine issue_obeys fun rqStatus => ?_
    by_cases terminal : call.status.isTerminal
    · refine ⟨_, .late (status ▸ terminal), ?_⟩
      simp only [Routine.resume_ok, terminal, if_true]
      rintro _ ⟨rfl⟩
      rw [status, flag]
    · have live := Bool.eq_false_iff.mpr terminal
      by_cases pending : JobStatus.isPending rqStatus
      · refine ⟨_, .pending (status ▸ live) pending, ?_⟩
        simp only [Routine.resume_ok, live, pending, if_true, Bool.false_eq_true, if_false]
        refine cancelQueued_obeys same fun call status flag => ?_
        rintro _ ⟨rfl⟩
        rw [status, flag]
      · refine ⟨_, .running (status ▸ live) (Bool.eq_false_iff.mpr pending), ?_⟩
        simp only [Routine.resume_ok, live, pending, Bool.false_eq_true, if_false]
        refine requestCancel_obeys same fun call status flag => ?_
        rintro _ ⟨rfl⟩
        rw [status, flag]

/-! ## A waiter -/

theorem waitMoves_free : ReadsFreely WaitMoves := fun _ _ _ neutral => .neutral neutral

theorem overlayStatus_status {payload call : LLMCallJob} {rqStatus : JobStatus}
    (same : call.status = payload.status) :
    (overlayStatus call rqStatus).status = (overlayStatus payload rqStatus).status := by
  cases rqStatus <;> simp only [overlayStatus, same]
  split <;> simp only [same]

theorem getJobStatus_obeys {settings : Settings} {jobId : String} {phase : WaitPhase}
    {post : Except QueueError LLMCallJob → Unit → WaitPhase → Prop}
    (unreadable : ∀ reply, readPayload reply = none → ∃ after,
      WaitMoves phase (.fetchJob .statusRecord) reply after ∧
        ∀ error, post (.error (.other error)) () after)
    (readable : ∀ reply payload, readPayload reply = some payload → ∃ after,
      WaitMoves phase (.fetchJob .statusRecord) reply after ∧ ∀ rqStatus, ∃ last,
        WaitMoves after .jobStatus rqStatus last ∧ ∀ call : LLMCallJob,
          call.status = (overlayStatus payload rqStatus).status → post (.ok call) () last) :
    (getJobStatus settings jobId).Obeys WaitMoves post () phase := by
  simp only [getJobStatus, Routine.obeys_bind]
  refine getJobResult_obeys waitMoves_free unreadable fun reply payload read => ?_
  obtain ⟨after, move, next⟩ := readable reply payload read
  refine ⟨after, move, fun call same => ?_⟩
  have status : call.status = payload.status := by obtain ⟨_, _, _, rfl⟩ := same; rfl
  simp only [Routine.resume_ok, Routine.obeys_bind, getRqStatus]
  refine issue_obeys fun rqStatus => ?_
  obtain ⟨last, moved, returns⟩ := next rqStatus
  refine ⟨last, moved, ?_⟩
  simp only [Routine.resume_ok, Routine.obeys_bind, Routine.obeys_ite, Routine.obeys_pure]
  constructor
  · intro _
    refine jobPosition_obeys waitMoves_free fun position => ?_
    simp only [Routine.resume_ok]
    exact serializeLlmCall_obeys waitMoves_free fun elapsed =>
      returns _ (overlayStatus_status status)
  · intro _
    exact serializeLlmCall_obeys waitMoves_free fun elapsed =>
      returns _ (overlayStatus_status status)

/-- A waiter that returns has read the result it returns. -/
def WaitEnded (out : Except QueueError LLMCallJob) (phase : WaitPhase) : Prop :=
  ∀ call : LLMCallJob, out = .ok call → phase = .returned call.status

private theorem pollJobResult_obeys {settings : Settings} {jobId : String}
    {otherwise : QueueM Unit LLMCallJob}
    (goesOn : otherwise.Obeys WaitMoves (fun out _ phase => WaitEnded out phase) () .polling) :
    (pollJobResult settings jobId otherwise).Obeys WaitMoves
      (fun out _ phase => WaitEnded out phase) () .polling := by
  simp only [pollJobResult, Routine.obeys_bind]
  refine getJobStatus_obeys ?_ ?_
  · exact fun reply unreadable => ⟨_, .statusUnreadable unreadable, fun _ _ raised => by cases raised⟩
  · intro reply payload readable
    refine ⟨_, .readStatus readable, fun rqStatus => ?_⟩
    by_cases terminal : (overlayStatus payload rqStatus).status.isTerminal
    · refine ⟨_, .settled terminal, fun call status => ?_⟩
      simp only [Routine.resume_ok, status, terminal, if_true]
      refine getJobResult_obeys waitMoves_free ?_ ?_
      · exact fun reply unreadable =>
          ⟨_, .resultUnreadable unreadable, fun _ _ raised => by cases raised⟩
      · intro reply payload readable
        refine ⟨_, .readResult readable, fun call same => ?_⟩
        rintro _ ⟨rfl⟩
        obtain ⟨_, _, _, rfl⟩ := same
        rfl
    · refine ⟨_, .again (Bool.eq_false_iff.mpr terminal), fun call status => ?_⟩
      simp only [Routine.resume_ok, status, terminal]
      exact goesOn

theorem waitForJobResult_obeys {settings : Settings} {jobId : String} (polls : Nat) :
    (waitForJobResult settings jobId polls).Obeys WaitMoves
      (fun out _ phase => WaitEnded out phase) () .polling := by
  induction polls with
  | zero => exact pollJobResult_obeys fun _ raised => by cases raised
  | succ polls ih => exact pollJobResult_obeys ih

/-! ## The system -/

/-- What a party's phase says about the value it ended with. -/
def Ended : ∀ party, Outcome → Phase party → Prop
  | .api, out, phase => ∀ call, out = .ok call → phase = .finished
  | .worker, out, phase => WorkerEnded out phase
  | .cancel _, out, phase => ∀ call : LLMCallJob, out = .ok call →
      phase = .returned call.status call.cancelRequested
  | .wait _, out, phase => WaitEnded out phase
  | .reaper, _, _ => True

/-- Every party before its first command. -/
def startPhase (settings : Settings) : ∀ party, Phase party
  | .api => ApiPhase.start
  | .worker => ⟨rqRetries settings, .idle⟩
  | .cancel _ => CancelPhase.start
  | .wait _ => WaitPhase.polling
  | .reaper => ()

/-- All parties are in phases their programs obey. -/
abbrev Tracked (settings : Settings) (new : NewCall) (c : System)
    (phase : ∀ party, Phase party) : Prop :=
  c.Follows (Moves settings new) Ended phase

private theorem outcomeOf_obeys {Phase : Type} {P : Protocol signature Phase}
    {routine : QueueM Unit LLMCallJob} {post : Outcome → Phase → Prop} {phase : Phase}
    (obeys : routine.Obeys P (fun out _ phase => post out phase) () phase) :
    (outcomeOf routine).Obeys P post phase :=
  Program.obeys_bind.mpr obeys

theorem boot_tracked {settings : Settings} {new : NewCall} {polls : Nat → Nat} {env : Environment} :
    Tracked settings new (boot settings new polls env) (startPhase settings) := by
  intro party
  cases party with
  | api => exact outcomeOf_obeys enqueueLlmCall_obeys
  | worker => exact runJob_obeys _
  | cancel call => exact outcomeOf_obeys cancelLlmCall_obeys
  | wait call => exact outcomeOf_obeys (waitForJobResult_obeys _)
  | reaper => exact fun _ => ⟨(), .abandon, trivial⟩

end LanguageAgent.Queue
