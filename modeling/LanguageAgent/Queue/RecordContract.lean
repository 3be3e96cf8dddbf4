import LanguageAgent.Interleaving.Contract
import LanguageAgent.Queue.Runs

/-! # What may stand in a record

The worker fills two fields of a record from outside the program: the result with what
the model returns, the last error with a message. Rules on the two that every message of
the program satisfies are kept by every record any party writes or returns, as long as
the model's answers satisfy them too.
-/

namespace LanguageAgent.Queue

open Interleaving

/-- What a result and a last error may be. -/
structure RecordRules where
  result : Json → Prop
  lastError : Option String → Prop
  null : result .null
  text : ∀ text, result (.str text)
  none : lastError none
  safe : ∀ error, lastError (some (safeErrorMessage error))
  refused : lastError (some invalidStructuredResponse)

namespace RecordRules

variable (rules : RecordRules)

structure Call (call : LLMCallJob) : Prop where
  result : rules.result call.result
  lastError : rules.lastError call.lastError

structure Meta (jobMeta : JobMeta) : Prop where
  call : ∀ call, jobMeta.llmCall = some call → rules.Call call
  lastError : ∀ lastError, jobMeta.lastError = some lastError → rules.lastError lastError

structure Job (job : Snapshot) : Prop where
  args : rules.Call job.args
  jobMeta : rules.Meta job.jobMeta
  result : ∀ call, job.result = some call → rules.Call call

/-- What a reply may bring. -/
def Reply : (command : Command) → command.Reply → Prop
  | .fetchJob _, reply => ∀ job, reply = some job → rules.Job job
  | .askModel _ _, reply => ∀ value, reply = .ok value → rules.result value
  | _, _ => True

/-- What a command may write or return. -/
def Issued : Command → Prop
  | .push payload => rules.Call payload
  | .saveMeta saved => saved.llmCall.isSome ∧ rules.Meta saved
  | .requeue saved => rules.Meta saved
  | .finish result => rules.Call result
  | _ => True

def contract : Contract signature where
  reply := rules.Reply
  command := rules.Issued

/-- The records a worker holds. -/
structure Locals (locals : WorkerLocals) : Prop where
  jobMeta : rules.Meta locals.jobMeta
  call : rules.Call locals.call

/-- The message of a refused reply ends up in the record. -/
def Error : QueueError → Prop
  | .nonRetryable message => rules.lastError (some message)
  | _ => True

end RecordRules

variable {rules : RecordRules}

theorem RecordRules.Call.same {call other : LLMCallJob} (held : rules.Call call)
    (result : other.result = call.result)
    (lastError : other.lastError = call.lastError) : rules.Call other :=
  ⟨result ▸ held.result, lastError ▸ held.lastError⟩

theorem RecordRules.Call.reporting {call other : LLMCallJob} {lastError : Option String}
    (held : rules.Call call) (ok : rules.lastError lastError)
    (result : other.result = call.result)
    (reported : other.lastError = lastError) : rules.Call other :=
  ⟨result ▸ held.result, reported ▸ ok⟩

theorem RecordRules.meta_empty : rules.Meta {} :=
  ⟨fun _ found => (by cases found), fun _ found => (by cases found)⟩

/-! ## The job store -/

section Store

variable {σ : Type} {I : σ → Prop}

/-- What a routine of the store does under the contract, in the locals of any caller. -/
abbrev Keeps {α : Type} (rules : RecordRules) (I : σ → Prop) (m : QueueM σ α) (good : α → Prop) : Prop :=
  m.Maintains rules.contract I rules.Error good

theorem issue_keeps (command : Command) (allowed : rules.Issued command) :
    Keeps rules I (Routine.issue (S := signature) command) (rules.Reply command) :=
  Routine.maintains_issue allowed

theorem computeElapsedSeconds_keeps {call : LLMCallJob} :
    Keeps rules I (computeElapsedSeconds call) fun _ => True := by
  unfold computeElapsedSeconds
  cases call.completedAt with
  | some endTime => exact Routine.maintains_pure trivial
  | none => exact (issue_keeps .utcnow trivial).bind fun _ _ => Routine.maintains_pure trivial

theorem serializeLlmCall_keeps {call : LLMCallJob} (held : rules.Call call) :
    Keeps rules I (serializeLlmCall call) rules.Call := by
  apply computeElapsedSeconds_keeps.bind
  intro elapsed _
  exact Routine.maintains_pure (held.same (by rfl) (by rfl))

theorem saveJobPayload_keeps {jobMeta : JobMeta} {call : LLMCallJob} (held : rules.Call call)
    (kept : rules.Meta jobMeta) : Keeps rules I (saveJobPayload jobMeta call) rules.Call := by
  apply (serializeLlmCall_keeps held).bind
  intro call held
  have saved : rules.Meta { jobMeta with llmCall := some call } :=
    ⟨fun _ same => Option.some.inj same ▸ held, kept.lastError⟩
  exact (issue_keeps (.saveMeta _) ⟨rfl, saved⟩).bind fun _ _ => Routine.maintains_pure held

theorem getJob_keeps {site : FetchSite} : Keeps rules I (getJob site) rules.Job := by
  apply (issue_keeps (.fetchJob site) trivial).bind
  intro reply promised
  cases reply with
  | some job => exact Routine.maintains_pure (promised job rfl)
  | none => exact Routine.maintains_throw trivial

theorem RecordRules.Job.payload {job : Snapshot} {call : LLMCallJob} (held : rules.Job job)
    (payload : job.payload = some call) : rules.Call call := by
  unfold Snapshot.payload at payload
  cases result : job.result with
  | some returned =>
      rw [result] at payload
      obtain rfl := Option.some.inj payload
      exact held.result _ result
  | none =>
      rw [result] at payload
      exact held.jobMeta.call call payload

theorem getJobResult_keeps {settings : Settings} {jobId : String} {site : FetchSite} :
    Keeps rules I (getJobResult settings jobId site) rules.Call := by
  apply getJob_keeps.bind
  intro job held
  cases found : job.payload with
  | none => exact Routine.maintains_throw trivial
  | some payload =>
      have validated : Keeps rules I (modelValidate payload) rules.Call := by
        apply Routine.maintains_ite
        · exact fun _ => Routine.maintains_pure (held.payload found)
        · exact fun _ => Routine.maintains_throw trivial
      apply validated.bind
      intro call held
      have timed : ∀ call : LLMCallJob, rules.Call call → Keeps rules I (do
          let elapsed ← computeElapsedSeconds call
          pure { call with elapsedSeconds := elapsed }) rules.Call :=
        fun call held => computeElapsedSeconds_keeps.bind fun _ _ => Routine.maintains_pure (held.same (by rfl) (by rfl))
      dsimp only
      apply Routine.maintains_ite
      · exact fun _ => (issue_keeps .jobPosition trivial).bind fun _ _ => timed _ (held.same (by rfl) (by rfl))
      · exact fun _ => timed _ (held.same (by rfl) (by rfl))

theorem isCancelRequested_keeps {settings : Settings} {jobId : String} {site : FetchSite} :
    Keeps rules I (isCancelRequested settings jobId site) fun _ => True :=
  getJobResult_keeps.bind fun _ _ => Routine.maintains_pure trivial

end Store

/-! ## The API process -/

/-- The locals of the API process are not shared with anyone. -/
abbrev ApiKeeps {α : Type} (rules : RecordRules) (m : QueueM Unit α) (good : α → Prop) : Prop :=
  Keeps rules (fun _ => True) m good

private theorem estimateWaitTimeSeconds_keeps {settings : Settings} :
    ApiKeeps rules (estimateWaitTimeSeconds settings) fun _ => True := by
  have average : ApiKeeps rules readAverageGenerationTimeSeconds fun _ => True := by
    apply (issue_keeps .readMetrics trivial).bind
    intro metrics _
    cases metrics .completedJobs with
    | none => exact Routine.maintains_pure trivial
    | some completed =>
        cases metrics .totalGenerationSeconds with
        | none => exact Routine.maintains_pure trivial
        | some total => exact Routine.maintains_pure trivial
  apply average.bind
  intro average _
  apply (issue_keeps .queueDepth trivial).bind
  intro depth _
  exact (issue_keeps .activeJobCount trivial).bind fun _ _ => Routine.maintains_pure trivial

private theorem checkBackpressure_keeps {settings : Settings} {estimate : Rat} :
    ApiKeeps rules (checkBackpressure settings estimate) fun _ => True := by
  apply (issue_keeps .queueDepth trivial).bind
  intro depth _
  apply Routine.maintains_ite
  · exact fun _ => Routine.maintains_throw trivial
  · intro _
    apply Routine.maintains_ite
    · exact fun _ => Routine.maintains_throw trivial
    · exact fun _ => Routine.maintains_pure trivial

private theorem publishRecord_keeps {call : LLMCallJob} (held : rules.Call call) :
    ApiKeeps rules (publishRecord call) rules.Call := by
  apply (saveJobPayload_keeps held RecordRules.meta_empty).bind
  intro saved held
  apply Routine.maintains_ite
  · intro _
    apply (issue_keeps .jobPosition trivial).bind
    intro position _
    exact (issue_keeps (.xadd _) trivial).bind fun _ _ => Routine.maintains_pure held
  · exact fun _ => Routine.maintains_pure held

theorem enqueueLlmCall_keeps {settings : Settings} {new : NewCall} :
    ApiKeeps rules (enqueueLlmCall settings new.toCall) rules.Call := by
  apply estimateWaitTimeSeconds_keeps.bind
  intro estimate _
  apply checkBackpressure_keeps.bind
  intro _ _
  have fresh : rules.Call { new.toCall with
      streamChannel := some (getStreamChannel settings new.jobId) } := ⟨rules.null, rules.none⟩
  apply (serializeLlmCall_keeps fresh).bind
  intro payload held
  exact (issue_keeps (.push payload) held).bind fun _ _ => publishRecord_keeps held

private theorem cancelQueued_keeps {jobId : String} {job : Snapshot} {call : LLMCallJob}
    (held : rules.Call call) (jobHeld : rules.Job job) :
    ApiKeeps rules (cancelQueued jobId job call) rules.Call := by
  apply (issue_keeps .remove trivial).bind
  intro _ _
  apply (issue_keeps .utcnow trivial).bind
  intro now _
  apply (saveJobPayload_keeps (held.same (by rfl) (by rfl)) jobHeld.jobMeta).bind
  intro saved held
  apply (issue_keeps (.setStatus .canceled) trivial).bind
  intro _ _
  exact (issue_keeps (.xadd _) trivial).bind fun _ _ => Routine.maintains_pure held

private theorem requestCancel_keeps {jobId : String} {job : Snapshot} {call : LLMCallJob}
    (held : rules.Call call) (jobHeld : rules.Job job) :
    ApiKeeps rules (requestCancel jobId job call) rules.Call := by
  apply (saveJobPayload_keeps held jobHeld.jobMeta).bind
  intro saved held
  exact (issue_keeps (.xadd _) trivial).bind fun _ _ => Routine.maintains_pure held

theorem cancelLlmCall_keeps {settings : Settings} {jobId : String} :
    ApiKeeps rules (cancelLlmCall settings jobId) rules.Call := by
  apply getJob_keeps.bind
  intro job jobHeld
  apply getJobResult_keeps.bind
  intro call held
  apply (issue_keeps .jobStatus trivial).bind
  intro rqStatus _
  apply Routine.maintains_ite
  · exact fun _ => Routine.maintains_pure held
  · intro _
    apply Routine.maintains_ite
    · exact fun _ => cancelQueued_keeps (held.same (by rfl) (by rfl)) jobHeld
    · exact fun _ => requestCancel_keeps (held.same (by rfl) (by rfl)) jobHeld

theorem RecordRules.Call.overlaid {call : LLMCallJob} {rqStatus : JobStatus} (held : rules.Call call) :
    rules.Call (overlayStatus call rqStatus) := by
  cases rqStatus with
  | started =>
      simp only [overlayStatus]
      split
      · exact held
      · exact held.same (by rfl) (by rfl)
  | _ => exact held.same (by rfl) (by rfl)

private theorem getJobStatus_keeps {settings : Settings} {jobId : String} :
    ApiKeeps rules (getJobStatus settings jobId) rules.Call := by
  apply getJobResult_keeps.bind
  intro call held
  apply (issue_keeps .jobStatus trivial).bind
  intro rqStatus _
  dsimp only
  apply Routine.maintains_ite
  · intro _
    apply (issue_keeps .jobPosition trivial).bind
    intro position _
    exact serializeLlmCall_keeps (held.overlaid.same (by rfl) (by rfl))
  · exact fun _ => serializeLlmCall_keeps held.overlaid

private theorem pollJobResult_keeps {settings : Settings} {jobId : String}
    {otherwise : QueueM Unit LLMCallJob} (goesOn : ApiKeeps rules otherwise rules.Call) :
    ApiKeeps rules (pollJobResult settings jobId otherwise) rules.Call := by
  apply getJobStatus_keeps.bind
  intro status _
  apply Routine.maintains_ite
  · exact fun _ => getJobResult_keeps
  · exact fun _ => goesOn

theorem waitForJobResult_keeps {settings : Settings} {jobId : String} (polls : Nat) :
    ApiKeeps rules (waitForJobResult settings jobId polls) rules.Call := by
  induction polls with
  | zero => exact pollJobResult_keeps (Routine.maintains_throw trivial)
  | succ polls ih => exact pollJobResult_keeps ih

/-! ## The worker -/

abbrev WorkerKeeps {α : Type} (rules : RecordRules) (m : WorkerM α) (good : α → Prop) : Prop :=
  Keeps rules rules.Locals m good

section Worker

variable {settings : Settings}

private theorem currentCall_keeps : WorkerKeeps rules currentCall rules.Call :=
  Routine.maintains_get.bind fun _ held => Routine.maintains_pure held.call

private theorem modifyCall_keeps {f : LLMCallJob → LLMCallJob}
    (kept : ∀ call, rules.Call call → rules.Call (f call)) :
    WorkerKeeps rules (modifyCall f) fun _ => True :=
  Routine.maintains_modify fun _ held => ⟨held.jobMeta, kept _ held.call⟩

private theorem interruptible_keeps : WorkerKeeps rules interruptible fun _ => True := by
  apply Routine.maintains_get.bind
  intro locals _
  apply Routine.maintains_ite
  · intro _
    apply (issue_keeps .interrupt trivial).bind
    intro failure _
    cases failure with
    | none => exact Routine.maintains_pure trivial
    | some error => exact Routine.maintains_throw trivial
  · exact fun _ => Routine.maintains_pure trivial

private theorem interruptibly_keeps {α : Type} {operation : WorkerM α} {good : α → Prop}
    (keeps : WorkerKeeps rules operation good) : WorkerKeeps rules (interruptibly operation) good := by
  apply interruptible_keeps.bind
  intro _ _
  apply keeps.bind
  intro reply ok
  exact interruptible_keeps.bind fun _ _ => Routine.maintains_pure ok

private theorem setJobPayload_keeps : WorkerKeeps rules setJobPayload fun _ => True := by
  apply interruptibly_keeps
  apply Routine.maintains_get.bind
  intro locals held
  apply (serializeLlmCall_keeps held.call).bind
  intro call callHeld
  have saved : rules.Meta { locals.jobMeta with llmCall := some call } :=
    ⟨fun _ same => Option.some.inj same ▸ callHeld, held.jobMeta.lastError⟩
  apply (Routine.maintains_modify fun _ _ => ⟨saved, callHeld⟩).bind
  intro _ _
  exact (issue_keeps (.saveMeta _) ⟨rfl, saved⟩).mono fun _ _ => trivial

private theorem publish_keeps {extra : Dict} : WorkerKeeps rules (publish extra) fun _ => True :=
  currentCall_keeps.bind fun _ _ => interruptibly_keeps (issue_keeps (.xadd _) trivial)

private theorem publishIfStreaming_keeps {extra : Dict} :
    WorkerKeeps rules (publishIfStreaming extra) fun _ => True := by
  apply currentCall_keeps.bind
  intro call _
  apply Routine.maintains_ite
  · exact fun _ => publish_keeps
  · exact fun _ => Routine.maintains_pure trivial

private theorem checkCancelRequested_keeps {site : FetchSite} :
    WorkerKeeps rules (checkCancelRequested settings site) fun _ => True :=
  interruptibly_keeps (currentCall_keeps.bind fun _ _ => isCancelRequested_keeps)

private theorem returnCall_keeps : WorkerKeeps rules returnCall rules.Call :=
  currentCall_keeps.bind fun _ held => serializeLlmCall_keeps held

private theorem finalizeCancelledJob_keeps {message : String} :
    WorkerKeeps rules (finalizeCancelledJob message) rules.Call := by
  apply (modifyCall_keeps fun _ held => held.same (by rfl) (by rfl)).bind
  intro _ _
  apply interruptible_keeps.bind
  intro _ _
  apply (issue_keeps .utcnow trivial).bind
  intro now _
  apply (modifyCall_keeps fun _ held => held.same (by rfl) (by rfl)).bind
  intro _ _
  apply interruptible_keeps.bind
  intro _ _
  apply (modifyCall_keeps fun _ held => held.same (by rfl) (by rfl)).bind
  intro _ _
  apply setJobPayload_keeps.bind
  intro _ _
  exact publish_keeps.bind fun _ _ => returnCall_keeps

private theorem setResult_keeps {result : Json} (ok : rules.result result) :
    WorkerKeeps rules (setResult result) fun _ => True :=
  modifyCall_keeps fun _ held => ⟨ok, held.lastError⟩

private theorem askModel_keeps {call : LLMCallJob} :
    WorkerKeeps rules (askModel call) fun _ => True := by
  apply (issue_keeps (.askModel _ _) trivial).bind
  intro reply promised
  cases reply with
  | ok value => exact setResult_keeps (promised value rfl)
  | error error =>
      apply Routine.maintains_ite
      · exact fun _ => Routine.maintains_throw rules.refused
      · exact fun _ => Routine.maintains_throw trivial

private theorem generateText_keeps {call : LLMCallJob} :
    WorkerKeeps rules (generateText call) fun _ => True := by
  apply (issue_keeps (.generateText _) trivial).bind
  intro reply _
  cases reply with
  | ok text => exact setResult_keeps (rules.text text)
  | error error => exact Routine.maintains_throw trivial

private theorem handleChunk_keeps {parts : List String} {content : Option String} :
    WorkerKeeps rules (handleChunk settings parts content) fun _ => True := by
  have checked : ∀ parts, WorkerKeeps rules (checkChunk settings parts) fun _ => True := by
    intro parts
    apply checkCancelRequested_keeps.bind
    intro requested _
    apply Routine.maintains_ite
    · intro _
      exact (modifyCall_keeps fun _ held => held.same (by rfl) (by rfl)).bind fun _ _ =>
        Routine.maintains_throw trivial
    · exact fun _ => Routine.maintains_pure trivial
  apply (issue_keeps .nextChunk trivial).bind
  intro _ _
  cases visibleToken content with
  | none => exact checked parts
  | some token => exact publish_keeps.bind fun _ _ => checked _

private theorem handleChunks_keeps {ending : Option PyError} {parts : List String}
    {chunks : List (Option String)} :
    WorkerKeeps rules (handleChunks settings ending parts chunks) fun _ => True := by
  induction chunks generalizing parts with
  | nil =>
      cases ending with
      | some error => exact Routine.maintains_throw trivial
      | none => exact Routine.maintains_pure trivial
  | cons content rest ih => exact handleChunk_keeps.bind fun _ _ => ih

private theorem streamTokens_keeps {call : LLMCallJob} :
    WorkerKeeps rules (streamTokens settings call) fun _ => True := by
  apply (modifyCall_keeps fun _ held => held.same (by rfl) (by rfl)).bind
  intro _ _
  apply setJobPayload_keeps.bind
  intro _ _
  apply publish_keeps.bind
  intro _ _
  apply (issue_keeps (.openStream _) trivial).bind
  intro stream _
  have closes : WorkerKeeps rules closeStreamIterator fun _ => True :=
    interruptibly_keeps (issue_keeps .closeStream trivial)
  apply (handleChunks_keeps.ensuring closes).bind
  intro parts _
  exact setResult_keeps (rules.text _)

private theorem callModel_keeps : WorkerKeeps rules (callModel settings) fun _ => True := by
  have loads : WorkerKeeps rules loadService fun _ => True := by
    apply (issue_keeps .loadService trivial).bind
    intro failure _
    cases failure with
    | some error => exact Routine.maintains_throw trivial
    | none => exact Routine.maintains_pure trivial
  apply loads.bind
  intro _ _
  apply currentCall_keeps.bind
  intro call _
  cases call.callType with
  | structuredJson => exact askModel_keeps
  | textGeneration => exact generateText_keeps
  | streamingTextGeneration => exact streamTokens_keeps

private theorem recordCompletionMetrics_keeps {call : LLMCallJob} :
    WorkerKeeps rules (recordCompletionMetrics call) fun _ => True := by
  have counted : WorkerKeeps rules (incrMetric .completedJobs 1) fun _ => True :=
    issue_keeps (.incrMetric _ _) trivial
  unfold recordCompletionMetrics
  cases call.startedAt with
  | none => exact counted
  | some started =>
      cases call.completedAt with
      | none => exact counted
      | some completed => exact (issue_keeps (.incrMetric _ _) trivial).bind fun _ _ => counted

private theorem completeCall_keeps : WorkerKeeps rules (completeCall settings) rules.Call := by
  apply checkCancelRequested_keeps.bind
  intro requested _
  apply Routine.maintains_ite
  · intro _
    exact (modifyCall_keeps fun _ held => held.same (by rfl) (by rfl)).bind fun _ _ => finalizeCancelledJob_keeps
  · intro _
    apply (modifyCall_keeps fun _ held => held.same (by rfl) (by rfl)).bind
    intro _ _
    apply interruptible_keeps.bind
    intro _ _
    apply (issue_keeps .utcnow trivial).bind
    intro now _
    apply (modifyCall_keeps fun _ held => held.same (by rfl) (by rfl)).bind
    intro _ _
    apply interruptible_keeps.bind
    intro _ _
    apply (modifyCall_keeps fun _ held => held.reporting rules.none (by rfl) (by rfl)).bind
    intro _ _
    apply setJobPayload_keeps.bind
    intro _ _
    apply (interruptibly_keeps (currentCall_keeps.bind fun _ _ => recordCompletionMetrics_keeps)).bind
    intro _ _
    exact publishIfStreaming_keeps.bind fun _ _ => returnCall_keeps

private theorem saveFailure_keeps : WorkerKeeps rules saveFailure fun _ => True := by
  have kept : WorkerKeeps rules (Routine.modify fun locals => { locals with
      jobMeta := { locals.jobMeta with
        retryCount := some locals.call.retryCount, lastError := some locals.call.lastError } })
      fun _ => True := by
    apply Routine.maintains_modify
    intro locals held
    exact ⟨⟨held.jobMeta.call, fun _ same => Option.some.inj same ▸ held.call.lastError⟩, held.call⟩
  exact kept.bind fun _ _ => setJobPayload_keeps

private theorem handleNonRetryable_keeps {message : String} (ok : rules.lastError (some message)) :
    WorkerKeeps rules (handleNonRetryable message) rules.Call := by
  apply (modifyCall_keeps fun _ held => held.same (by rfl) (by rfl)).bind
  intro _ _
  apply (issue_keeps .utcnow trivial).bind
  intro now _
  apply (modifyCall_keeps fun _ held => held.reporting ok (by rfl) (by rfl)).bind
  intro _ _
  apply saveFailure_keeps.bind
  intro _ _
  exact publishIfStreaming_keeps.bind fun _ _ => returnCall_keeps

private theorem handleException_keeps {error : PyError} :
    WorkerKeeps rules (handleException settings error) rules.Call := by
  apply (modifyCall_keeps fun _ held => held.reporting (rules.safe error) (by rfl) (by rfl)).bind
  intro _ _
  apply currentCall_keeps.bind
  intro call _
  have raises : WorkerKeeps rules (throw (.other error) : WorkerM LLMCallJob) rules.Call :=
    Routine.maintains_throw trivial
  dsimp only
  apply Routine.maintains_ite
  · intro _
    apply (modifyCall_keeps fun _ held => held.same (by rfl) (by rfl)).bind
    intro _ _
    apply saveFailure_keeps.bind
    intro _ _
    exact publishIfStreaming_keeps.bind fun _ _ => raises
  · intro _
    apply (issue_keeps .utcnow trivial).bind
    intro now _
    apply (modifyCall_keeps fun _ held => held.same (by rfl) (by rfl)).bind
    intro _ _
    apply saveFailure_keeps.bind
    intro _ _
    exact publishIfStreaming_keeps.bind fun _ _ => raises

private theorem handleFailure_keeps {error : QueueError} (ok : rules.Error error) :
    WorkerKeeps rules (handleFailure settings error) rules.Call := by
  apply (Routine.maintains_modify fun _ held => ⟨held.jobMeta, held.call⟩).bind
  intro _ _
  cases error with
  | cancelled message => exact finalizeCancelledJob_keeps
  | nonRetryable message => exact handleNonRetryable_keeps ok
  | other error => exact handleException_keeps

private theorem markProcessing_keeps : WorkerKeeps rules markProcessing fun _ => True := by
  apply (modifyCall_keeps fun _ held => held.same (by rfl) (by rfl)).bind
  intro _ _
  apply (issue_keeps .utcnow trivial).bind
  intro now _
  apply (modifyCall_keeps fun _ held => held.same (by rfl) (by rfl)).bind
  intro _ _
  apply currentCall_keeps.bind
  intro call _
  have waited : WorkerKeeps rules (recordWaitTime (LLMCallJob.secondsBetween call.createdAt now))
      fun _ => True :=
    (issue_keeps (.incrMetric _ _) trivial).bind fun _ _ => issue_keeps (.incrMetric _ _) trivial
  apply waited.bind
  intro _ _
  exact setJobPayload_keeps.bind fun _ _ => publishIfStreaming_keeps

private theorem loadCall_keeps {payload : LLMCallJob} (held : rules.Call payload) :
    WorkerKeeps rules (loadCall payload) fun _ => True := by
  apply Routine.maintains_get.bind
  intro locals localsHeld
  have validated : WorkerKeeps rules (modelValidate (locals.jobMeta.llmCall.getD payload)) rules.Call := by
    apply Routine.maintains_ite
    · intro _
      apply Routine.maintains_pure
      cases record : locals.jobMeta.llmCall with
      | none => exact held
      | some call => exact localsHeld.jobMeta.call call record
    · exact fun _ => Routine.maintains_throw trivial
  apply validated.bind
  intro call callHeld
  apply modifyCall_keeps
  intro _ _
  refine ⟨callHeld.result, ?_⟩
  cases kept : locals.jobMeta.lastError with
  | none => exact callHeld.lastError
  | some lastError => exact localsHeld.jobMeta.lastError lastError kept

private theorem processLlmCall_keeps {payload : LLMCallJob} (held : rules.Call payload) :
    WorkerKeeps rules (processLlmCall settings payload) rules.Call := by
  apply (loadCall_keeps held).bind
  intro _ _
  apply checkCancelRequested_keeps.bind
  intro requested _
  apply Routine.maintains_ite
  · intro _
    exact (modifyCall_keeps fun _ held => held.same (by rfl) (by rfl)).bind fun _ _ => finalizeCancelledJob_keeps
  · intro _
    apply markProcessing_keeps.bind
    intro _ _
    apply Routine.Maintains.tryCatch rules.Error
    · apply (Routine.maintains_modify fun _ held => ⟨held.jobMeta, held.call⟩).bind
      intro _ _
      exact callModel_keeps.bind fun _ _ => completeCall_keeps
    · exact fun _ ok => handleFailure_keeps ok

end Worker

/-- A returned record is within the rules. -/
def RecordRules.Outcome (rules : RecordRules) (out : Queue.Outcome) : Prop :=
  ∀ call, out = .ok call → rules.Call call

/-- What RQ learns from an attempt: how it ended, and its job object. -/
def RecordRules.Attempt (rules : RecordRules) (out : Queue.Outcome × JobMeta) : Prop :=
  rules.Outcome out.1 ∧ rules.Meta out.2

theorem runAttempt_honours {settings : Settings} :
    (runAttempt settings).Honours rules.contract rules.Attempt := by
  refine ⟨trivial, fun _ _ => ⟨trivial, fun reply promised => ?_⟩⟩
  cases reply with
  | none => exact ⟨fun _ returned => (by cases returned), RecordRules.meta_empty⟩
  | some job =>
      have held := promised job rfl
      refine ⟨trivial, fun _ _ => ?_⟩
      apply (processLlmCall_keeps held.args _ ⟨held.jobMeta, held.args⟩).bind
      rintro ⟨out, locals⟩ ⟨localsHeld, ended⟩
      refine ⟨fun call returned => ?_, localsHeld.jobMeta⟩
      obtain rfl : out = .ok call := returned
      exact ended

private theorem settle_honours {settings : Settings}
    {raised : QueueError → JobMeta → Program signature Outcome}
    (raises : ∀ error jobMeta, rules.Meta jobMeta →
      (raised error jobMeta).Honours rules.contract rules.Outcome) :
    ((runAttempt settings).bind (settle raised)).Honours rules.contract rules.Outcome := by
  apply runAttempt_honours.bind
  rintro ⟨out, jobMeta⟩ ⟨ended, held⟩
  cases out with
  | ok call => exact ⟨ended call rfl, fun _ _ => ended⟩
  | error error => exact raises error jobMeta held

theorem runJob_honours {settings : Settings} (left : Nat) :
    (runJob settings left).Honours rules.contract rules.Outcome := by
  induction left with
  | zero => exact settle_honours fun _ _ _ => ⟨trivial, fun _ _ _ returned => by cases returned⟩
  | succ left ih => exact settle_honours fun _ _ held => ⟨held, fun _ _ => ih⟩

/-! ## The system -/

/-- The model's answers are within the rules. -/
def answersWithin (rules : RecordRules) : Guard signature Party World := fun _ w label =>
  match label.command with
  | .askModel request schema =>
      ∀ value, w.env.ask w.modelCalls request schema = .ok value → rules.result value
  | _ => True

/-- All that is stored for the job is within the rules. -/
def RecordRules.Stored (rules : RecordRules) (w : World) : Prop :=
  ∀ job, w.snapshot = some job → rules.Job job

theorem boot_honours {settings : Settings} {new : NewCall} {polls : Nat → Nat} (party : Party) :
    (programs settings new polls party).Honours rules.contract rules.Outcome := by
  have returns : ∀ routine : QueueM Unit LLMCallJob, ApiKeeps rules routine rules.Call →
      (outcomeOf routine).Honours rules.contract rules.Outcome := by
    intro routine keeps
    apply (keeps () trivial).bind
    rintro ⟨out, locals⟩ ⟨_, ended⟩ call returned
    obtain rfl : out = .ok call := returned
    exact ended
  cases party with
  | api => exact returns _ enqueueLlmCall_keeps
  | worker => exact runJob_honours _
  | cancel call => exact returns _ cancelLlmCall_keeps
  | wait call => exact returns _ (waitForJobResult_keeps _)
  | reaper => exact ⟨trivial, fun _ _ _ returned => by cases returned⟩

private theorem reply_within {party : Party} {w w' : World} {trace : List (Label signature Party)}
    {command : Command} {reply : command.Reply} (stored : rules.Stored w)
    (allowed : answersWithin rules trace w ⟨party, command⟩)
    (answered : exec party command w = some (reply, w')) : rules.Reply command reply := by
  cases command with
  | fetchJob site =>
      obtain rfl := exec_fetchJob answered
      exact stored
  | askModel request schema =>
      unfold exec at answered
      split at answered <;> cases answered
      exact allowed
  | _ => trivial

private theorem stored_within {party : Party} {w w' : World} {command : Command} {reply : command.Reply}
    (stored : rules.Stored w) (issued : rules.Issued command)
    (answered : exec party command w = some (reply, w')) : rules.Stored w' := by
  intro job found
  cases keeps : command.keepsRecord with
  | true =>
      rw [(snapshot_kept keeps answered).1] at found
      exact stored job found
  | false =>
      cases command with
      | push payload =>
          obtain rfl := exec_push answered
          obtain rfl := Option.some.inj found
          exact ⟨issued, RecordRules.meta_empty, fun _ returned => by cases returned⟩
      | saveMeta saved =>
          rw [(snapshot_saveMeta answered).1] at found
          obtain ⟨before, was, rfl⟩ := Option.map_eq_some_iff.mp found
          have held := stored before was
          exact ⟨held.args, issued.2, held.result⟩
      | finish result =>
          rw [(snapshot_finish answered).1] at found
          obtain ⟨before, was, rfl⟩ := Option.map_eq_some_iff.mp found
          have held := stored before was
          exact ⟨held.args, held.jobMeta, fun _ returned => Option.some.inj returned ▸ issued⟩
      | requeue saved =>
          rw [(snapshot_requeue answered).1] at found
          obtain ⟨before, was, rfl⟩ := Option.map_eq_some_iff.mp found
          have held := stored before was
          exact ⟨held.args, issued, held.result⟩
      | _ => exact absurd keeps.symm Bool.false_ne_true

/-- As long as the model's answers are within the rules, so is every record written and
    every record returned, by any party. -/
theorem records_within {settings : Settings} {new : NewCall} {polls : Nat → Nat} {env : Environment}
    {d : System} (run : machine.Reach (answersWithin rules) (boot settings new polls env) d) :
    (∀ party, (d.program party).Honours rules.contract rules.Outcome) ∧ rules.Stored d.world ∧
      ∀ label ∈ d.trace, rules.Issued label.command := by
  apply Machine.Reach.honoured rules.Stored ?_ run boot_honours
  · exact fun _ found => by cases found
  · exact fun _ member => by cases member
  · intro trace w party command reply w' stored allowed issued answered
    exact ⟨reply_within stored allowed answered, stored_within stored issued answered⟩

end LanguageAgent.Queue
