import LanguageAgent.Queue.Commands

/-! # The Redis job store

`RedisJobStore` over the commands of one job. Every routine is polymorphic in the
local state of its caller, so that the API and the worker share the same code.
-/

namespace LanguageAgent.Queue

open Interleaving

structure Settings where
  llmStreamChannelPrefix : String
  llmGenerationTimeoutSeconds : Nat
  llmMaxQueueSize : Nat
  llmQueueWaitTimeoutSeconds : Nat
  /-- `LLM_JOB_MAX_RETRIES`, which the API and the worker read from the same variable. -/
  llmJobMaxRetries : Int

abbrev QueueM (σ : Type) := Routine signature QueueError σ

/-! ## Single commands -/

section Commands

variable {σ : Type}

def utcnow : QueueM σ Timestamp := Routine.issue (S := signature) .utcnow

def jobPosition : QueueM σ (Option Nat) := Routine.issue (S := signature) .jobPosition

def incrMetric (field : MetricField) (amount : Rat) : QueueM σ Unit :=
  Routine.issue (S := signature) (.incrMetric field amount)

def readMetrics : QueueM σ (MetricField → Option Rat) := Routine.issue (S := signature) .readMetrics

/-- `append_stream_event` -/
def xadd (event : Dict) : QueueM σ Unit := Routine.issue (S := signature) (.xadd event)

def saveMeta (saved : JobMeta) : QueueM σ Unit := Routine.issue (S := signature) (.saveMeta saved)

/-- `queue_client.get_job`: `Job.fetch` raises when the job is gone. -/
def getJob (site : FetchSite) : QueueM σ Snapshot := do
  match ← Routine.issue (S := signature) (.fetchJob site) with
  | some snapshot => pure snapshot
  | none => throw (.other { className := "NoSuchJobError", message := "No such job" })

/-- `queue_client.get_job_status` -/
def getRqStatus : QueueM σ JobStatus := Routine.issue (S := signature) .jobStatus

end Commands

/-! ## Records -/

def getStreamChannel (settings : Settings) (jobId : String) : String :=
  settings.llmStreamChannelPrefix ++ ":" ++ jobId

section Records

variable {σ : Type}

/-- `LLMCallJob.model_validate` on a dumped record. -/
def modelValidate (call : LLMCallJob) : QueueM σ LLMCallJob :=
  if call.validates then pure call
  else throw (.other
    { className := "ValidationError", message := "Input should be a valid dictionary"
      valueTypeOrKey := true })

/-- `_compute_elapsed_seconds`: the clock is read only while the job has not ended. -/
def computeElapsedSeconds (call : LLMCallJob) : QueueM σ (Option Rat) := do
  match call.completedAt with
  | some endTime => pure (some (call.elapsedAt endTime))
  | none =>
      let now ← utcnow
      pure (some (call.elapsedAt now))

/-- `serialize_llm_call`, which also stores the elapsed time in the record it dumps. -/
def serializeLlmCall (call : LLMCallJob) : QueueM σ LLMCallJob := do
  let elapsed ← computeElapsedSeconds call
  pure { call with elapsedSeconds := elapsed }

/-- `save_job_payload` writes the caller's whole `job.meta` with the dumped record in it. -/
def saveJobPayload (jobMeta : JobMeta) (call : LLMCallJob) : QueueM σ LLMCallJob := do
  let call ← serializeLlmCall call
  saveMeta { jobMeta with llmCall := some call }
  pure call

/-- The payload `get_job_result` reads: RQ's return value, or else the saved record. -/
def Snapshot.payload (snapshot : Snapshot) : Option LLMCallJob :=
  snapshot.result <|> snapshot.jobMeta.llmCall

def getJobResult (settings : Settings) (jobId : String) (site : FetchSite) :
    QueueM σ LLMCallJob := do
  let job ← getJob site
  match job.payload with
  | none =>
      throw (.other
        { className := "RuntimeError"
          message := "LLM job '" ++ jobId ++ "' has no result payload." })
  | some payload =>
      let call ← modelValidate payload
      let call := { call with streamChannel := some (call.streamChannel.getD
        (getStreamChannel settings jobId)) }
      let call ← if call.status = .queued then
          do let position ← jobPosition
             pure { call with queuePosition := position }
        else pure call
      let elapsed ← computeElapsedSeconds call
      pure { call with elapsedSeconds := elapsed }

def isCancelRequested (settings : Settings) (jobId : String) (site : FetchSite) :
    QueueM σ Bool := do
  let call ← getJobResult settings jobId site
  pure call.cancelRequested

end Records

/-! ## Metrics -/

section Metrics

variable {σ : Type}

def recordWaitTime (waitSeconds : Rat) : QueueM σ Unit := do
  incrMetric .totalWaitSeconds waitSeconds
  incrMetric .startedJobs 1

def recordCompletionMetrics (call : LLMCallJob) : QueueM σ Unit := do
  match call.startedAt, call.completedAt with
  | some started, some completed =>
      incrMetric .totalGenerationSeconds (LLMCallJob.secondsBetween started completed)
  | _, _ => pure ()
  incrMetric .completedJobs 1

/-- `total_generation / completed_jobs`; a missing field or no completed job gives `None`. -/
def readAverageGenerationTimeSeconds : QueueM σ (Option Rat) := do
  let metrics ← readMetrics
  match metrics .completedJobs, metrics .totalGenerationSeconds with
  | some completed, some total => pure (if completed ≤ 0 then none else some (total / completed))
  | _, _ => pure none

end Metrics

/-! ## Stream events -/

/-- `event.get("done") is True or event.get("status") in {"completed", "failed", "cancelled"}` -/
def isTerminalEvent (event : Dict) : Bool :=
  event.isTrue "done" || match event.str? "status" with
    | some status => status = "completed" || status = "failed" || status = "cancelled"
    | none => false

end LanguageAgent.Queue
