import LanguageAgent.Queue.JobStore
import Mathlib.Algebra.Order.Ring.Unbundled.Rat

/-! # The queue service

`LLMQueueService`: enqueueing a call, the status overlay, cancellation and the
polling wait, as the API process runs them against the job store.
-/

namespace LanguageAgent.Queue

open Interleaving

namespace JobStatus

/-- The RQ statuses the service treats as still queued. -/
def isPending : JobStatus → Bool
  | .queued | .deferred | .scheduled => true
  | .finished | .failed | .started | .stopped | .canceled => false

end JobStatus

variable {σ : Type}

/-! ## Enqueueing -/

/-- The per-job time is at least a second; an average of zero counts as no average. -/
def perJobSeconds (settings : Settings) (average : Option Rat) : Rat :=
  max 1 (match average with
    | some average =>
        if average = 0 then (min 30 settings.llmGenerationTimeoutSeconds : Nat) else average
    | none => (min 30 settings.llmGenerationTimeoutSeconds : Nat))

def estimateWaitTimeSeconds (settings : Settings) : QueueM σ Rat := do
  let average ← readAverageGenerationTimeSeconds
  let depth ← Routine.issue (S := signature) .queueDepth
  let active ← Routine.issue (S := signature) .activeJobCount
  pure ((depth + active : Nat) * perJobSeconds settings average)

def queueSaturatedError (message : String) : QueueError :=
  .other { className := "QueueSaturatedError", message := message }

def checkBackpressure (settings : Settings) (estimatedWaitSeconds : Rat) : QueueM σ Unit := do
  let depth ← Routine.issue (S := signature) .queueDepth
  if depth ≥ settings.llmMaxQueueSize then
    throw (queueSaturatedError "The language model queue is full. Please try again shortly.")
  else if estimatedWaitSeconds > settings.llmQueueWaitTimeoutSeconds then
    throw (queueSaturatedError
      "The language model queue is too busy to accept this request right now.")
  else pure ()

/-- The event that announces a streaming job. -/
def queuedEvent (jobId : String) (position : Option Nat) : Dict :=
  [("job_id", .str jobId), ("status", .str CallStatus.queued.text),
    ("queue_position", .optNat position), ("elapsed_seconds", .float (.finite 0))]

/-- `enqueue_llm_call` after the push: the record, and for a streaming job its first event. -/
def publishRecord (jobRequest : LLMCallJob) : QueueM σ LLMCallJob := do
  let saved ← saveJobPayload {} jobRequest
  if jobRequest.callType = .streamingTextGeneration then
    let position ← jobPosition
    xadd (queuedEvent jobRequest.jobId position)
    pure saved
  else pure saved

def enqueueLlmCall (settings : Settings) (jobRequest : LLMCallJob) : QueueM σ LLMCallJob := do
  let estimatedWaitSeconds ← estimateWaitTimeSeconds settings
  checkBackpressure settings estimatedWaitSeconds
  let jobRequest :=
    { jobRequest with streamChannel := some (getStreamChannel settings jobRequest.jobId) }
  let payload ← serializeLlmCall jobRequest
  Routine.issue (S := signature) (.push payload)
  publishRecord payload

/-! ## Status and result -/

/-- RQ's status laid over the stored record. -/
def overlayStatus (call : LLMCallJob) (rqStatus : JobStatus) : LLMCallJob :=
  match rqStatus with
  | .queued | .deferred | .scheduled => { call with status := .queued }
  | .started =>
      if call.status = .streaming ∨ call.status = .cancelled then call
      else { call with status := .processing }
  | .canceled => { call with status := .cancelled }
  | .failed => { call with status := .failed }
  | .finished | .stopped => call

def getJobStatus (settings : Settings) (jobId : String) : QueueM σ LLMCallJob := do
  let call ← getJobResult settings jobId .statusRecord
  let rqStatus ← getRqStatus
  let call := overlayStatus call rqStatus
  let call ← if rqStatus.isPending then
      do let position ← jobPosition
         pure { call with queuePosition := position }
    else pure call
  serializeLlmCall call

/-- Read the status once, and go on as `otherwise` says when it is not terminal. -/
def pollJobResult (settings : Settings) (jobId : String) (otherwise : QueueM σ LLMCallJob) :
    QueueM σ LLMCallJob := do
  let status ← getJobStatus settings jobId
  if status.status.isTerminal then getJobResult settings jobId .resultRecord else otherwise

/-- Poll until the status is terminal; `polls` is how many more fall before the deadline. -/
def waitForJobResult (settings : Settings) (jobId : String) : Nat → QueueM σ LLMCallJob
  | 0 => pollJobResult settings jobId (throw (.other
      { className := "TimeoutError"
        message := "Timed out waiting for LLM job '" ++ jobId ++ "'." }))
  | polls + 1 => pollJobResult settings jobId (waitForJobResult settings jobId polls)

/-! ## Cancellation -/

def cancelledBeforeExecution : String := "LLM job was cancelled before execution."

def cancelledEvent (jobId : String) : Dict :=
  [("job_id", .str jobId), ("status", .str CallStatus.cancelled.text),
    ("cancel_requested", .bool true), ("message", .str cancelledBeforeExecution),
    ("done", .bool true)]

def cancelRequestedEvent (jobId : String) (status : CallStatus) : Dict :=
  [("job_id", .str jobId), ("status", .str status.text), ("cancel_requested", .bool true),
    ("message", .str
      "Cancellation requested. Running non-streaming jobs may finish before stopping.")]

/-- The job is still queued as far as the canceller has seen: take it off the queue. -/
def cancelQueued (jobId : String) (job : Snapshot) (call : LLMCallJob) : QueueM σ LLMCallJob := do
  Routine.issue (S := signature) .remove
  let now ← utcnow
  let call := { call with
    status := .cancelled, completedAt := some now, error := some cancelledBeforeExecution }
  let call ← saveJobPayload job.jobMeta call
  Routine.issue (S := signature) (.setStatus .canceled)
  xadd (cancelledEvent jobId)
  pure call

/-- The job runs: leave a request the worker is to see. -/
def requestCancel (jobId : String) (job : Snapshot) (call : LLMCallJob) : QueueM σ LLMCallJob := do
  let call ← saveJobPayload job.jobMeta call
  xadd (cancelRequestedEvent jobId call.status)
  pure call

def cancelLlmCall (settings : Settings) (jobId : String) : QueueM σ LLMCallJob := do
  let job ← getJob .cancelJob
  let call ← getJobResult settings jobId .cancelRecord
  let rqStatus ← getRqStatus
  if call.status.isTerminal then pure call
  else
    let call := { call with cancelRequested := true }
    if rqStatus.isPending then cancelQueued jobId job call
    else requestCancel jobId job call

end LanguageAgent.Queue
