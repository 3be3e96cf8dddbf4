import LanguageAgent.Queue.JobStore
import Mathlib.Data.List.Infix

/-! # The queue worker

`process_llm_call` and the RQ loop that runs it. The local state is RQ's job
object (its `meta`) and the `llm_call` record, both of which the exception
handlers see as the failing statement left them.
-/

namespace LanguageAgent.Queue

open Interleaving

structure WorkerLocals where
  jobMeta : JobMeta
  call : LLMCallJob
  /-- Inside the `try` block, where a store operation or RQ's timeout may raise. -/
  guarded : Bool := false

abbrev WorkerM := QueueM WorkerLocals

def currentCall : WorkerM LLMCallJob := do
  let locals ← Routine.get
  pure locals.call

def modifyCall (f : LLMCallJob → LLMCallJob) : WorkerM Unit :=
  Routine.modify fun locals => { locals with call := f locals.call }

def setGuarded (guarded : Bool) : WorkerM Unit :=
  Routine.modify fun locals => { locals with guarded := guarded }

/-- An exception may be raised here, if the statement lies in the `try` block. -/
def interruptible : WorkerM Unit := do
  let locals ← Routine.get
  if locals.guarded then
    match ← Routine.issue (S := signature) .interrupt with
    | some error => throw (.other error)
    | none => pure ()
  else pure ()

/-- An operation may raise before it takes effect or after. -/
def interruptibly {α : Type} (operation : WorkerM α) : WorkerM α := do
  interruptible
  let reply ← operation
  interruptible
  pure reply

/-! ## Store operations of the worker -/

def setJobPayload : WorkerM Unit := interruptibly do
  let locals ← Routine.get
  let call ← serializeLlmCall locals.call
  let saved := { locals.jobMeta with llmCall := some call }
  Routine.modify fun locals => { locals with jobMeta := saved, call := call }
  saveMeta saved

def appendStreamEvent (event : Dict) : WorkerM Unit := interruptibly (xadd event)

def checkCancelRequested (settings : Settings) (site : FetchSite) : WorkerM Bool :=
  interruptibly do
    let call ← currentCall
    isCancelRequested settings call.jobId site

/-- `"timeout" in name` and its like, on the lowered text. -/
def mentions (word text : String) : Bool :=
  decide (word.toList <:+: text.toList.map Char.toLower)

def safeErrorMessage (error : PyError) : String :=
  if mentions "unavailable" error.className || mentions "unavailable" error.message then
    "The external llama-server is unavailable."
  else if mentions "interrupt" error.className || mentions "interrupt" error.message then
    "The model server interrupted generation."
  else if mentions "timeout" error.className then
    "The language model job timed out."
  else "The language model worker hit an internal execution error."

def buildStreamEvent (call : LLMCallJob) (extra : Dict) : Dict :=
  Dict.update [("job_id", .str call.jobId), ("status", .str call.status.text),
    ("cancel_requested", .bool call.cancelRequested),
    ("elapsed_seconds", .optFloat call.elapsedSeconds)] extra

/-- `append_stream_event(llm_call.job_id, build_stream_event(llm_call, **extra))` -/
def publish (extra : Dict) : WorkerM Unit := do
  let call ← currentCall
  appendStreamEvent (buildStreamEvent call extra)

/-- The final `serialize_llm_call(llm_call)` of a return statement. -/
def returnCall : WorkerM LLMCallJob := do
  let call ← currentCall
  serializeLlmCall call

/-- Inside the `try` block RQ's timeout may fire between the assignments too. -/
def finalizeCancelledJob (message : String) : WorkerM LLMCallJob := do
  modifyCall fun call => { call with status := .cancelled }
  interruptible
  let now ← utcnow
  modifyCall fun call => { call with completedAt := some now }
  interruptible
  modifyCall fun call => { call with error := some message }
  setJobPayload
  publish [("message", .str message), ("cancelled", .bool true), ("done", .bool true)]
  returnCall

/-! ## The model call -/

def invalidStructuredResponse : String :=
  "The language model returned an invalid structured response."

def setResult (result : Json) : WorkerM Unit := modifyCall fun call => { call with result := result }

def modelRequest (call : LLMCallJob) : ModelRequest :=
  ⟨call.messages, call.mode, call.generationParameters⟩

def loadService : WorkerM Unit := do
  match ← Routine.issue (S := signature) .loadService with
  | some error => throw (.other error)
  | none => pure ()

/-- `ValueError`, `TypeError` and `KeyError` of the model call are not retried. -/
def askModel (call : LLMCallJob) : WorkerM Unit := do
  match ← Routine.issue (S := signature)
      (.askModel (modelRequest call) (call.responseSchema.getD [])) with
  | .ok value => setResult value
  | .error error =>
      if error.valueTypeOrKey then throw (.nonRetryable invalidStructuredResponse)
      else throw (.other error)

def generateText (call : LLMCallJob) : WorkerM Unit := do
  match ← Routine.issue (S := signature) (.generateText (modelRequest call)) with
  | .ok text => setResult (.str text)
  | .error error => throw (.other error)

def cancelledDuringGeneration : String := "LLM streaming job was cancelled during generation."

/-- `if token:` holds for a string that is not empty. -/
def visibleToken (content : Option String) : Option String :=
  content.bind fun token => if token = "" then none else some token

/-- Stop between chunks when the job has been asked to. -/
def checkChunk (settings : Settings) (parts : List String) : WorkerM (List String) := do
  if ← checkCancelRequested settings .chunkCheck then
    modifyCall fun call => { call with cancelRequested := true }
    throw (.cancelled cancelledDuringGeneration)
  else pure parts

/-- One chunk: its token is published and kept, and then cancellation is checked. -/
def handleChunk (settings : Settings) (parts : List String) (content : Option String) :
    WorkerM (List String) := do
  Routine.issue (S := signature) .nextChunk
  match visibleToken content with
  | some token => do
      publish [("token", .str token)]
      checkChunk settings (parts ++ [token])
  | none => checkChunk settings parts

def handleChunks (settings : Settings) (ending : Option PyError) (parts : List String) :
    List (Option String) → WorkerM (List String)
  | [] => match ending with
      | some error => throw (.other error)
      | none => pure parts
  | content :: rest => do
      let parts ← handleChunk settings parts content
      handleChunks settings ending parts rest

def closeStreamIterator : WorkerM Unit := interruptibly (Routine.issue (S := signature) .closeStream)

def streamTokens (settings : Settings) (call : LLMCallJob) : WorkerM Unit := do
  modifyCall fun call => { call with status := .streaming }
  setJobPayload
  publish []
  let stream ← Routine.issue (S := signature) (.openStream (modelRequest call))
  let parts ← (handleChunks settings stream.ending [] stream.chunks).ensuring closeStreamIterator
  setResult (.str (String.join parts))

/-- The body of `with _MODEL_LOCK`. -/
def callModel (settings : Settings) : WorkerM Unit := do
  loadService
  let call ← currentCall
  match call.callType with
  | .structuredJson => askModel call
  | .textGeneration => generateText call
  | .streamingTextGeneration => streamTokens settings call

/-! ## One attempt -/

/-- The record the attempt starts from: the saved one, or else the job's argument,
    with the retry bookkeeping of `job.meta`. -/
def loadCall (payload : LLMCallJob) : WorkerM Unit := do
  let locals ← Routine.get
  let call ← modelValidate (locals.jobMeta.llmCall.getD payload)
  modifyCall fun _ => { call with
    retryCount := locals.jobMeta.retryCount.getD call.retryCount
    lastError := locals.jobMeta.lastError.getD call.lastError }

def publishIfStreaming (extra : Dict) : WorkerM Unit := do
  let call ← currentCall
  if call.callType = .streamingTextGeneration then publish extra else pure ()

def markProcessing : WorkerM Unit := do
  modifyCall fun call => { call with status := .processing }
  let now ← utcnow
  modifyCall fun call => { call with startedAt := some now }
  let call ← currentCall
  recordWaitTime (LLMCallJob.secondsBetween call.createdAt now)
  setJobPayload
  publishIfStreaming []

/-- The rest of the `try` block once the model has answered. The assignments are
    separate statements, and RQ's timeout may fire between them. -/
def completeCall (settings : Settings) : WorkerM LLMCallJob := do
  if ← checkCancelRequested settings .finalCheck then
    modifyCall fun call => { call with cancelRequested := true }
    finalizeCancelledJob "LLM job was cancelled before the result was returned."
  else
    modifyCall fun call => { call with status := .completed }
    interruptible
    let now ← utcnow
    modifyCall fun call => { call with completedAt := some now }
    interruptible
    modifyCall fun call => { call with lastError := none }
    setJobPayload
    interruptibly do
      let call ← currentCall
      recordCompletionMetrics call
    publishIfStreaming [("done", .bool true)]
    returnCall

/-- The retry bookkeeping both failure handlers write to `job.meta` before saving. -/
def saveFailure : WorkerM Unit := do
  Routine.modify fun locals => { locals with jobMeta := { locals.jobMeta with
    retryCount := some locals.call.retryCount, lastError := some locals.call.lastError } }
  setJobPayload

def handleNonRetryable (message : String) : WorkerM LLMCallJob := do
  modifyCall fun call => { call with status := .failed }
  let now ← utcnow
  modifyCall fun call =>
    { call with completedAt := some now, lastError := some message, error := some message }
  saveFailure
  publishIfStreaming [("error", .str "llm_service_error"), ("message", .str message),
    ("done", .bool true)]
  returnCall

/-- `except Exception`: the attempt ends by raising again, retried or not. -/
def handleException (settings : Settings) (error : PyError) : WorkerM LLMCallJob := do
  modifyCall fun call =>
    { call with retryCount := call.retryCount + 1, lastError := some (safeErrorMessage error) }
  let call ← currentCall
  if call.retryCount ≤ settings.llmJobMaxRetries then
    modifyCall fun call => { call with completedAt := none, status := .queued, error := none }
    saveFailure
    publishIfStreaming [("message", .str "Retrying after a transient worker failure."),
      ("error", .null), ("done", .bool false)]
  else
    let now ← utcnow
    modifyCall fun call =>
      { call with completedAt := some now, status := .failed, error := call.lastError }
    saveFailure
    publishIfStreaming [("message", .optStr call.lastError), ("error", .str "llm_service_error"),
      ("done", .bool true)]
  throw (.other error)

def handleFailure (settings : Settings) (error : QueueError) : WorkerM LLMCallJob := do
  setGuarded false
  match error with
  | .cancelled message => finalizeCancelledJob message
  | .nonRetryable message => handleNonRetryable message
  | .other error => handleException settings error

def processLlmCall (settings : Settings) (payload : LLMCallJob) : WorkerM LLMCallJob := do
  loadCall payload
  if ← checkCancelRequested settings .startCheck then
    modifyCall fun call => { call with cancelRequested := true }
    finalizeCancelledJob "LLM job was cancelled before processing started."
  else
    markProcessing
    tryCatch
      (do setGuarded true
          callModel settings
          completeCall settings)
      (handleFailure settings)

/-! ## RQ -/

abbrev Outcome := Except QueueError LLMCallJob

/-- RQ's view of one attempt: take the job, load it, mark it started, call the function.
    The job object outlives the call, with its `meta` as the function left it. -/
def runAttempt (settings : Settings) : Program signature (Outcome × JobMeta) :=
  .issue .pop fun _ => .issue (.fetchJob .dequeue) fun snapshot =>
    match snapshot with
    | none => .done (.error (.other { className := "NoSuchJobError", message := "No such job" }), {})
    | some job => .issue (.setStatus .started) fun _ =>
        (processLlmCall settings job.args ⟨job.jobMeta, job.args, false⟩).bind fun out =>
          .done (out.1, out.2.jobMeta)

/-- A normal return finishes the job; a raise is left to the retry policy. -/
def settle (raised : QueueError → JobMeta → Program signature Outcome) :
    Outcome × JobMeta → Program signature Outcome
  | (.ok call, _) => .issue (.finish call) fun _ => .done (.ok call)
  | (.error error, jobMeta) => raised error jobMeta

/-- `Retry(max=N)`: a raise runs the job again while re-runs are left. -/
def runJob (settings : Settings) : Nat → Program signature Outcome
  | 0 => (runAttempt settings).bind
      (settle fun error _ => .issue .giveUp fun _ => .done (.error error))
  | retriesLeft + 1 => (runAttempt settings).bind
      (settle fun _ jobMeta => .issue (.requeue jobMeta) fun _ => runJob settings retriesLeft)

/-- `Retry(max=retry_max) if retry_max > 0 else None` -/
def rqRetries (settings : Settings) : Nat := settings.llmJobMaxRetries.toNat

end LanguageAgent.Queue
