import LanguageAgent.Interleaving.Protocol
import LanguageAgent.Queue.System

/-! # What each party may do next

One protocol for every party. A phase carries the party's own copy of the record,
so a move says exactly what is written, and the routines can be forgotten once
they are known to obey.
-/

namespace LanguageAgent

/-! ## The updates of a record -/

namespace LLMCallJob

def flagged (call : LLMCallJob) : LLMCallJob := { call with cancelRequested := true }

def withElapsed (call : LLMCallJob) (elapsed : Option Rat) : LLMCallJob :=
  { call with elapsedSeconds := elapsed }

def toProcessing (now : Timestamp) (call : LLMCallJob) : LLMCallJob :=
  { call with status := .processing, startedAt := some now }

def toStreaming (call : LLMCallJob) : LLMCallJob := { call with status := .streaming }

def toCompleted (now : Timestamp) (call : LLMCallJob) : LLMCallJob :=
  { call with status := .completed, completedAt := some now, lastError := none }

def toCancelled (message : String) (now : Timestamp) (call : LLMCallJob) : LLMCallJob :=
  { call with status := .cancelled, completedAt := some now, error := some message }

/-- The model's answer does not parse: the job fails without a retry. -/
def toRefused (message : String) (now : Timestamp) (call : LLMCallJob) : LLMCallJob :=
  { call with
    status := .failed, completedAt := some now, lastError := some message, error := some message }

def toRetry (message : String) (call : LLMCallJob) : LLMCallJob :=
  { call with
    retryCount := call.retryCount + 1, lastError := some message
    completedAt := none, status := .queued, error := none }

def toFailed (message : String) (now : Timestamp) (call : LLMCallJob) : LLMCallJob :=
  { call with
    retryCount := call.retryCount + 1, lastError := some message
    completedAt := some now, status := .failed, error := some message }

def withResult (result : Json) (call : LLMCallJob) : LLMCallJob := { call with result := result }

/-- The fields `get_job_result` recomputes may differ. -/
def SameButRead (payload call : LLMCallJob) : Prop :=
  ∃ channel position elapsed, call = { payload with
    streamChannel := channel, queuePosition := position, elapsedSeconds := elapsed }

end LLMCallJob

namespace Queue

open Interleaving

/-- The payload a fetch yields to `get_job_result`, if one is there and validates. -/
def readPayload (reply : Option Snapshot) : Option LLMCallJob :=
  reply.bind fun snapshot => snapshot.payload.filter LLMCallJob.validates

/-! ## The API -/

inductive ApiPhase where
  | start
  | pushed (payload : LLMCallJob)
  | recorded (saved : LLMCallJob)
  | finished

/-- The record as `enqueue_llm_call` dumps it. -/
def enqueued (settings : Settings) (new : NewCall) (elapsed : Option Rat) : LLMCallJob :=
  { new.toCall with
    streamChannel := some (getStreamChannel settings new.jobId), elapsedSeconds := elapsed }

inductive ApiMoves (settings : Settings) (new : NewCall) : Protocol signature ApiPhase where
  | neutral {phase command reply} (neutral : command.isNeutral) :
      ApiMoves settings new phase command reply phase
  | push {elapsed} : ApiMoves settings new .start (.push (enqueued settings new elapsed)) ()
      (.pushed (enqueued settings new elapsed))
  | save {payload elapsed} :
      ApiMoves settings new (.pushed payload)
        (.saveMeta { llmCall := some (payload.withElapsed elapsed) }) ()
        (if new.callType = .streamingTextGeneration then .recorded (payload.withElapsed elapsed)
          else .finished)
  | announce {saved position} :
      ApiMoves settings new (.recorded saved) (.xadd (queuedEvent new.jobId position)) () .finished

/-! ## A canceller -/

inductive CancelPhase where
  | start
  | fetched (job : Snapshot)
  | read (job : Snapshot) (call : LLMCallJob)
  | removing (job : Snapshot) (call : LLMCallJob)
  | removed (job : Snapshot) (call : LLMCallJob)
  | saved
  | marked
  | requesting (job : Snapshot) (call : LLMCallJob)
  | requested (status : CallStatus)
  /-- It has returned the job, or is about to. -/
  | returned (status : CallStatus) (flag : Bool)
  | raised

/-- The record a canceller writes back into its copy of `job.meta`. -/
def Snapshot.put (job : Snapshot) (call : LLMCallJob) : JobMeta :=
  { job.jobMeta with llmCall := some call }

inductive CancelMoves (jobId : String) : Protocol signature CancelPhase where
  | neutral {phase command reply} (neutral : command.isNeutral) :
      CancelMoves jobId phase command reply phase
  | fetch {job} : CancelMoves jobId .start (.fetchJob .cancelJob) (some job) (.fetched job)
  | missing : CancelMoves jobId .start (.fetchJob .cancelJob) none .raised
  | read {job reply payload} (readable : readPayload reply = some payload) :
      CancelMoves jobId (.fetched job) (.fetchJob .cancelRecord) reply (.read job payload)
  | unreadable {job reply} (unreadable : readPayload reply = none) :
      CancelMoves jobId (.fetched job) (.fetchJob .cancelRecord) reply .raised
  | late {job call status} (terminal : call.status.isTerminal) :
      CancelMoves jobId (.read job call) .jobStatus status
        (.returned call.status call.cancelRequested)
  | pending {job call status} (live : call.status.isTerminal = false)
      (pending : JobStatus.isPending status) :
      CancelMoves jobId (.read job call) .jobStatus status (.removing job call)
  | running {job call status} (live : call.status.isTerminal = false)
      (running : JobStatus.isPending status = false) :
      CancelMoves jobId (.read job call) .jobStatus status (.requesting job call)
  | remove {job call} : CancelMoves jobId (.removing job call) .remove () (.removed job call)
  | saveCancelled {job call copy now elapsed} (same : call.SameButRead copy) :
      CancelMoves jobId (.removed job call)
        (.saveMeta (job.put ((copy.flagged.toCancelled cancelledBeforeExecution now).withElapsed
          elapsed))) () .saved
  | mark : CancelMoves jobId .saved (.setStatus .canceled) () .marked
  | announceCancelled :
      CancelMoves jobId .marked (.xadd (cancelledEvent jobId)) () (.returned .cancelled true)
  | saveRequest {job call copy elapsed} (same : call.SameButRead copy) :
      CancelMoves jobId (.requesting job call)
        (.saveMeta (job.put (copy.flagged.withElapsed elapsed))) () (.requested call.status)
  | announceRequest {status} :
      CancelMoves jobId (.requested status) (.xadd (cancelRequestedEvent jobId status)) ()
        (.returned status true)

/-! ## A waiter -/

inductive WaitPhase where
  | polling
  | statusRead (call : LLMCallJob)
  | resultDue
  | returned (status : CallStatus)
  | raised

inductive WaitMoves : Protocol signature WaitPhase where
  | neutral {phase command reply} (neutral : command.isNeutral) :
      WaitMoves phase command reply phase
  | readStatus {reply payload} (readable : readPayload reply = some payload) :
      WaitMoves .polling (.fetchJob .statusRecord) reply (.statusRead payload)
  | statusUnreadable {reply} (unreadable : readPayload reply = none) :
      WaitMoves .polling (.fetchJob .statusRecord) reply .raised
  | settled {call status} (terminal : (overlayStatus call status).status.isTerminal) :
      WaitMoves (.statusRead call) .jobStatus status .resultDue
  | again {call status} (live : (overlayStatus call status).status.isTerminal = false) :
      WaitMoves (.statusRead call) .jobStatus status .polling
  | readResult {reply payload} (readable : readPayload reply = some payload) :
      WaitMoves .resultDue (.fetchJob .resultRecord) reply (.returned payload.status)
  | resultUnreadable {reply} (unreadable : readPayload reply = none) :
      WaitMoves .resultDue (.fetchJob .resultRecord) reply .raised

/-! ## The worker -/

/-- The worker's own copy: RQ's job object and the record it works on. -/
structure Copy where
  jobMeta : JobMeta
  call : LLMCallJob

namespace Copy

/-- The copy after `set_job_payload` has dumped this record. -/
def put (copy : Copy) (call : LLMCallJob) (elapsed : Option Rat) : Copy where
  jobMeta := { copy.jobMeta with llmCall := some (call.withElapsed elapsed) }
  call := call.withElapsed elapsed

/-- The copy after a failure handler has also kept its bookkeeping in `job.meta`. -/
def putFailure (copy : Copy) (call : LLMCallJob) (elapsed : Option Rat) : Copy where
  jobMeta := { copy.jobMeta with
    llmCall := some (call.withElapsed elapsed), retryCount := some call.retryCount
    lastError := some call.lastError }
  call := call.withElapsed elapsed

def mapCall (copy : Copy) (f : LLMCallJob → LLMCallJob) : Copy := { copy with call := f copy.call }

/-- An exception may have caught the record between two assignments. -/
def Altered (copy other : Copy) : Prop :=
  ∃ status flag completedAt lastError error result elapsed, other = copy.mapCall fun call =>
    { call with
      status := status, cancelRequested := flag, completedAt := completedAt, lastError := lastError
      error := error, result := result, elapsedSeconds := elapsed }

theorem Altered.refl {copy : Copy} : copy.Altered copy :=
  ⟨_, _, _, _, _, _, _, rfl⟩

end Copy

/-- The record an attempt starts from. -/
def loaded (jobMeta : JobMeta) (payload : LLMCallJob) : LLMCallJob :=
  let call := jobMeta.llmCall.getD payload
  { call with
    retryCount := jobMeta.retryCount.getD call.retryCount
    lastError := jobMeta.lastError.getD call.lastError }

inductive WorkerPoint where
  | idle
  | popped
  | fetched (job : Snapshot)
  | started (copy : Copy)
  /-- The first check found no request to cancel. -/
  | starting (copy : Copy)
  | announcing (copy : Copy)
  | ready (copy : Copy)
  | serving (copy : Copy)
  | streamSaved (copy : Copy)
  | opening (copy : Copy)
  | reading (copy : Copy) (parts : List String) (pending : List (Option String))
      (ending : Option PyError)
  | publishing (copy : Copy) (parts : List String) (token : String) (pending : List (Option String))
      (ending : Option PyError)
  | checking (copy : Copy) (parts : List String) (pending : List (Option String))
      (ending : Option PyError)
  /-- The loop is left by an exception; a cancellation carries its message. -/
  | closing (copy : Copy) (cancelled : Option String)
  | answered (copy : Copy)
  /-- The last check found no request to cancel. -/
  | deciding (copy : Copy)
  | doneDue (copy : Copy)
  /-- A cancellation was seen; `inTry` tells whether an exception may still be raised. -/
  | stopping (copy : Copy) (message : String) (inTry : Bool)
  | cancelDue (copy : Copy) (message : String) (inTry : Bool)
  | faulted (copy : Copy)
  | refused (copy : Copy) (message : String)
  | refusalDue (copy : Copy) (message : String)
  | retryDue (copy : Copy)
  | failDue (copy : Copy)
  | returning (copy : Copy) (inTry : Bool)
  /-- The attempt raised, and RQ's job object has this `meta`. It had saved a failure,
      unless it never got to start. -/
  | raised (saved : Option LLMCallJob) (jobMeta : JobMeta)
  | ended

namespace WorkerPoint

/-- The copy held where RQ's timeout or the store may raise. -/
def guardedCopy : WorkerPoint → Option Copy
  | .serving copy | .streamSaved copy | .opening copy | .reading copy _ _ _
  | .publishing copy _ _ _ _ | .checking copy _ _ _ | .closing copy _ | .answered copy
  | .deciding copy | .doneDue copy | .stopping copy _ true | .cancelDue copy _ true
  | .faulted copy | .returning copy true => some copy
  | _ => none

/-- A stream is open, and is closed before an exception goes on. -/
def inLoop : WorkerPoint → Bool
  | .reading _ _ _ _ | .publishing _ _ _ _ _ | .checking _ _ _ _ | .closing _ _ => true
  | _ => false

/-- A streaming job announces the change before it goes on. -/
def whenStreaming (copy : Copy) (announce otherwise : WorkerPoint) : WorkerPoint :=
  if copy.call.callType = .streamingTextGeneration then announce else otherwise

theorem whenStreaming_streaming {copy : Copy} {announce otherwise : WorkerPoint}
    (streaming : copy.call.callType = .streamingTextGeneration) :
    whenStreaming copy announce otherwise = announce := if_pos streaming

theorem whenStreaming_silent {copy : Copy} {announce otherwise : WorkerPoint}
    (silent : copy.call.callType ≠ .streamingTextGeneration) :
    whenStreaming copy announce otherwise = otherwise := if_neg silent

theorem whenStreaming_cases {motive : WorkerPoint → Prop} {copy : Copy}
    {announce otherwise : WorkerPoint} (announced : motive announce) (silent : motive otherwise) :
    motive (whenStreaming copy announce otherwise) := by
  unfold whenStreaming
  split
  · exact announced
  · exact silent

end WorkerPoint

open WorkerPoint in
/-- The moves of one attempt. -/
inductive AttemptMoves (settings : Settings) : Protocol signature WorkerPoint where
  | neutral {point command reply} (neutral : command.isNeutral) :
      AttemptMoves settings point command reply point
  | uninterrupted {point} : AttemptMoves settings point .interrupt none point
  | interrupted {point copy other error} (held : point.guardedCopy = some copy)
      (altered : copy.Altered other) :
      AttemptMoves settings point .interrupt (some error) (.faulted other)
  | interruptedLoop {point copy other error} (held : point.guardedCopy = some copy)
      (altered : copy.Altered other) (inLoop : point.inLoop) :
      AttemptMoves settings point .interrupt (some error) (.closing other none)
  | pop : AttemptMoves settings .idle .pop () .popped
  | fetch {job} : AttemptMoves settings .popped (.fetchJob .dequeue) (some job) (.fetched job)
  | missing : AttemptMoves settings .popped (.fetchJob .dequeue) none (.raised none {})
  | start {job} (valid : (job.jobMeta.llmCall.getD job.args).validates) :
      AttemptMoves settings (.fetched job) (.setStatus .started) ()
        (.started ⟨job.jobMeta, loaded job.jobMeta job.args⟩)
  | startInvalid {job} (invalid : (job.jobMeta.llmCall.getD job.args).validates = false) :
      AttemptMoves settings (.fetched job) (.setStatus .started) () (.raised none job.jobMeta)
  | startUnreadable {copy reply} (unreadable : readPayload reply = none) :
      AttemptMoves settings (.started copy) (.fetchJob .startCheck) reply (.raised none copy.jobMeta)
  | startCancelled {copy reply payload} (readable : readPayload reply = some payload)
      (requested : payload.cancelRequested) :
      AttemptMoves settings (.started copy) (.fetchJob .startCheck) reply
        (.stopping (copy.mapCall LLMCallJob.flagged)
          "LLM job was cancelled before processing started." false)
  | startClear {copy reply payload} (readable : readPayload reply = some payload)
      (clear : payload.cancelRequested = false) :
      AttemptMoves settings (.started copy) (.fetchJob .startCheck) reply (.starting copy)
  | saveProcessing {copy elapsed} (now) :
      AttemptMoves settings (.starting copy)
        (.saveMeta (copy.put (copy.call.toProcessing now) elapsed).jobMeta) ()
        (whenStreaming copy (.announcing (copy.put (copy.call.toProcessing now) elapsed))
          (.ready (copy.put (copy.call.toProcessing now) elapsed)))
  | announceProcessing {copy} :
      AttemptMoves settings (.announcing copy) (.xadd (buildStreamEvent copy.call [])) ()
        (.ready copy)
  | load {copy} : AttemptMoves settings (.ready copy) .loadService none (.serving copy)
  | loadFailed {copy error} :
      AttemptMoves settings (.ready copy) .loadService (some error) (.faulted copy)
  | ask {copy value} (structured : copy.call.callType = .structuredJson) :
      AttemptMoves settings (.serving copy)
        (.askModel (modelRequest copy.call) (copy.call.responseSchema.getD [])) (.ok value)
        (.answered (copy.mapCall (LLMCallJob.withResult value)))
  | askRefused {copy error} (structured : copy.call.callType = .structuredJson)
      (refuses : PyError.valueTypeOrKey error) :
      AttemptMoves settings (.serving copy)
        (.askModel (modelRequest copy.call) (copy.call.responseSchema.getD [])) (.error error)
        (.refused copy invalidStructuredResponse)
  | askFailed {copy error} (structured : copy.call.callType = .structuredJson)
      (fails : PyError.valueTypeOrKey error = false) :
      AttemptMoves settings (.serving copy)
        (.askModel (modelRequest copy.call) (copy.call.responseSchema.getD [])) (.error error)
        (.faulted copy)
  | generate {copy text} (plain : copy.call.callType = .textGeneration) :
      AttemptMoves settings (.serving copy) (.generateText (modelRequest copy.call)) (.ok text)
        (.answered (copy.mapCall (LLMCallJob.withResult (.str text))))
  | generateFailed {copy error} (plain : copy.call.callType = .textGeneration) :
      AttemptMoves settings (.serving copy) (.generateText (modelRequest copy.call)) (.error error)
        (.faulted copy)
  | saveStreaming {copy elapsed} (streaming : copy.call.callType = .streamingTextGeneration) :
      AttemptMoves settings (.serving copy)
        (.saveMeta (copy.put copy.call.toStreaming elapsed).jobMeta) ()
        (.streamSaved (copy.put copy.call.toStreaming elapsed))
  | announceStreaming {copy} :
      AttemptMoves settings (.streamSaved copy) (.xadd (buildStreamEvent copy.call [])) ()
        (.opening copy)
  | openStream {copy} {stream : ModelStream} :
      AttemptMoves settings (.opening copy) (.openStream (modelRequest copy.call)) stream
        (.reading copy [] stream.chunks stream.ending)
  | nextToken {copy parts content token pending ending} (visible : visibleToken content = some token) :
      AttemptMoves settings (.reading copy parts (content :: pending) ending) .nextChunk ()
        (.publishing copy parts token pending ending)
  | nextBlank {copy parts content pending ending} (blank : visibleToken content = none) :
      AttemptMoves settings (.reading copy parts (content :: pending) ending) .nextChunk ()
        (.checking copy parts pending ending)
  | publish {copy parts token pending ending} :
      AttemptMoves settings (.publishing copy parts token pending ending)
        (.xadd (buildStreamEvent copy.call [("token", .str token)])) ()
        (.checking copy (parts ++ [token]) pending ending)
  | checkUnreadable {copy parts pending ending reply} (unreadable : readPayload reply = none) :
      AttemptMoves settings (.checking copy parts pending ending) (.fetchJob .chunkCheck) reply
        (.closing copy none)
  | checkCancelled {copy parts pending ending reply payload}
      (readable : readPayload reply = some payload) (requested : payload.cancelRequested) :
      AttemptMoves settings (.checking copy parts pending ending) (.fetchJob .chunkCheck) reply
        (.closing (copy.mapCall LLMCallJob.flagged) (some cancelledDuringGeneration))
  | checkClear {copy parts pending ending reply payload}
      (readable : readPayload reply = some payload) (clear : payload.cancelRequested = false) :
      AttemptMoves settings (.checking copy parts pending ending) (.fetchJob .chunkCheck) reply
        (.reading copy parts pending ending)
  | closeAnswered {copy parts} :
      AttemptMoves settings (.reading copy parts [] none) .closeStream ()
        (.answered (copy.mapCall (LLMCallJob.withResult (.str (String.join parts)))))
  | closeBroken {copy parts error} :
      AttemptMoves settings (.reading copy parts [] (some error)) .closeStream () (.faulted copy)
  | closeFaulted {copy} : AttemptMoves settings (.closing copy none) .closeStream () (.faulted copy)
  | closeCancelled {copy message} :
      AttemptMoves settings (.closing copy (some message)) .closeStream ()
        (.stopping copy message true)
  | finalUnreadable {copy reply} (unreadable : readPayload reply = none) :
      AttemptMoves settings (.answered copy) (.fetchJob .finalCheck) reply (.faulted copy)
  | finalCancelled {copy reply payload} (readable : readPayload reply = some payload)
      (requested : payload.cancelRequested) :
      AttemptMoves settings (.answered copy) (.fetchJob .finalCheck) reply
        (.stopping (copy.mapCall LLMCallJob.flagged)
          "LLM job was cancelled before the result was returned." true)
  | finalClear {copy reply payload} (readable : readPayload reply = some payload)
      (clear : payload.cancelRequested = false) :
      AttemptMoves settings (.answered copy) (.fetchJob .finalCheck) reply (.deciding copy)
  | saveCompleted {copy elapsed} (now) :
      AttemptMoves settings (.deciding copy)
        (.saveMeta (copy.put (copy.call.toCompleted now) elapsed).jobMeta) ()
        (whenStreaming copy (.doneDue (copy.put (copy.call.toCompleted now) elapsed))
          (.returning (copy.put (copy.call.toCompleted now) elapsed) true))
  | announceDone {copy} :
      AttemptMoves settings (.doneDue copy)
        (.xadd (buildStreamEvent copy.call [("done", .bool true)])) () (.returning copy true)
  | saveCancelled {copy message inTry elapsed} (now) :
      AttemptMoves settings (.stopping copy message inTry)
        (.saveMeta (copy.put (copy.call.toCancelled message now) elapsed).jobMeta) ()
        (.cancelDue (copy.put (copy.call.toCancelled message now) elapsed) message inTry)
  | announceCancelled {copy message inTry} :
      AttemptMoves settings (.cancelDue copy message inTry)
        (.xadd (buildStreamEvent copy.call
          [("message", .str message), ("cancelled", .bool true), ("done", .bool true)])) ()
        (.returning copy inTry)
  | saveRefused {copy message elapsed} (now) :
      AttemptMoves settings (.refused copy message)
        (.saveMeta (copy.putFailure (copy.call.toRefused message now) elapsed).jobMeta) ()
        (whenStreaming copy
          (.refusalDue (copy.putFailure (copy.call.toRefused message now) elapsed) message)
          (.returning (copy.putFailure (copy.call.toRefused message now) elapsed) false))
  | announceRefused {copy message} :
      AttemptMoves settings (.refusalDue copy message)
        (.xadd (buildStreamEvent copy.call
          [("error", .str "llm_service_error"), ("message", .str message), ("done", .bool true)])) ()
        (.returning copy false)
  | saveRetry {copy elapsed} (message) (within : copy.call.retryCount + 1 ≤ settings.llmJobMaxRetries) :
      AttemptMoves settings (.faulted copy)
        (.saveMeta (copy.putFailure (copy.call.toRetry message) elapsed).jobMeta) ()
        (whenStreaming copy (.retryDue (copy.putFailure (copy.call.toRetry message) elapsed))
          (.raised (some (copy.putFailure (copy.call.toRetry message) elapsed).call)
            (copy.putFailure (copy.call.toRetry message) elapsed).jobMeta))
  | announceRetry {copy} :
      AttemptMoves settings (.retryDue copy)
        (.xadd (buildStreamEvent copy.call
          [("message", .str "Retrying after a transient worker failure."), ("error", .null),
            ("done", .bool false)])) () (.raised (some copy.call) copy.jobMeta)
  | saveFailed {copy elapsed} (message now)
      (spent : ¬ copy.call.retryCount + 1 ≤ settings.llmJobMaxRetries) :
      AttemptMoves settings (.faulted copy)
        (.saveMeta (copy.putFailure (copy.call.toFailed message now) elapsed).jobMeta) ()
        (whenStreaming copy (.failDue (copy.putFailure (copy.call.toFailed message now) elapsed))
          (.raised (some (copy.putFailure (copy.call.toFailed message now) elapsed).call)
            (copy.putFailure (copy.call.toFailed message now) elapsed).jobMeta))
  | announceFailed {copy} :
      AttemptMoves settings (.failDue copy)
        (.xadd (buildStreamEvent copy.call
          [("message", .optStr copy.call.lastError), ("error", .str "llm_service_error"),
            ("done", .bool true)])) () (.raised (some copy.call) copy.jobMeta)
  | finish {copy inTry elapsed} :
      AttemptMoves settings (.returning copy inTry) (.finish (copy.call.withElapsed elapsed)) ()
        .ended

/-- The worker's point and the re-runs RQ will still grant. -/
structure WorkerPhase where
  left : Nat
  point : WorkerPoint

inductive WorkerMoves (settings : Settings) : Protocol signature WorkerPhase where
  | attempt {left point command reply after}
      (move : AttemptMoves settings point command reply after) :
      WorkerMoves settings ⟨left, point⟩ command reply ⟨left, after⟩
  | requeue {left saved jobMeta} :
      WorkerMoves settings ⟨left + 1, .raised saved jobMeta⟩ (.requeue jobMeta) () ⟨left, .idle⟩
  | giveUp {saved jobMeta} :
      WorkerMoves settings ⟨0, .raised saved jobMeta⟩ .giveUp () ⟨0, .ended⟩

/-! ## All parties -/

inductive ReaperMoves (settings : Settings) : Protocol signature Unit where
  | abandon : ReaperMoves settings () (.abandon (rqRetries settings)) () ()

abbrev Phase : Party → Type
  | .api => ApiPhase
  | .worker => WorkerPhase
  | .cancel _ => CancelPhase
  | .wait _ => WaitPhase
  | .reaper => Unit

def Moves (settings : Settings) (new : NewCall) : ∀ party, Protocol signature (Phase party)
  | .api => ApiMoves settings new
  | .worker => WorkerMoves settings
  | .cancel _ => CancelMoves new.jobId
  | .wait _ => WaitMoves
  | .reaper => ReaperMoves settings

end Queue

end LanguageAgent
