import LanguageAgent.Domain.Json

/-! # The queued LLM call -/

namespace LanguageAgent

/-- Microseconds since the epoch, the resolution of a Python `datetime`. -/
abbrev Timestamp := Int

inductive CallType where
  | structuredJson
  | textGeneration
  | streamingTextGeneration
  deriving DecidableEq, Repr

inductive CallStatus where
  | queued
  | processing
  | streaming
  | completed
  | failed
  | cancelled
  deriving DecidableEq, Repr

namespace CallStatus

def text : CallStatus → String
  | .queued => "queued"
  | .processing => "processing"
  | .streaming => "streaming"
  | .completed => "completed"
  | .failed => "failed"
  | .cancelled => "cancelled"

/-- `status in {"completed", "failed", "cancelled"}` -/
def isTerminal : CallStatus → Bool
  | .completed | .failed | .cancelled => true
  | .queued | .processing | .streaming => false

end CallStatus

structure LLMCallJob where
  jobId : String
  callType : CallType
  prompt : Option String := none
  messages : List (List (String × String))
  mode : Option String := none
  generationParameters : Dict := []
  responseSchema : Option Dict := none
  createdAt : Timestamp
  startedAt : Option Timestamp := none
  completedAt : Option Timestamp := none
  status : CallStatus := .queued
  cancelRequested : Bool := false
  queuePosition : Option Nat := none
  elapsedSeconds : Option Rat := none
  streamChannel : Option String := none
  retryCount : Int := 0
  lastError : Option String := none
  /-- Declared `dict | str | None`, but assignment is not checked. -/
  result : Json := .null
  error : Option String := none

namespace LLMCallJob

/-- Whether `model_validate` accepts the dumped record: every field but `result`
    has its declared type by construction. -/
def validates (call : LLMCallJob) : Bool :=
  match call.result with
  | .null | .str _ | .obj _ => true
  | .bool _ | .int _ | .float _ | .arr _ => false

/-- `(later - earlier).total_seconds()`, floored at zero. -/
def secondsBetween (earlier later : Timestamp) : Rat := (max 0 (later - earlier) : Int) / 1000000

/-- The elapsed time up to `end_time`, from the start or else the creation. -/
def elapsedAt (call : LLMCallJob) (endTime : Timestamp) : Rat :=
  secondsBetween (call.startedAt.getD call.createdAt) endTime

end LLMCallJob

end LanguageAgent
