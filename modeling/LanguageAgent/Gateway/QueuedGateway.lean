import LanguageAgent.Queue.System

/-! # The queued gateway

`QueuedLLMGateway.ask_llm` once its wait for the job has ended.
-/

namespace LanguageAgent.Gateway

open Queue

/-- `APIError` and its subclasses. -/
structure APIError where
  statusCode : Nat := 500
  error : String
  message : String
  deriving DecidableEq, Repr

def llmServiceError (message : String) : APIError :=
  { error := "llm_service_error", message := message }

def queueWaitTimeoutError : APIError :=
  { statusCode := 504, error := "queue_wait_timeout"
    message := "The request waited too long in the language model queue." }

def generationTimeoutError : APIError :=
  { statusCode := 504, error := "generation_timeout"
    message := "The language model took too long to generate a response." }

inductive AskError where
  | api (error : APIError)
  /-- An exception of the queue service that `ask_llm` lets through. -/
  | queue (error : QueueError)
  deriving DecidableEq

/-- `last_error and "timeout" in last_error.lower()` -/
def saysTimeout (lastError : Option String) : Bool :=
  match lastError with
  | some text => text ≠ "" && mentions "timeout" text
  | none => false

/-- What `ask_llm` makes of the end of `wait_for_job_result`. -/
def askLlm (waited : Outcome) : Except AskError Dict :=
  match waited with
  | .error (.other error) =>
      if error.className = "TimeoutError" then .error (.api queueWaitTimeoutError)
      else .error (.queue (.other error))
  | .error error => .error (.queue error)
  | .ok result =>
      if result.status ≠ .completed then
        if result.status = .cancelled then
          .error (.api (llmServiceError "The language model request was cancelled."))
        else if saysTimeout result.lastError then .error (.api generationTimeoutError)
        else .error (.api (llmServiceError "The language model failed while generating a response."))
      else match result.result with
        | .obj fields => .ok fields
        | _ => .error (.api (llmServiceError "The language model returned an invalid response."))

/-- Only a record whose last error mentions a timeout makes `ask_llm` report one. -/
theorem askLlm_generationTimeout {waited : Outcome}
    (reported : askLlm waited = .error (.api generationTimeoutError)) :
    ∃ result, waited = .ok result ∧ saysTimeout result.lastError = true := by
  have otherError : ∀ message, llmServiceError message ≠ generationTimeoutError := by
    intro message same
    have status : (500 : Nat) = 504 := congrArg APIError.statusCode same
    omega
  have otherTimeout : queueWaitTimeoutError ≠ generationTimeoutError := by decide
  unfold askLlm at reported
  split at reported
  · split at reported
    · exact absurd (AskError.api.inj (Except.error.inj reported)) otherTimeout
    · cases reported
  · cases reported
  · rename_i result
    split at reported
    · split at reported
      · exact absurd (AskError.api.inj (Except.error.inj reported)) (otherError _)
      · split at reported
        · exact ⟨result, rfl, ‹_›⟩
        · exact absurd (AskError.api.inj (Except.error.inj reported)) (otherError _)
    · split at reported
      · cases reported
      · exact absurd (AskError.api.inj (Except.error.inj reported)) (otherError _)

end LanguageAgent.Gateway
