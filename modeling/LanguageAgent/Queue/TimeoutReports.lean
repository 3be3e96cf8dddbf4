import LanguageAgent.Gateway.QueuedGateway
import LanguageAgent.Queue.RecordContract

/-! # Timeouts that are not reported

The worker stores one of four fixed messages, or the one for a refused reply, and the
gateway looks for the word `timeout` in what was stored.
-/

namespace LanguageAgent.Queue

open Interleaving Gateway

variable {settings : Settings} {new : NewCall} {polls : Nat → Nat} {env : Environment} {d : System}

/-- None of the messages the worker stores for an exception says `timeout`. -/
theorem safeErrorMessage_silent (error : PyError) : saysTimeout (some (safeErrorMessage error)) = false := by
  unfold safeErrorMessage
  split
  · decide +kernel
  · split
    · decide +kernel
    · split
      · decide +kernel
      · decide +kernel

/-- Any result, and only messages in which the gateway sees no timeout. -/
def silentMessages : RecordRules where
  result _ := True
  lastError lastError := saysTimeout lastError = false
  null := trivial
  text _ := trivial
  none := rfl
  safe := safeErrorMessage_silent
  refused := by decide +kernel

/-- Whatever the model, the store and the other parties do, and whichever exception the
    last attempt fails with, `ask_llm` never ends in a `GenerationTimeoutError`. -/
theorem timeout_never_reported (run : machine.Reach Machine.anyStep (boot settings new polls env) d)
    {call : Nat} {waited : Outcome} (ended : d.program (.wait call) = .done waited) :
    askLlm waited ≠ .error (.api generationTimeoutError) := by
  have within : machine.Reach (answersWithin silentMessages) (boot settings new polls env) d := by
    apply run.weaken
    rintro trace w ⟨party, command⟩ _
    cases command <;> first | trivial | exact fun _ _ => trivial
  have honours := (records_within within).1 (.wait call)
  rw [ended] at honours
  intro reported
  obtain ⟨result, rfl, mentioned⟩ := askLlm_generationTimeout reported
  have held : silentMessages.Call result := honours result rfl
  exact absurd (held.lastError.symm.trans mentioned) Bool.false_ne_true

def serverTimeout : PyError :=
  { className := "LlamaServerTimeoutError", message := "llama-server timed out." }

/-- Every call of the model server times out. -/
def timingOut : Environment := { demoEnvironment with ask := fun _ _ _ => .error serverTimeout }

theorem timed_out_run : ∃ d : System,
    machine.Reach Machine.anyStep (boot noRetries (demoCall .structuredJson) (fun _ => 0) timingOut) d ∧
      ∃ call : LLMCallJob, d.program (.wait 0) = .done (.ok call) ∧ call.status = .failed ∧
        call.lastError = some (safeErrorMessage serverTimeout) := by
  obtain ⟨d, run, seen⟩ := Machine.schedule_observed machine Machine.anyStep
    (List.replicate 8 .api ++ List.replicate 16 .worker ++ List.replicate 3 (.wait 0))
    (boot noRetries (demoCall .structuredJson) (fun _ => 0) timingOut)
    (fun d => (returnedBy (.wait 0) d).map fun call => (call.status, call.lastError))
    (some (.failed, some (safeErrorMessage serverTimeout))) (by decide +kernel)
  obtain ⟨call, returned, same⟩ := Option.map_eq_some_iff.mp seen
  obtain ⟨failed, lastError⟩ := Prod.mk.inj same
  exact ⟨d, run, call, returnedBy_eq_some.mp returned, failed, lastError⟩

theorem timeout_never_reported_demo : ∃ (d : System) (waited : Outcome),
    d.program (.wait 0) = .done waited ∧ askLlm waited ≠ .error (.api generationTimeoutError) := by
  obtain ⟨d, run, call, ended, _⟩ := timed_out_run
  exact ⟨d, _, ended, timeout_never_reported run ended⟩

/-- The one attempt fails with a `LlamaServerTimeoutError`, and `ask_llm` reports a failure. -/
theorem timeout_reported_as_failure : ∃ (d : System) (waited : Outcome),
    machine.Reach Machine.anyStep (boot noRetries (demoCall .structuredJson) (fun _ => 0) timingOut) d ∧
      d.program (.wait 0) = .done waited ∧
      askLlm waited = .error (.api
        (llmServiceError "The language model failed while generating a response.")) := by
  obtain ⟨d, run, call, ended, failed, lastError⟩ := timed_out_run
  have silent : saysTimeout call.lastError = false := by
    rw [lastError]
    exact safeErrorMessage_silent serverTimeout
  refine ⟨d, _, run, ended, ?_⟩
  simp [askLlm, failed, silent]

end LanguageAgent.Queue
