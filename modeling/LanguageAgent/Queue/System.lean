import LanguageAgent.Queue.QueueService
import LanguageAgent.Queue.Worker

/-! # The processes around one job

The API enqueues the call, a worker runs it, and any number of cancellers and
waiters may step in between. Every party starts from an empty Redis.
-/

namespace LanguageAgent.Queue

open Interleaving

/-- What the gateway fills in when it creates a job; every other field has its default. -/
structure NewCall where
  jobId : String
  callType : CallType
  prompt : Option String
  messages : List (List (String × String))
  mode : Option String
  generationParameters : Dict
  responseSchema : Option Dict
  createdAt : Timestamp

def NewCall.toCall (new : NewCall) : LLMCallJob where
  jobId := new.jobId
  callType := new.callType
  prompt := new.prompt
  messages := new.messages
  mode := new.mode
  generationParameters := new.generationParameters
  responseSchema := new.responseSchema
  createdAt := new.createdAt

/-- The commands of a routine of the API process, and how it ends. -/
def outcomeOf (routine : QueueM Unit LLMCallJob) : Program signature Outcome :=
  (routine ()).bind fun out => .done out.1

/-- RQ's cleanup of a job whose worker died; it has no outcome of its own. -/
def reap (settings : Settings) : Program signature Outcome :=
  .issue (.abandon (rqRetries settings)) fun _ => .done (.error (.other
    { className := "AbandonedJobError", message := "Moved to the failed job registry." }))

/-- The program of each party. A waiter polls as often as `polls` says before its deadline. -/
def programs (settings : Settings) (new : NewCall) (polls : Nat → Nat) :
    Party → Program signature Outcome
  | .api => outcomeOf (enqueueLlmCall settings new.toCall)
  | .worker => runJob settings (rqRetries settings)
  | .cancel _ => outcomeOf (cancelLlmCall settings new.jobId)
  | .wait call => outcomeOf (waitForJobResult settings new.jobId (polls call))
  | .reaper => reap settings

abbrev System := Config signature Party World Outcome

/-- Before anything has happened. -/
def boot (settings : Settings) (new : NewCall) (polls : Nat → Nat) (env : Environment) : System :=
  ⟨[], { env := env }, programs settings new polls⟩

/-- Only the API moves. -/
def apiAlone : Guard signature Party World := fun _ _ label => label.party = .api

instance (trace : List (Label signature Party)) (w : World) (label : Label signature Party) :
    Decidable (apiAlone trace w label) := inferInstanceAs (Decidable (_ = _))

/-- `enqueue_llm_call` has just returned, and nothing else has run. -/
def Enqueued (settings : Settings) (new : NewCall) (polls : Nat → Nat) (env : Environment)
    (c : System) : Prop :=
  machine.Reach apiAlone (boot settings new polls env) c ∧ ∃ call, c.program .api = .done (.ok call)

/-- The record a party has returned. -/
def returnedBy (party : Party) (c : System) : Option LLMCallJob :=
  match c.program party with
  | .done (.ok call) => some call
  | _ => none

theorem returnedBy_eq_some {c : System} {party : Party} {call : LLMCallJob} :
    returnedBy party c = some call ↔ c.program party = .done (.ok call) := by
  unfold returnedBy
  split
  · rename_i same
    rw [same]
    constructor
    · rintro ⟨⟩
      rfl
    · rintro ⟨⟩
      rfl
  · rename_i other
    constructor
    · rintro ⟨⟩
    · exact fun same => absurd same (other call)

/-- A rehearsed enqueue, and a rehearsed run after it. -/
theorem enqueued_observed (settings : Settings) (new : NewCall) (polls : Nat → Nat)
    (env : Environment) {β : Type} (start : List Party) (rest : System → Option β) (seen : β)
    (enqueues : ((machine.schedule apiAlone start (boot settings new polls env)).bind fun c =>
      (returnedBy .api c).map LLMCallJob.status) = some .queued)
    (observed : (machine.schedule apiAlone start (boot settings new polls env)).bind rest = some seen) :
    ∃ c, Enqueued settings new polls env c ∧ rest c = some seen := by
  obtain ⟨c, scheduled, returns⟩ := Option.bind_eq_some_iff.mp enqueues
  obtain ⟨call, returned, _⟩ := Option.map_eq_some_iff.mp returns
  rw [scheduled] at observed
  exact ⟨c, ⟨Machine.schedule_reach scheduled, call, returnedBy_eq_some.mp returned⟩, observed⟩

/-! ## A small deployment -/

def demoSettings : Settings where
  llmStreamChannelPrefix := "llm-stream"
  llmGenerationTimeoutSeconds := 180
  llmMaxQueueSize := 100
  llmQueueWaitTimeoutSeconds := 300
  llmJobMaxRetries := 2

/-- No re-runs are granted. -/
def noRetries : Settings := { demoSettings with llmJobMaxRetries := 0 }

def demoCall (callType : CallType) : NewCall where
  jobId := "job"
  callType := callType
  prompt := none
  messages := []
  mode := none
  generationParameters := []
  responseSchema := none
  createdAt := 0

/-- Nothing fails, and every clock stands still. -/
def demoEnvironment : Environment where
  clock _ _ := 0
  position _ _ := none
  queueDepth _ := 0
  activeJobs _ := 0
  service _ := none
  ask _ _ _ := .ok (.obj [])
  generate _ _ := .ok "reply"
  stream _ _ := ⟨[some "reply"], none⟩
  interrupts _ := none

def demoError : PyError := { className := "RuntimeError", message := "boom" }

/-- The first stream breaks off after a token, and the second does not. -/
def brokenStream : Environment :=
  { demoEnvironment with stream := fun call _ =>
      if call = 0 then ⟨[some "re"], some demoError⟩ else ⟨[some "reply"], none⟩ }

/-- The store raises once, before the model is asked. -/
def storeFailsOnce : Environment :=
  { demoEnvironment with interrupts := fun check => if check = 0 then some demoError else none }

theorem demoEnvironment_calm : demoEnvironment.Calm := fun _ => rfl

end LanguageAgent.Queue
