import LanguageAgent.Gateway.LlamaServer
import LanguageAgent.Queue.Runs

/-! # Invalid structured output

Whether a reply of the model server that is no structured response ends the job at
once. A program that stores the failure and returns obeys a protocol of three
stages; one that is left to RQ's retry policy cannot.
-/

namespace LanguageAgent.Queue

open Interleaving Gateway

/-! ## Failing at once -/

inductive FailureStage where
  | due
  | stored
  | returned

/-- The failure is stored, and then RQ records a normal return. -/
inductive FailsAtOnceMoves : Protocol signature FailureStage where
  | neutral {stage command reply} (neutral : command.isNeutral) :
      FailsAtOnceMoves stage command reply stage
  | store {saved call} (stores : saved.llmCall = some call) (failed : call.status = .failed) :
      FailsAtOnceMoves .due (.saveMeta saved) () .stored
  | finish {result} (failed : result.status = .failed) :
      FailsAtOnceMoves .stored (.finish result) () .returned

/-- What is left of the worker stores the status `failed`, returns without raising and
    takes the job no more, whatever it is answered. -/
def FailsAtOnce (p : Program signature Outcome) : Prop :=
  p.Obeys FailsAtOnceMoves (fun _ stage => stage = .returned) .due

/-- The worker is about to store a refused reply, or has stored it. -/
inductive Refusing : WorkerPhase → FailureStage → Prop where
  | due {left copy message} (silent : copy.call.callType ≠ .streamingTextGeneration) :
      Refusing ⟨left, .refused copy message⟩ .due
  | stored {left copy} (failed : copy.call.status = .failed) :
      Refusing ⟨left, .returning copy false⟩ .stored
  | returned {left} : Refusing ⟨left, .ended⟩ .returned

/-- The worker is about to store a failure for the retry policy, or leaves the job to it. -/
inductive Raising : WorkerPhase → FailureStage → Prop where
  | faulted {left copy} : Raising ⟨left, .faulted copy⟩ .due
  | failDue {left copy} : Raising ⟨left, .failDue copy⟩ .stored
  | raised {left saved jobMeta} : Raising ⟨left, .raised saved jobMeta⟩ .stored

variable {settings : Settings} {new : NewCall} {polls : Nat → Nat} {env : Environment} {d : System}
  {left : Nat} {copy : Copy} {p : Program signature Outcome}

/-- Outside the `try` block no exception is looked for. -/
theorem not_ready_interrupt {point : WorkerPoint} (unguarded : point.guardedCopy = none) :
    ¬ Program.Ready (WorkerMoves settings) ⟨left, point⟩ .interrupt := by
  intro ready
  obtain ⟨after, move⟩ := ready (some { className := "TimeoutError", message := "" })
  cases move with
  | attempt move =>
      cases move with
      | neutral neutral => exact absurd neutral Bool.false_ne_true
      | interrupted held | interruptedLoop held => cases unguarded.symm.trans held

private theorem refusing_follows {phase : WorkerPhase} {stage : FailureStage} {command : Command}
    {reply : command.Reply} {after : WorkerPhase} (refusing : Refusing phase stage)
    (ready : Program.Ready (WorkerMoves settings) phase command)
    (move : WorkerMoves settings phase command reply after) :
    ∃ next, FailsAtOnceMoves stage command reply next ∧ Refusing after next := by
  cases refusing with
  | @due left copy message silent =>
      cases move with
      | attempt move =>
          cases move with
          | neutral neutral => exact ⟨_, .neutral neutral, .due silent⟩
          | uninterrupted => exact absurd ready (not_ready_interrupt rfl)
          | interrupted held | interruptedLoop held => cases held
          | saveRefused now =>
              rw [WorkerPoint.whenStreaming_silent silent]
              exact ⟨_, .store rfl rfl, .stored rfl⟩
  | stored failed =>
      cases move with
      | attempt move =>
          cases move with
          | neutral neutral => exact ⟨_, .neutral neutral, .stored failed⟩
          | uninterrupted => exact absurd ready (not_ready_interrupt rfl)
          | interrupted held | interruptedLoop held => cases held
          | finish => exact ⟨_, .finish failed, .returned⟩
  | returned =>
      cases move with
      | attempt move =>
          cases move with
          | neutral neutral => exact ⟨_, .neutral neutral, .returned⟩
          | uninterrupted => exact absurd ready (not_ready_interrupt rfl)
          | interrupted held | interruptedLoop held => cases held

/-- A refused reply fails the job at once. -/
theorem refused_failsAtOnce {message : String} (silent : copy.call.callType ≠ .streamingTextGeneration)
    (obeys : p.Obeys (WorkerMoves settings) WorkerEnded ⟨left, .refused copy message⟩) :
    FailsAtOnce p := by
  apply obeys.simulate Refusing (.due silent)
  · intro phase stage command reply after refusing ready move
    exact refusing_follows refusing ready move
  · intro out phase stage refusing ended
    cases refusing with
    | returned => rfl
    | due | stored => cases ended

theorem workerMoves_neutral {phase after : WorkerPhase} {command : Command} {reply : command.Reply}
    (neutral : command.isNeutral) (move : WorkerMoves settings phase command reply after) :
    after = phase := by
  cases move with
  | attempt move =>
      cases move with
      | neutral => rfl
      | _ => exact absurd neutral Bool.false_ne_true
  | _ => exact absurd neutral Bool.false_ne_true

private theorem raising_parts {phase after : WorkerPhase} {stage next : FailureStage}
    {command : Command} {reply : command.Reply} (raising : Raising phase stage)
    (move : WorkerMoves settings phase command reply after)
    (moved : FailsAtOnceMoves stage command reply next) : Raising after next := by
  cases moved with
  | neutral neutral =>
      rw [workerMoves_neutral neutral move]
      exact raising
  | @store saved call stores failed =>
      cases raising with
      | faulted =>
          cases move with
          | attempt move =>
              cases move with
              | neutral neutral => exact absurd neutral Bool.false_ne_true
              | saveRetry =>
                  obtain rfl := Option.some.inj stores
                  cases failed
              | @saveFailed copy elapsed message now spent =>
                  apply WorkerPoint.whenStreaming_cases (motive := fun point => Raising ⟨_, point⟩ .stored)
                  · exact .failDue
                  · exact .raised
  | finish failed =>
      cases raising with
      | failDue | raised =>
          cases move with
          | attempt move =>
              cases move with
              | neutral neutral => exact absurd neutral Bool.false_ne_true

/-- What is left to the retry policy does not fail at once. -/
theorem faulted_not_failsAtOnce
    (obeys : p.Obeys (WorkerMoves settings) WorkerEnded ⟨left, .faulted copy⟩) : ¬ FailsAtOnce p := by
  apply obeys.not_both Raising .faulted
  · intro phase stage command raising ready allowed
    obtain ⟨reply⟩ := command.reply_nonempty
    exact ⟨reply, fun after next move moved => raising_parts raising move moved⟩
  · intro out phase stage raising ended
    cases raising <;> cases ended

/-! ## Replies that are no structured response -/

/-- Wherever a run leads to a structured call, a reply that is no structured response
    fails the job at once just when `json.loads` itself refuses the text. -/
theorem invalid_output_final (run : machine.Reach Machine.anyStep (boot settings new polls env) d)
    {request : ModelRequest} {schema : Dict} {next : Except PyError Json → Program signature Outcome}
    (asking : d.program .worker = .issue (.askModel request schema) next)
    {loads : List Char → Except LoadsError Json} {body : Except LoadsError Json}
    (invalid : structuredResponse loads body = none) :
    FailsAtOnce (next (askLlmSync loads (.response 200 body))) ↔ RefusedByLoads loads body := by
  obtain ⟨phase, tracked⟩ := reached_tracked run
  obtain ⟨error, failed, refuses⟩ := askLlmSync_invalid invalid
  rw [failed, ← refuses]
  have obeys := tracked .worker
  rw [asking] at obeys
  obtain ⟨after, move, rest⟩ := obeys (.error error)
  generalize phase .worker = worker at move
  cases move with
  | attempt move =>
      cases move with
      | neutral neutral => exact absurd neutral Bool.false_ne_true
      | askRefused structured refused =>
          refine ⟨fun _ => refused, fun _ => refused_failsAtOnce ?_ rest⟩
          rw [structured]
          exact nofun
      | askFailed _ fails =>
          refine ⟨fun atOnce => absurd atOnce (faulted_not_failsAtOnce rest), fun refused => ?_⟩
          exact absurd (fails.symm.trans refused) Bool.false_ne_true

/-! ## A reply without choices -/

/-- A `json.loads` that takes no text for JSON. -/
def loadsNothing : List Char → Except LoadsError Json := fun _ => .error .decode

/-- The model server answers every call with an empty object. -/
def noChoices : Environment :=
  { demoEnvironment with ask := fun _ _ _ => askLlmSync loadsNothing (.response 200 (.ok (.obj []))) }

/-- The worker is about to ask for a structured response. -/
def isAsking : Program signature Outcome → Bool
  | .issue (.askModel _ _) _ => true
  | _ => false

theorem isAsking_iff : isAsking p = true ↔ ∃ request schema next, p = .issue (.askModel request schema) next := by
  constructor
  · intro asking
    unfold isAsking at asking
    split at asking
    · exact ⟨_, _, _, rfl⟩
    · cases asking
  · rintro ⟨_, _, _, rfl⟩
    rfl

theorem invalid_output_final_demo : ∃ (d : System) (request : ModelRequest) (schema : Dict)
    (next : Except PyError Json → Program signature Outcome),
    d.program .worker = .issue (.askModel request schema) next ∧
      ¬ FailsAtOnce (next (askLlmSync loadsNothing (.response 200 (.ok (.obj []))))) := by
  obtain ⟨d, run, seen⟩ := Machine.schedule_observed machine Machine.anyStep
    (List.replicate 8 .api ++ List.replicate 12 .worker)
    (boot demoSettings (demoCall .structuredJson) (fun _ => 0) noChoices)
    (fun d => isAsking (d.program .worker)) true (by decide +kernel)
  obtain ⟨request, schema, next, asking⟩ := isAsking_iff.mp seen
  refine ⟨d, request, schema, next, asking, fun atOnce => ?_⟩
  have refused := (invalid_output_final run asking rfl).mp atOnce
  obtain ⟨content, raised, text, _⟩ := refused
  cases text

/-- The reply has no choices, and the job is queued again. -/
theorem invalid_output_retried : structuredResponse loadsNothing (.ok (.obj [])) = none ∧
    ∃ d : System, machine.Reach Machine.anyStep
      (boot demoSettings (demoCall .structuredJson) (fun _ => 0) noChoices) d ∧
      d.world.modelCalls = 1 ∧ d.world.storedStatus = some .queued ∧ d.world.reruns = 1 := by
  obtain ⟨d, run, seen⟩ := Machine.schedule_observed machine Machine.anyStep
    (List.replicate 8 .api ++ List.replicate 16 .worker)
    (boot demoSettings (demoCall .structuredJson) (fun _ => 0) noChoices)
    (fun d => (d.world.modelCalls, d.world.storedStatus, d.world.reruns)) (1, some .queued, 1)
    (by decide +kernel)
  obtain ⟨calls, rest⟩ := Prod.mk.inj seen
  obtain ⟨queued, reruns⟩ := Prod.mk.inj rest
  exact ⟨rfl, d, run, calls, queued, reruns⟩

end LanguageAgent.Queue
