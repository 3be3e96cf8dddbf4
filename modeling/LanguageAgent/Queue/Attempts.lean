import LanguageAgent.Queue.Runs

/-! # How an attempt goes on and ends

What can still follow at each point of an attempt, from its moves alone.
-/

namespace LanguageAgent.Queue

open Interleaving

/-! ## Only the worker calls the model -/

section Model

variable {command : Command} {reply : command.Reply}

theorem Command.noModel_of_neutral (neutral : command.isNeutral = true) :
    command.callsModel = false := by
  cases command <;> first | rfl | exact absurd neutral Bool.false_ne_true

theorem ApiMoves.noModel {settings : Settings} {new : NewCall} {phase after : ApiPhase}
    (move : ApiMoves settings new phase command reply after) : command.callsModel = false := by
  cases move with
  | neutral neutral => exact Command.noModel_of_neutral neutral
  | _ => rfl

theorem CancelMoves.noModel {jobId : String} {phase after : CancelPhase}
    (move : CancelMoves jobId phase command reply after) : command.callsModel = false := by
  cases move with
  | neutral neutral => exact Command.noModel_of_neutral neutral
  | _ => rfl

theorem WaitMoves.noModel {phase after : WaitPhase} (move : WaitMoves phase command reply after) :
    command.callsModel = false := by
  cases move with
  | neutral neutral => exact Command.noModel_of_neutral neutral
  | _ => rfl

end Model

/-! ## Points of no return -/

namespace WorkerPoint

/-- Without exceptions an attempt only announces its end from here. -/
def finishing : WorkerPoint → Bool
  | .doneDue _ | .cancelDue _ _ _ | .refusalDue _ _ | .returning _ _ | .ended => true
  | _ => false

/-- The record the attempt has saved and will return. -/
def outcome : WorkerPoint → Option LLMCallJob
  | .doneDue copy | .cancelDue copy _ _ | .refusalDue copy _ | .returning copy _ => some copy.call
  | _ => none

/-- The attempt neither calls the model nor completes the job unless it passes the first
    check. -/
def doomed : WorkerPoint → Bool
  | .starting _ | .announcing _ | .ready _ | .serving _ | .streamSaved _ | .opening _
  | .reading _ _ _ _ | .publishing _ _ _ _ _ | .checking _ _ _ _ | .answered _ | .deciding _
  | .doneDue _ => false
  | _ => true

end WorkerPoint

section Moves

variable {settings : Settings} {point after : WorkerPoint} {command : Command} {reply : command.Reply}

/-- The exceptions that only a store that fails can raise do not strike. -/
theorem not_interrupted {w w' : World} {error : PyError} (calm : w.env.Calm)
    (answered : exec .worker .interrupt w = some (some error, w')) : False := by
  have reply := exec_interrupt answered
  rw [calm] at reply
  cases reply

theorem AttemptMoves.finishing {w w' : World} (move : AttemptMoves settings point command reply after)
    (calm : w.env.Calm) (answered : exec .worker command w = some (reply, w'))
    (finishing : point.finishing = true) :
    after.finishing = true ∧ command.writes = none ∧ command.callsModel = false := by
  cases move with
  | neutral neutral =>
      refine ⟨finishing, ?_⟩
      cases command <;> first | exact ⟨rfl, rfl⟩ | exact absurd neutral Bool.false_ne_true
  | uninterrupted => exact ⟨finishing, rfl, rfl⟩
  | interrupted | interruptedLoop => exact (not_interrupted calm answered).elim
  | announceDone | announceCancelled | announceRefused | finish => exact ⟨rfl, rfl, rfl⟩
  | _ => exact absurd finishing Bool.false_ne_true

theorem AttemptMoves.doomed (move : AttemptMoves settings point command reply after)
    (stopped : ∀ copy, after ≠ .starting copy) (doomed : point.doomed = true) :
    after.doomed = true ∧ command.callsModel = false ∧
      ∀ call, command.writes = some call → call.status ≠ .completed := by
  cases move with
  | neutral neutral =>
      refine ⟨doomed, ?_⟩
      cases command <;> first
        | exact ⟨rfl, fun _ writes => by cases writes⟩
        | exact absurd neutral Bool.false_ne_true
  | uninterrupted => exact ⟨doomed, rfl, fun _ writes => by cases writes⟩
  | startClear => exact absurd rfl (stopped _)
  | saveCancelled | saveRefused | saveRetry | saveFailed =>
      refine ⟨?_, rfl, fun _ writes => by cases writes; exact CallStatus.noConfusion⟩
      first | rfl | (unfold WorkerPoint.whenStreaming; split <;> rfl)
  | _ => first
      | exact ⟨rfl, rfl, fun _ writes => by cases writes⟩
      | exact absurd doomed Bool.false_ne_true

/-- RQ counts no re-run within an attempt. -/
theorem AttemptMoves.reruns {w w' : World} (move : AttemptMoves settings point command reply after)
    (answered : exec .worker command w = some (reply, w')) : w'.reruns = w.reruns := by
  cases keeps : command.keepsRecord with
  | true => exact (snapshot_kept keeps answered).2
  | false =>
      cases command with
      | saveMeta => exact (snapshot_saveMeta answered).2
      | finish => exact (snapshot_finish answered).2
      | push | requeue =>
          cases move with
          | neutral neutral => exact absurd neutral Bool.false_ne_true
      | _ => exact absurd keeps.symm Bool.false_ne_true

/-- A record about to be returned was saved in the same attempt. -/
theorem AttemptMoves.outcome {call : LLMCallJob}
    (move : AttemptMoves settings point command reply after) (noSave : command.writes = none)
    (outcome : after.outcome = some call) : point.outcome = some call := by
  cases move with
  | neutral | uninterrupted | announceDone | announceCancelled | announceRefused => exact outcome
  | saveProcessing | saveStreaming | saveCompleted | saveCancelled | saveRefused | saveRetry
  | saveFailed => cases noSave
  | _ => cases outcome

/-- What a save of the worker means for the rest of the attempt. -/
structure SaveKind (point after : WorkerPoint) (call : LLMCallJob) : Prop where
  unfinished : point.finishing = false
  completed : call.status = .completed → after.finishing = true
  cancelled : call.status = .cancelled → after.finishing = true
  outcome : ∀ other, after.outcome = some other → other = call

private theorem saveKind_ending {call : LLMCallJob} (unfinished : point.finishing = false)
    (finishing : after.finishing = true) (outcome : after.outcome = some call) :
    SaveKind point after call :=
  ⟨unfinished, fun _ => finishing, fun _ => finishing,
    fun _ same => (Option.some.inj (outcome.symm.trans same)).symm⟩

private theorem saveKind_open {call : LLMCallJob} (unfinished : point.finishing = false)
    (notCompleted : call.status ≠ .completed) (notCancelled : call.status ≠ .cancelled)
    (outcome : after.outcome = none) : SaveKind point after call :=
  ⟨unfinished, fun completed => absurd completed notCompleted,
    fun cancelled => absurd cancelled notCancelled,
    fun _ same => by cases outcome.symm.trans same⟩

theorem AttemptMoves.saveKind {saved : JobMeta} {reply : Unit}
    (move : AttemptMoves settings point (.saveMeta saved) reply after) :
    ∃ call, saved.llmCall = some call ∧ SaveKind point after call := by
  cases move with
  | neutral neutral => exact absurd neutral Bool.false_ne_true
  | saveProcessing =>
      refine ⟨_, rfl, WorkerPoint.whenStreaming_cases (motive := (SaveKind _ · _)) ?_ ?_⟩
      · exact saveKind_open rfl CallStatus.noConfusion CallStatus.noConfusion rfl
      · exact saveKind_open rfl CallStatus.noConfusion CallStatus.noConfusion rfl
  | saveStreaming =>
      exact ⟨_, rfl, saveKind_open rfl CallStatus.noConfusion CallStatus.noConfusion rfl⟩
  | saveCompleted | saveRefused =>
      refine ⟨_, rfl, WorkerPoint.whenStreaming_cases (motive := (SaveKind _ · _)) ?_ ?_⟩
      · exact saveKind_ending rfl rfl rfl
      · exact saveKind_ending rfl rfl rfl
  | saveCancelled => exact ⟨_, rfl, saveKind_ending rfl rfl rfl⟩
  | saveRetry | saveFailed =>
      refine ⟨_, rfl, WorkerPoint.whenStreaming_cases (motive := (SaveKind _ · _)) ?_ ?_⟩
      · exact saveKind_open rfl CallStatus.noConfusion CallStatus.noConfusion rfl
      · exact saveKind_open rfl CallStatus.noConfusion CallStatus.noConfusion rfl

end Moves

end LanguageAgent.Queue
