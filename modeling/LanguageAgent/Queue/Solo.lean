import LanguageAgent.Queue.Attempts
import LanguageAgent.Queue.Enqueueing

/-! # The worker on its own

After `enqueue_llm_call` only the worker moves, and only the model call raises. The
stored record and RQ's count of re-runs then keep in step.
-/

namespace LanguageAgent

open Queue

/-- The record still asks for what was enqueued: nothing is cancelled or answered, and
    each re-run is counted. -/
structure LLMCallJob.Live (new : NewCall) (reruns : Nat) (call : LLMCallJob) : Prop where
  callType : call.callType = new.callType
  request : modelRequest call = modelRequest new.toCall
  unflagged : call.cancelRequested = false
  result : call.result = .null
  retryCount : call.retryCount = reruns

namespace LLMCallJob.Live

variable {new : NewCall} {reruns : Nat} {call : LLMCallJob} (live : call.Live new reruns)
include live

theorem withElapsed {elapsed : Option Rat} : (call.withElapsed elapsed).Live new reruns :=
  ⟨live.callType, live.request, live.unflagged, live.result, live.retryCount⟩

theorem toProcessing {now : Timestamp} : (call.toProcessing now).Live new reruns :=
  ⟨live.callType, live.request, live.unflagged, live.result, live.retryCount⟩

theorem toStreaming : call.toStreaming.Live new reruns :=
  ⟨live.callType, live.request, live.unflagged, live.result, live.retryCount⟩

theorem toRetry {message : String} : (call.toRetry message).Live new (reruns + 1) :=
  ⟨live.callType, live.request, live.unflagged, live.result, congrArg (· + 1) live.retryCount⟩

end LLMCallJob.Live

namespace Queue

open Interleaving

/-- Only the worker moves. -/
def workerAlone : Guard signature Party World := fun _ _ label => label.party = .worker

instance (trace : List (Label signature Party)) (w : World) (label : Label signature Party) :
    Decidable (workerAlone trace w label) := inferInstanceAs (Decidable (_ = _))

/-! ## What is stored at each point -/

/-- The next attempt will find the job queued, with its re-runs counted. -/
def Snapshot.Waiting (new : NewCall) (reruns : Nat) (job : Snapshot) : Prop :=
  ∃ call, job.jobMeta.llmCall = some call ∧ call.status = .queued ∧
    (loaded job.jobMeta job.args).Live new reruns

/-- The copy of a running attempt is what is stored. -/
structure Copy.Stored (new : NewCall) (reruns : Nat) (status : CallStatus) (job : Snapshot)
    (copy : Copy) : Prop where
  live : copy.call.Live new reruns
  status : copy.call.status = status
  record : job.jobMeta.llmCall = some copy.call

/-- The attempt has stored how the job ended. -/
def Copy.Settled (status : CallStatus) (job : Snapshot) (copy : Copy) : Prop :=
  job.jobMeta.llmCall = some copy.call ∧ copy.call.status = status

/-- The job has failed for good, and RQ has no re-run left. -/
def Spent (left : Nat) (job : Snapshot) : Prop :=
  left = 0 ∧ ∃ call, job.jobMeta.llmCall = some call ∧ call.status = .failed

def WorkerPoint.Solo (new : NewCall) (left reruns : Nat) (job : Snapshot) : WorkerPoint → Prop
  | .idle | .popped => job.Waiting new reruns
  | .fetched read => read = job ∧ job.Waiting new reruns
  | .started copy | .starting copy => copy.call.Live new reruns ∧ job.Waiting new reruns
  | .announcing copy | .ready copy | .serving copy => copy.Stored new reruns .processing job
  | .streamSaved copy | .opening copy | .reading copy _ _ _ | .publishing copy _ _ _ _
  | .checking copy _ _ _ => copy.Stored new reruns .streaming job
  | .answered copy | .deciding copy =>
      ∃ status, ∃ asking : Copy, ∃ result, asking.Stored new reruns status job ∧
        copy = asking.mapCall (LLMCallJob.withResult result)
  | .faulted copy => ∃ status, copy.Stored new reruns status job
  | .refused copy _ => copy.call.callType = new.callType ∧ new.callType = .structuredJson
  | .doneDue copy => copy.Settled .completed job
  | .returning copy _ => copy.Settled .completed job ∨
      copy.Settled .failed job ∧ new.callType = .structuredJson
  | .retryDue copy => left ≠ 0 ∧ job.Waiting new (reruns + 1) ∧ copy.call.status = .queued ∧
      job.jobMeta = copy.jobMeta
  | .failDue copy => Spent left job ∧ copy.call.status = .failed
  | .raised (some _) jobMeta => left ≠ 0 ∧ job.Waiting new (reruns + 1) ∧ job.jobMeta = jobMeta ∨
      Spent left job
  | .ended => ∃ call, job.jobMeta.llmCall = some call ∧ call.status.isTerminal = true
  | .closing _ _ | .stopping _ _ _ | .cancelDue _ _ _ | .refusalDue _ _ | .raised none _ => False

/-- The world while the worker is alone. -/
structure Solo (new : NewCall) (env : Environment) (w : World) (p : Phases) : Prop where
  env : w.env = env
  present : w.workerLost = false
  queued : p.worker.point = .idle → w.queued = true
  point : ∃ job, w.snapshot = some job ∧ p.worker.point.Solo new p.worker.left w.reruns job

/-- The job holds a record that a check finds unflagged. -/
def Snapshot.Clear (job : Snapshot) : Prop :=
  ∃ call, job.jobMeta.llmCall = some call ∧ call.result = .null ∧ call.cancelRequested = false

section Points

variable {settings : Settings} {new : NewCall} {reruns left : Nat} {status : CallStatus}
  {job : Snapshot} {copy : Copy} {point after : WorkerPoint}

theorem Copy.Stored.clear (stored : copy.Stored new reruns status job) : job.Clear :=
  ⟨copy.call, stored.record, stored.live.result, stored.live.unflagged⟩

theorem Snapshot.Waiting.clear (waiting : job.Waiting new reruns) : job.Clear := by
  obtain ⟨call, record, _, live⟩ := waiting
  refine ⟨call, record, ?_, ?_⟩
  · simpa only [loaded, record, Option.getD_some] using live.result
  · simpa only [loaded, record, Option.getD_some] using live.unflagged

/-- A check reads the stored record and finds no request. -/
theorem Snapshot.Clear.read (clear : job.Clear) (running : job.result = none) :
    ∃ payload, readPayload (some job) = some payload ∧ payload.cancelRequested = false := by
  obtain ⟨call, record, result, unflagged⟩ := clear
  refine ⟨call, ?_, unflagged⟩
  simp [readPayload, Snapshot.payload, running, record, LLMCallJob.validates, result]

theorem Snapshot.Clear.readable (clear : job.Clear) (running : job.result = none) :
    readPayload (some job) ≠ none := by
  obtain ⟨payload, read, _⟩ := clear.read running
  rw [read]
  exact Option.some_ne_none payload

theorem Snapshot.Clear.unrequested {payload : LLMCallJob} (clear : job.Clear)
    (running : job.result = none) (read : readPayload (some job) = some payload) :
    payload.cancelRequested ≠ true := by
  obtain ⟨stored, found, unflagged⟩ := clear.read running
  obtain rfl := Option.some.inj (found.symm.trans read)
  rw [unflagged]
  exact Bool.false_ne_true

/-- A command that leaves the record takes the attempt on. -/
theorem AttemptMoves.solo_keep {w w' : World} {command : Command} {reply : command.Reply}
    (move : AttemptMoves settings point command reply after) (calm : w.env.Calm)
    (snapshot : w.snapshot = some job) (running : point ≠ .ended → job.result = none)
    (keeps : command.keepsRecord = true) (answered : exec .worker command w = some (reply, w'))
    (solo : point.Solo new left reruns job) : after.Solo new left reruns job := by
  cases move with
  | neutral | uninterrupted | pop => exact solo
  | interrupted | interruptedLoop => exact (not_interrupted calm answered).elim
  | fetch =>
      have same := (exec_fetchJob answered).trans snapshot
      exact ⟨Option.some.inj same, solo⟩
  | missing => cases (exec_fetchJob answered).trans snapshot
  | start =>
      obtain ⟨rfl, waiting⟩ := solo
      obtain ⟨_, _, _, live⟩ := id waiting
      exact ⟨live, waiting⟩
  | startInvalid invalid =>
      obtain ⟨rfl, call, record, _, live⟩ := solo
      have result := live.result
      simp only [loaded, record, Option.getD_some] at invalid result
      simp [LLMCallJob.validates, result] at invalid
  | startUnreadable unreadable =>
      rw [exec_fetchJob answered, snapshot] at unreadable
      exact absurd unreadable (solo.2.clear.readable (running (by rintro ⟨⟩)))
  | startCancelled readable requested =>
      rw [exec_fetchJob answered, snapshot] at readable
      exact absurd requested (solo.2.clear.unrequested (running (by rintro ⟨⟩)) readable)
  | checkUnreadable unreadable =>
      rw [exec_fetchJob answered, snapshot] at unreadable
      exact absurd unreadable ((Copy.Stored.clear solo).readable (running (by rintro ⟨⟩)))
  | checkCancelled readable requested =>
      rw [exec_fetchJob answered, snapshot] at readable
      exact absurd requested ((Copy.Stored.clear solo).unrequested (running (by rintro ⟨⟩)) readable)
  | finalUnreadable unreadable =>
      rw [exec_fetchJob answered, snapshot] at unreadable
      obtain ⟨_, _, _, stored, _⟩ := solo
      exact absurd unreadable (stored.clear.readable (running (by rintro ⟨⟩)))
  | finalCancelled readable requested =>
      rw [exec_fetchJob answered, snapshot] at readable
      obtain ⟨_, _, _, stored, _⟩ := solo
      exact absurd requested (stored.clear.unrequested (running (by rintro ⟨⟩)) readable)
  | startClear | announceProcessing | load | announceStreaming | openStream | nextToken | nextBlank
  | publish | checkClear | finalClear => exact solo
  | ask | generate | closeAnswered => exact ⟨_, _, _, solo, rfl⟩
  | loadFailed | askFailed | generateFailed | closeBroken => exact ⟨_, solo⟩
  | askRefused structured =>
      exact ⟨solo.live.callType, solo.live.callType.symm.trans structured⟩
  | announceDone => exact .inl solo
  | announceRetry => exact .inl ⟨solo.1, solo.2.1, solo.2.2.2⟩
  | announceFailed => exact .inr solo.1
  | closeFaulted | closeCancelled | announceCancelled | announceRefused => exact solo.elim
  | saveProcessing | saveStreaming | saveCompleted | saveCancelled | saveRefused | saveRetry
  | saveFailed | finish => exact absurd keeps Bool.false_ne_true

/-- A save stores the copy, and a failure is stored as RQ will take it. -/
theorem AttemptMoves.solo_save {saved : JobMeta} {reply : Unit}
    (move : AttemptMoves settings point (.saveMeta saved) reply after)
    (budget : left + reruns = rqRetries settings) (solo : point.Solo new left reruns job) :
    after.Solo new left reruns (job.withMeta saved) := by
  cases move with
  | neutral neutral => exact absurd neutral Bool.false_ne_true
  | @saveProcessing copy elapsed now =>
      have next : (copy.put (copy.call.toProcessing now) elapsed).Stored new reruns .processing
          (job.withMeta (copy.put (copy.call.toProcessing now) elapsed).jobMeta) :=
        ⟨solo.1.toProcessing.withElapsed, rfl, rfl⟩
      exact WorkerPoint.whenStreaming_cases (motive := WorkerPoint.Solo new left reruns _) next next
  | saveStreaming => exact ⟨solo.live.toStreaming.withElapsed, rfl, rfl⟩
  | @saveCompleted copy elapsed now =>
      have next : (copy.put (copy.call.toCompleted now) elapsed).Settled .completed
          (job.withMeta (copy.put (copy.call.toCompleted now) elapsed).jobMeta) := ⟨rfl, rfl⟩
      exact WorkerPoint.whenStreaming_cases (motive := WorkerPoint.Solo new left reruns _) next
        (.inl next)
  | saveCancelled => exact solo.elim
  | @saveRefused copy message elapsed now =>
      obtain ⟨same, structured⟩ := solo
      rw [WorkerPoint.whenStreaming_silent (by rw [same, structured]; exact CallType.noConfusion)]
      exact .inr ⟨⟨rfl, rfl⟩, structured⟩
  | @saveRetry copy elapsed message within =>
      obtain ⟨status, live, _, _⟩ := solo
      have waiting : (job.withMeta (copy.putFailure (copy.call.toRetry message) elapsed).jobMeta).Waiting
          new (reruns + 1) := ⟨_, rfl, rfl, live.toRetry.withElapsed⟩
      have granted : left ≠ 0 := by
        have counted := live.retryCount
        unfold rqRetries at budget
        omega
      exact WorkerPoint.whenStreaming_cases (motive := WorkerPoint.Solo new left reruns _)
        ⟨granted, waiting, rfl, rfl⟩ (.inl ⟨granted, waiting, rfl⟩)
  | @saveFailed copy elapsed message now spent =>
      obtain ⟨status, live, _, _⟩ := solo
      have past : Spent left
          (job.withMeta (copy.putFailure (copy.call.toFailed message now) elapsed).jobMeta) := by
        refine ⟨?_, _, rfl, rfl⟩
        have counted := live.retryCount
        unfold rqRetries at budget
        omega
      exact WorkerPoint.whenStreaming_cases (motive := WorkerPoint.Solo new left reruns _)
        ⟨past, rfl⟩ (.inr past)

end Points

/-! ## The run -/

section Runs

variable {settings : Settings} {new : NewCall} {env : Environment} {w w' : World} {left : Nat}
  {point after : WorkerPoint} {command : Command} {reply : command.Reply}

theorem WorkerMoves.notReaped {phase after : WorkerPhase}
    (move : WorkerMoves settings phase command reply after) : ∀ granted, command ≠ .abandon granted := by
  intro granted same
  cases move with
  | attempt move =>
      cases move with
      | neutral neutral =>
          subst same
          exact absurd neutral Bool.false_ne_true
      | _ => cases same
  | requeue | giveUp => cases same

/-- Within an attempt the worker waits for the job only before it has started. -/
private theorem AttemptMoves.idle (move : AttemptMoves settings point command reply after)
    (idle : after = .idle) : point = .idle ∧ command.isPassive := by
  cases move with
  | neutral neutral => exact ⟨idle, Command.isPassive_of_isNeutral neutral⟩
  | uninterrupted => exact ⟨idle, rfl⟩
  | saveProcessing | saveCompleted | saveRefused | saveRetry | saveFailed =>
      unfold WorkerPoint.whenStreaming at idle
      split at idle <;> cases idle
  | _ => cases idle

private theorem Solo.attempt {api : ApiPhase} {cancel : Nat → CancelPhase} {wait : Nat → WaitPhase}
    (solo : Solo new env w ⟨api, ⟨left, point⟩, cancel, wait⟩) (calm : env.Calm)
    (booked : WorkerOk settings w.snapshot w.reruns ⟨left, point⟩) (move : AttemptMoves settings point command reply after)
    (answered : exec .worker command w = some (reply, w')) :
    ∃ job, w'.snapshot = some job ∧ after.Solo new left w'.reruns job := by
  obtain ⟨job, stored, soloPoint⟩ := solo.point
  have running : point ≠ .ended → job.result = none := fun notEnded => booked.running notEnded job stored
  have calm : w.env.Calm := by rw [solo.env]; exact calm
  cases keeps : command.keepsRecord with
  | true =>
      obtain ⟨snapshot, reruns⟩ := snapshot_kept keeps answered
      rw [snapshot, reruns]
      exact ⟨job, stored, move.solo_keep calm stored running keeps answered soloPoint⟩
  | false =>
      cases command with
      | saveMeta saved =>
          obtain ⟨snapshot, reruns⟩ := snapshot_saveMeta answered
          rw [snapshot, reruns, stored]
          exact ⟨_, rfl, move.solo_save booked.budget soloPoint⟩
      | finish result =>
          obtain ⟨snapshot, reruns⟩ := snapshot_finish answered
          rw [snapshot, reruns, stored]
          refine ⟨_, rfl, ?_⟩
          cases move with
          | neutral neutral => exact absurd neutral Bool.false_ne_true
          | finish =>
              rcases soloPoint with ⟨record, status⟩ | ⟨⟨record, status⟩, _⟩
              · exact ⟨_, record, by rw [status]; rfl⟩
              · exact ⟨_, record, by rw [status]; rfl⟩
      | push | requeue =>
          cases move with
          | neutral neutral => exact absurd neutral Bool.false_ne_true
      | _ => exact absurd keeps.symm Bool.false_ne_true

theorem solo_preserved (calm : env.Calm) :
    Preserved settings new workerAlone (Booked settings) fun _ w p => Solo new env w p where
  api _ _ alone := by cases alone
  cancel _ _ alone := by cases alone
  wait _ _ alone := by cases alone
  reaper _ _ alone := by cases alone
  worker := by
    intro trace w p command reply w' after booked solo _ move answered
    have booked := booked.1.worker
    obtain ⟨api, worker, cancel, wait⟩ := p
    have sameEnv := (exec_env answered).trans solo.env
    have present := (exec_workerLost move.notReaped answered).trans solo.present
    cases move with
    | attempt move =>
        refine ⟨sameEnv, present, fun idle => ?_, solo.attempt calm booked move answered⟩
        obtain ⟨before, passive⟩ := move.idle idle
        rw [(exec_passive passive answered).queued]
        exact solo.queued before
    | @requeue left saved jobMeta =>
        obtain ⟨job, stored, raised⟩ := solo.point
        obtain ⟨snapshot, reruns⟩ := snapshot_requeue answered
        rw [stored] at snapshot
        refine ⟨sameEnv, present, fun _ => by rw [exec_requeue answered], _, snapshot, ?_⟩
        rw [reruns]
        cases saved with
        | none => exact raised.elim
        | some saved =>
            rcases raised with ⟨_, waiting, rfl⟩ | ⟨none, _⟩
            · exact waiting
            · cases none
    | @giveUp saved =>
        obtain ⟨job, stored, raised⟩ := solo.point
        obtain ⟨snapshot, reruns⟩ := snapshot_kept rfl answered
        refine ⟨sameEnv, present, fun idle => (by cases idle), job, snapshot.trans stored, ?_⟩
        cases saved with
        | none => exact raised.elim
        | some saved =>
            rcases raised with ⟨granted, _⟩ | ⟨_, call, record, failed⟩
            · exact absurd rfl granted
            · exact ⟨call, record, by rw [failed]; rfl⟩

/-- Where the worker is alone from the start. -/
theorem Started.solo {c : System} {phase : ∀ party, Phase party}
    (started : Started settings new env c phase) : Solo new env c.world (Phases.of phase) := by
  have only := started.only
  have done := only.api
  rw [started.finished] at done
  obtain ⟨pushed, elapsed, position, job, queued, _⟩ := done
  have snapshot : c.world.snapshot = some ⟨enqueued settings new pushed,
      { llmCall := some (enqueued settings new elapsed) }, none⟩ := by
    rw [World.snapshot, job]
    rfl
  refine ⟨only.untouched.env, only.untouched.workerLost, fun _ => queued, _, snapshot, ?_⟩
  rw [only.worker, only.untouched.reruns]
  exact ⟨_, rfl, rfl, rfl, rfl, rfl, rfl, rfl⟩

end Runs

end Queue

end LanguageAgent
