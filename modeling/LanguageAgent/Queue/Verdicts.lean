import LanguageAgent.Queue.Attempts
import LanguageAgent.Queue.RecordConsistency
import LanguageAgent.Queue.StatusReads

/-! # The end of a job, as RQ and its record have it

`get_job_status` lays RQ's status over the record, and `get_job_result` does not. They
agree on every job that has ended as long as nobody writes over a record that says so,
and a worker is lost only when it has saved a failure.
-/

namespace LanguageAgent.Queue

open Interleaving

/-- The save leaves a job that its record calls failed or cancelled as it is called. -/
def keepsVerdict (stored saved : Option LLMCallJob) : Bool :=
  match stored.map LLMCallJob.status with
  | some .failed => saved.map LLMCallJob.status = some .failed
  | some .cancelled => saved.map LLMCallJob.status = some .cancelled
  | _ => true

/-- The status the worker has saved last. -/
def lastSaved (trace : Trace) : Option CallStatus :=
  trace.foldl (fun last label =>
    match label.party, label.command with
    | .worker, .saveMeta saved => saved.llmCall.map LLMCallJob.status
    | _, _ => last) none

/-- A worker is lost only once it has saved a failure, and begins an attempt only when it
    can read the record; RQ is told of a cancellation only where it holds no other result;
    saves keep the verdict, RQ's included, and a canceller saves only over a readable
    record. -/
def keepsVerdicts (trace : Trace) (w : World) (label : Label signature Party) : Bool :=
  match label.party, label.command with
  | .reaper, .abandon _ => lastSaved trace = some .failed
  | .worker, .fetchJob .startCheck => (readPayload w.snapshot).isSome
  | .worker, .requeue saved => keepsVerdict w.record saved.llmCall
  | .cancel _, .setStatus _ => w.job.all fun job => job.result.all fun result => result.status = .cancelled
  | .cancel _, .saveMeta saved => w.record.all LLMCallJob.validates && keepsVerdict w.record saved.llmCall
  | _, .saveMeta saved => keepsVerdict w.record saved.llmCall
  | _, _ => true

def verdictsKept : Guard signature Party World := fun trace w label => keepsVerdicts trace w label = true

instance (trace : Trace) (w : World) (label : Label signature Party) :
    Decidable (verdictsKept trace w label) := inferInstanceAs (Decidable (_ = true))

/-! ## The job -/

namespace RQJob

/-- There is a record that cannot be read, or it says failed. -/
def Spent (job : RQJob) : Prop :=
  job.result = none ∧ ∃ call, job.jobMeta.llmCall = some call ∧ (call.status = .failed ∨ call.validates = false)

/-- There is a record, and it cannot be read. -/
def Unreadable (job : RQJob) : Prop :=
  job.result = none ∧ ∃ call, job.jobMeta.llmCall = some call ∧ call.validates = false

/-- The record says cancelled. -/
def Cancelled (job : RQJob) : Prop := ∃ call, job.jobMeta.llmCall = some call ∧ call.status = .cancelled

/-- A waiter that comes now finds that the job has ended. -/
def Settled (job : RQJob) : Prop := job.result.isSome ∨ job.status = .failed ∨ job.Cancelled

/-- What RQ holds of the job agrees with its record. -/
structure Agrees (job : RQJob) : Prop where
  args : job.args.validates = true
  failed : job.status = .failed → job.Spent
  canceled : job.status = .canceled → (job.result = none → job.Cancelled) ∧
    ∀ result, job.result = some result → result.status = .cancelled
  finished : job.status = .finished → job.result.isSome
  result : ∀ result, job.result = some result → result.status.isTerminal = true
  running : job.status ≠ .stopped

/-- The job with another `meta`. -/
def withMeta (saved : JobMeta) (job : RQJob) : RQJob := { job with jobMeta := saved }

def withStatus (status : JobStatus) (job : RQJob) : RQJob := { job with status := status }

def finishedWith (result : LLMCallJob) (job : RQJob) : RQJob :=
  { job with status := .finished, result := some result }

variable {job : RQJob} {saved : JobMeta} {status : JobStatus} {result : LLMCallJob}

theorem Unreadable.spent (unreadable : job.Unreadable) : job.Spent := by
  obtain ⟨none, call, record, invalid⟩ := unreadable
  exact ⟨none, call, record, .inr invalid⟩

/-- The payload of a settled job says how it ended, if it can be read at all. -/
theorem Agrees.settled {payload : LLMCallJob} (agrees : job.Agrees) (settled : job.Settled)
    (stored : (job.result <|> job.jobMeta.llmCall) = some payload) (valid : payload.validates = true) :
    payload.status.isTerminal = true := by
  cases returned : job.result with
  | some result =>
      rw [returned] at stored
      obtain rfl := Option.some.inj stored
      exact agrees.result result returned
  | none =>
      rw [returned] at stored
      replace stored : job.jobMeta.llmCall = some payload := stored
      rcases settled with result | failed | ⟨call, record, cancelled⟩
      · rw [returned] at result
        cases result
      · obtain ⟨_, call, record, verdict⟩ := agrees.failed failed
        obtain rfl := Option.some.inj (record.symm.trans stored)
        rcases verdict with failed | invalid
        · rw [failed]
          rfl
        · cases valid.symm.trans invalid
      · obtain rfl := Option.some.inj (record.symm.trans stored)
        rw [cancelled]
        rfl

/-- A status that ends the job is that of the payload. -/
theorem Agrees.overlay {payload : LLMCallJob} (agrees : job.Agrees)
    (stored : (job.result <|> job.jobMeta.llmCall) = some payload) (valid : payload.validates = true)
    (terminal : (overlayStatus payload job.status).status.isTerminal = true) :
    payload.status = (overlayStatus payload job.status).status := by
  cases status : job.status with
  | queued | deferred | scheduled =>
      rw [status] at terminal
      cases terminal
  | started =>
      rw [status] at terminal
      unfold overlayStatus at terminal ⊢
      simp only at terminal ⊢
      split at terminal
      · rename_i kept
        rw [if_pos kept]
      · cases terminal
  | finished => rfl
  | stopped => exact absurd status agrees.running
  | failed =>
      obtain ⟨none, call, record, verdict⟩ := agrees.failed status
      rw [none] at stored
      obtain rfl := Option.some.inj (record.symm.trans stored)
      rcases verdict with failed | invalid
      · exact failed
      · cases valid.symm.trans invalid
  | canceled =>
      obtain ⟨unfinished, finished⟩ := agrees.canceled status
      cases returned : job.result with
      | some result =>
          rw [returned] at stored
          obtain rfl := Option.some.inj stored
          exact finished result returned
      | none =>
          rw [returned] at stored
          obtain ⟨call, record, cancelled⟩ := unfinished returned
          obtain rfl := Option.some.inj (record.symm.trans stored)
          exact cancelled

/-! ### Saves -/

theorem Cancelled.withMeta (cancelled : job.Cancelled) (kept : keepsVerdict job.jobMeta.llmCall saved.llmCall = true) :
    (job.withMeta saved).Cancelled := by
  obtain ⟨call, record, cancelled⟩ := cancelled
  simp only [keepsVerdict, record, Option.map_some, cancelled, decide_eq_true_eq] at kept
  exact Option.map_eq_some_iff.mp kept

theorem Settled.withMeta (settled : job.Settled) (kept : keepsVerdict job.jobMeta.llmCall saved.llmCall = true) :
    (job.withMeta saved).Settled :=
  settled.imp id (Or.imp id fun cancelled => cancelled.withMeta kept)

theorem Spent.withMeta (spent : job.Spent) (kept : keepsVerdict job.jobMeta.llmCall saved.llmCall = true)
    (readable : job.jobMeta.llmCall.all LLMCallJob.validates = true) : (job.withMeta saved).Spent := by
  obtain ⟨none, call, record, failed | invalid⟩ := spent
  · simp only [keepsVerdict, record, Option.map_some, failed, decide_eq_true_eq] at kept
    obtain ⟨other, stores, failed⟩ := Option.map_eq_some_iff.mp kept
    exact ⟨none, other, stores, .inl failed⟩
  · rw [record, Option.all_some, invalid] at readable
    cases readable

theorem Agrees.withMeta (agrees : job.Agrees) (kept : keepsVerdict job.jobMeta.llmCall saved.llmCall = true)
    (spent : job.status = .failed → (job.withMeta saved).Spent) : (job.withMeta saved).Agrees where
  args := agrees.args
  failed := spent
  canceled canceled :=
    (agrees.canceled canceled).imp (fun unfinished none => (unfinished none).withMeta kept) id
  finished := agrees.finished
  result := agrees.result
  running := agrees.running

/-- RQ's status while the job is still to be worked on. -/
theorem Agrees.goesOn (agrees : job.Agrees) (live : status = .started ∨ status = .queued) :
    (job.withStatus status).Agrees where
  args := agrees.args
  failed failed := by rcases live with rfl | rfl <;> cases failed
  canceled canceled := by rcases live with rfl | rfl <;> cases canceled
  finished finished := by rcases live with rfl | rfl <;> cases finished
  result := agrees.result
  running := by rcases live with rfl | rfl <;> rintro ⟨⟩

theorem Settled.goesOn (settled : job.Settled) (notFailed : job.status ≠ .failed) : (job.withStatus status).Settled :=
  settled.imp id fun ended => .inr (ended.resolve_left notFailed)

/-- RQ queues the job again with the `meta` its job object holds. -/
theorem Agrees.requeued (agrees : job.Agrees) : ((job.withMeta saved).withStatus .queued).Agrees where
  args := agrees.args
  failed := by rintro ⟨⟩
  canceled := by rintro ⟨⟩
  finished := by rintro ⟨⟩
  result := agrees.result
  running := by rintro ⟨⟩

theorem Agrees.finishes (agrees : job.Agrees) (terminal : result.status.isTerminal = true) :
    (job.finishedWith result).Agrees where
  args := agrees.args
  failed := by rintro ⟨⟩
  canceled := by rintro ⟨⟩
  finished _ := rfl
  result := by
    rintro _ ⟨rfl⟩
    exact terminal
  running := by rintro ⟨⟩

theorem Agrees.gaveUp (agrees : job.Agrees) (spent : job.Spent) : (job.withStatus .failed).Agrees where
  args := agrees.args
  failed _ := spent
  canceled := by rintro ⟨⟩
  finished := by rintro ⟨⟩
  result := agrees.result
  running := by rintro ⟨⟩

/-- A canceller marks a job whose record it has cancelled. -/
theorem Agrees.marked (agrees : job.Agrees) (cancelled : job.Cancelled)
    (result : job.result.all (fun result => result.status = .cancelled) = true) : (job.withStatus .canceled).Agrees where
  args := agrees.args
  failed := by rintro ⟨⟩
  canceled _ := by
    refine ⟨fun _ => cancelled, fun other returned => ?_⟩
    change job.result = some other at returned
    rw [returned, Option.all_some, decide_eq_true_eq] at result
    exact result
  finished := by rintro ⟨⟩
  result := agrees.result
  running := by rintro ⟨⟩

end RQJob

/-! ## The parties -/

/-- There is a job, and it is so. -/
def Holds (P : RQJob → Prop) (stored : Option RQJob) : Prop := ∃ job, stored = some job ∧ P job

/-- The copy of an attempt that may still store a retry. -/
def WorkerPoint.attempting : WorkerPoint → Option Copy
  | .starting copy | .announcing copy | .ready copy => some copy
  | point => point.guardedCopy

/-- The record of a job that is queued again has counted so many retries. -/
def JobMeta.Counts (retries : Nat) (jobMeta : JobMeta) : Prop :=
  ∃ call, jobMeta.llmCall = some call ∧ (retries : Int) ≤ jobMeta.retries call

/-- The record of a job that is queued again cannot be read. -/
def JobMeta.Unreadable (jobMeta : JobMeta) : Prop :=
  ∃ call, jobMeta.llmCall = some call ∧ call.validates = false

/-- What is known of the job at each point of an attempt. -/
def WorkerPoint.Knows (stored : Option RQJob) (left reruns : Nat) : WorkerPoint → Prop
  | .popped => stored.isSome = true
  | .fetched read =>
      ((read.jobMeta.llmCall.getD read.args).validates = false →
          Holds RQJob.Unreadable stored ∧ read.jobMeta.Unreadable) ∧
        ((read.jobMeta.llmCall.getD read.args).validates = true →
          (loaded read.jobMeta read.args).cancelRequested = false →
            reruns ≤ (loaded read.jobMeta read.args).retryCount)
  | .started copy => copy.call.cancelRequested = false → reruns ≤ copy.call.retryCount
  | .doneDue copy | .cancelDue copy _ _ | .refusalDue copy _ | .returning copy _ => copy.call.status.isTerminal = true
  | .retryDue copy => left ≠ 0 ∧ copy.jobMeta.Counts (reruns + 1)
  | .failDue copy => Holds RQJob.Spent stored ∧ copy.jobMeta.Counts (reruns + 1)
  | .raised none jobMeta => Holds RQJob.Unreadable stored ∧ jobMeta.Unreadable
  | .raised (some _) jobMeta => (left = 0 → Holds RQJob.Spent stored) ∧ jobMeta.Counts (reruns + 1)
  | _ => True

/-- A canceller that has stored a cancellation finds it there. -/
def CancelPhase.Knows (stored : Option RQJob) : CancelPhase → Prop
  | .saved => Holds RQJob.Cancelled stored
  | _ => True

/-- A waiter that goes on to read the result finds that the job has ended. -/
def WaitPhase.Knows (stored : Option RQJob) : WaitPhase → Prop
  | .statusRead call => call.status = .cancelled → Holds RQJob.Settled stored
  | .resultDue => Holds RQJob.Settled stored
  | .returned status => status.isTerminal = true
  | _ => True

/-- The record has counted each re-run, unless it cannot be read or a cancellation was
    requested; and the worker has let go of a job that RQ calls failed. -/
structure WorkerKnows (w : World) (phase : WorkerPhase) : Prop where
  point : phase.point.Knows w.job phase.left w.reruns
  counted : ∀ copy, phase.point.attempting = some copy → w.reruns ≤ copy.call.retryCount
  pending : phase.Pending → ∀ job call, w.snapshot = some job → job.jobMeta.llmCall = some call →
    call.cancelRequested = false → call.validates = true →
      (w.reruns + phase.point.uncounted : Nat) ≤ job.jobMeta.retries call
  unrecorded : w.record = none → w.reruns = 0
  failed : Holds (fun job => job.status = .failed) w.job → phase.point = .ended ∨ w.workerLost = true
  running : w.running = true → phase.point ≠ .ended

structure Verdicts (w : World) (p : Phases) : Prop where
  job : ∀ job, w.job = some job → job.Agrees
  queued : w.queued = true → w.job.isSome = true
  worker : WorkerKnows w p.worker
  cancel : ∀ call, (p.cancel call).Knows w.job
  wait : ∀ call, (p.wait call).Knows w.job

section Knowledge

variable {P Q : RQJob → Prop} {f : RQJob → RQJob} {stored after : Option RQJob} {left reruns : Nat}

theorem Holds.map (holds : Holds P stored) (kept : ∀ job, stored = some job → P job → Q (f job)) :
    Holds Q (stored.map f) := by
  obtain ⟨job, rfl, holds⟩ := holds
  exact ⟨_, rfl, kept job rfl holds⟩

theorem CancelPhase.Knows.imp {phase : CancelPhase} (knows : phase.Knows stored)
    (cancelled : Holds RQJob.Cancelled stored → Holds RQJob.Cancelled after) : phase.Knows after := by
  cases phase with
  | saved => exact cancelled knows
  | _ => trivial

theorem WaitPhase.Knows.imp {phase : WaitPhase} (knows : phase.Knows stored)
    (settled : Holds RQJob.Settled stored → Holds RQJob.Settled after) : phase.Knows after := by
  cases phase with
  | statusRead call => exact fun cancelled => settled (knows cancelled)
  | resultDue => exact settled knows
  | returned => exact knows
  | _ => trivial

theorem WorkerPoint.Knows.imp {point : WorkerPoint} (knows : point.Knows stored left reruns)
    (present : stored.isSome = true → after.isSome = true)
    (unreadable : Holds RQJob.Unreadable stored → Holds RQJob.Unreadable after)
    (spent : Holds RQJob.Spent stored → Holds RQJob.Spent after) : point.Knows after left reruns := by
  cases point with
  | popped => exact present knows
  | fetched => exact ⟨fun invalid => (knows.1 invalid).imp unreadable id, knows.2⟩
  | failDue => exact And.imp spent id knows
  | raised saved =>
      cases saved with
      | none => exact And.imp unreadable id knows
      | some => exact And.imp (fun holds none => spent (holds none)) id knows
  | _ => exact knows

end Knowledge

section Moves

variable {settings : Settings} {point after : WorkerPoint} {command : Command} {reply : command.Reply} {left reruns : Nat}

theorem WorkerPoint.attempting_of_guarded {copy : Copy} (held : point.guardedCopy = some copy) :
    point.attempting = some copy := by
  cases point <;> first | exact held | cases held

/-- An attempt keeps its count of retries until it has stored its end. -/
theorem AttemptMoves.counted (move : AttemptMoves settings point command reply after)
    (counted : ∀ copy, point.attempting = some copy → reruns ≤ copy.call.retryCount)
    (first : ∀ copy, point = .started copy → after = .starting copy → reruns ≤ copy.call.retryCount) :
    ∀ copy, after.attempting = some copy → reruns ≤ copy.call.retryCount := by
  have same : ∀ copy other : Copy, point.attempting = some copy →
      other.call.retryCount = copy.call.retryCount → reruns ≤ other.call.retryCount := by
    intro copy other held retries
    rw [retries]
    exact counted copy held
  cases move with
  | neutral | uninterrupted => exact counted
  | interrupted held altered | interruptedLoop held altered =>
      rintro _ ⟨⟩
      refine same _ _ (WorkerPoint.attempting_of_guarded held) ?_
      obtain ⟨_, _, _, _, _, _, _, rfl⟩ := altered
      rfl
  | startClear =>
      rintro _ ⟨⟩
      exact first _ rfl rfl
  | saveProcessing | saveCompleted =>
      refine WorkerPoint.whenStreaming_cases (motive := fun after => ∀ copy, after.attempting = some copy →
        reruns ≤ copy.call.retryCount) ?_ ?_
      · rintro _ ⟨⟩
        exact same _ _ rfl rfl
      · rintro _ ⟨⟩
        exact same _ _ rfl rfl
  | saveRefused | saveRetry | saveFailed =>
      refine WorkerPoint.whenStreaming_cases (motive := fun after => ∀ copy, after.attempting = some copy →
        reruns ≤ copy.call.retryCount) ?_ ?_
      · rintro _ ⟨⟩
      · rintro _ ⟨⟩
  | @saveCancelled _ _ inTry | @announceCancelled _ _ inTry =>
      cases inTry with
      | false => rintro _ ⟨⟩
      | true =>
          rintro _ ⟨⟩
          exact same _ _ rfl rfl
  | _ =>
      rintro _ ⟨⟩
      all_goals exact same _ _ rfl rfl

/-- Only a save makes a job wait for an attempt that had one. -/
theorem AttemptMoves.pending (move : AttemptMoves settings point command reply after)
    (noSave : command.writes = none) (ok : point.Ok left reruns) (pending : WorkerPhase.Pending ⟨left, after⟩) :
    WorkerPhase.Pending ⟨left, point⟩ ∧ after.uncounted = point.uncounted := by
  cases move with
  | neutral | uninterrupted | announceRetry => exact ⟨pending, rfl⟩
  | pop | fetch | missing | start | startInvalid | startUnreadable => exact ⟨trivial, rfl⟩
  | announceFailed => exact absurd ok pending
  | saveProcessing | saveStreaming | saveCompleted | saveCancelled | saveRefused | saveRetry | saveFailed => cases noSave
  | _ => exact pending.elim

theorem WorkerPoint.uncounted_le_one : point.uncounted ≤ 1 := by
  unfold WorkerPoint.uncounted
  split <;> simp

/-- A stored retry is counted. -/
theorem AttemptMoves.pending_saved {saved : JobMeta} {reply : Unit}
    (move : AttemptMoves settings point (.saveMeta saved) reply after)
    (counted : ∀ copy, point.attempting = some copy → reruns ≤ copy.call.retryCount)
    (pending : WorkerPhase.Pending ⟨left, after⟩) (call : LLMCallJob) (stores : saved.llmCall = some call) :
    (reruns + after.uncounted : Nat) ≤ saved.retries call := by
  cases move with
  | neutral neutral => cases neutral
  | saveProcessing | saveCompleted | saveRefused =>
      revert pending
      exact WorkerPoint.whenStreaming_cases (motive := fun after => WorkerPhase.Pending ⟨left, after⟩ → _)
        False.elim False.elim
  | saveStreaming | saveCancelled => exact pending.elim
  | @saveRetry copy elapsed message | @saveFailed copy elapsed message =>
      have held := counted copy rfl
      refine Int.le_trans (Int.ofNat_le.mpr (Nat.add_le_add_left WorkerPoint.uncounted_le_one _)) ?_
      simp only [JobMeta.retries, Copy.putFailure, LLMCallJob.toRetry, LLMCallJob.toFailed, Option.getD_some]
      omega

end Moves

section Worker

variable {trace : Trace} {settings : Settings} {w w' : World} {point after : WorkerPoint} {command : Command}
  {reply : command.Reply} {left reruns : Nat} {phase : WorkerPhase}

/-- While the worker holds the job, RQ has no result. -/
theorem WorkerOk.noResult {job : RQJob} (ok : WorkerOk settings w.snapshot reruns phase)
    (running : phase.point ≠ .ended) (found : w.job = some job) : job.result = none :=
  ok.running running ⟨job.args, job.jobMeta, job.result⟩ (by rw [World.snapshot, found]; rfl)

/-- A retry is stored only while RQ has a re-run left. -/
theorem retry_left {copy : Copy} (counted : reruns ≤ copy.call.retryCount) (budget : left + reruns = rqRetries settings)
    (within : copy.call.retryCount + 1 ≤ settings.llmJobMaxRetries) : left ≠ 0 := by
  unfold rqRetries at budget
  omega

theorem AttemptMoves.knows (move : AttemptMoves settings point command reply after)
    (answered : exec .worker command w = some (reply, w')) (kept : keepsVerdicts trace w ⟨.worker, command⟩ = true)
    (knows : WorkerKnows w ⟨left, point⟩) (ok : WorkerOk settings w.snapshot w.reruns ⟨left, point⟩)
    (stored : ∀ job, w.snapshot = some job → job.Ok) (agrees : ∀ job, w.job = some job → job.Agrees)
    (queued : w.queued = true → w.job.isSome = true) : after.Knows w'.job left w'.reruns := by
  have here := knows.point
  cases move with
  | neutral neutral =>
      have same := exec_passive (Command.isPassive_of_isNeutral neutral) answered
      rw [same.job, same.reruns]
      exact here
  | uninterrupted =>
      have same := exec_passive rfl answered
      rw [same.job, same.reruns]
      exact here
  | pop =>
      obtain ⟨onQueue, rfl⟩ := exec_pop answered
      exact queued onQueue
  | @fetch read =>
      have same := exec_passive rfl answered
      have found := exec_fetchJob answered
      obtain ⟨job, present, rfl⟩ := Option.map_eq_some_iff.mp found.symm
      rw [same.job, same.reruns]
      have fine := stored _ found.symm
      cases record : job.jobMeta.llmCall with
      | none =>
          have first := knows.unrecorded (by rw [World.record, present]; exact record)
          have empty := fine.empty record
          have fresh := fine.args.retryCount
          refine ⟨fun invalid => ?_, fun _ _ => ?_⟩
          · simp only [record, Option.getD_none] at invalid
            cases (agrees job present).args.symm.trans invalid
          · simp only at empty fresh
            simp [loaded, empty, fresh, first]
      | some call =>
          have counts := knows.pending trivial _ call found.symm record
          refine ⟨fun invalid => ?_, fun valid unflagged => ?_⟩
          · have invalid : call.validates = false := by simpa [record] using invalid
            exact ⟨⟨job, present, ok.noResult (by rintro ⟨⟩) present, call, record, invalid⟩, call, record, invalid⟩
          · simp only [record, Option.getD_some] at valid
            have counted : (w.reruns : Int) ≤ job.jobMeta.retries call :=
              counts (by simpa only [loaded, record, Option.getD_some] using unflagged) valid
            simpa only [loaded, record, Option.getD_some, JobMeta.retries] using counted
  | missing =>
      have found := exec_fetchJob answered
      obtain ⟨job, present⟩ := Option.isSome_iff_exists.mp here
      rw [World.snapshot, present] at found
      cases found
  | start valid =>
      obtain rfl := exec_setStatus answered
      exact here.2 valid
  | startInvalid invalid =>
      obtain rfl := exec_setStatus answered
      exact (here.1 invalid).imp (fun holds => holds.map fun job _ unreadable => unreadable) id
  | startUnreadable unreadable =>
      rw [exec_fetchJob answered] at unreadable
      have readable : (readPayload w.snapshot).isSome = true := kept
      rw [unreadable] at readable
      cases readable
  | saveCompleted =>
      exact WorkerPoint.whenStreaming_cases (motive := fun after => after.Knows w'.job left w'.reruns) rfl rfl
  | saveRefused =>
      exact WorkerPoint.whenStreaming_cases (motive := fun after => after.Knows w'.job left w'.reruns) rfl rfl
  | saveCancelled => exact rfl
  | saveProcessing =>
      exact WorkerPoint.whenStreaming_cases (motive := fun after => after.Knows w'.job left w'.reruns) trivial trivial
  | @saveRetry copy elapsed message within =>
      have some_left := retry_left (knows.counted _ rfl) ok.budget within
      have counts : (copy.putFailure (copy.call.toRetry message) elapsed).jobMeta.Counts (w'.reruns + 1) := by
        rw [(snapshot_saveMeta answered).2]
        exact ⟨_, rfl, Int.add_le_add_right (knows.counted copy rfl) 1⟩
      exact WorkerPoint.whenStreaming_cases (motive := fun after => after.Knows w'.job left w'.reruns)
        ⟨some_left, counts⟩ ⟨fun none => absurd none some_left, counts⟩
  | @saveFailed copy elapsed message now =>
      obtain rfl := exec_saveMeta answered
      obtain ⟨read, _, found, _⟩ := ok.recorded rfl
      obtain ⟨job, present, _⟩ := Option.map_eq_some_iff.mp found
      have spent : Holds RQJob.Spent (w.job.map (RQJob.withMeta
          (copy.putFailure (copy.call.toFailed message now) elapsed).jobMeta)) := by
        have noResult := ok.noResult (by rintro ⟨⟩) present
        rw [present]
        exact ⟨_, rfl, noResult, _, rfl, .inl rfl⟩
      have counts : (copy.putFailure (copy.call.toFailed message now) elapsed).jobMeta.Counts (w.reruns + 1) :=
        ⟨_, rfl, Int.add_le_add_right (knows.counted copy rfl) 1⟩
      exact WorkerPoint.whenStreaming_cases (motive := fun after => after.Knows _ left _) ⟨spent, counts⟩
        ⟨fun _ => spent, counts⟩
  | announceDone | announceCancelled | announceRefused => exact here
  | announceRetry =>
      obtain rfl := exec_xadd answered
      exact And.imp (fun granted none => absurd none granted) id here
  | announceFailed =>
      obtain rfl := exec_xadd answered
      exact And.imp (fun spent _ => spent) id here
  | _ => trivial

end Worker

end LanguageAgent.Queue
