import LanguageAgent.Queue.Runs

/-! # What the stored record says about the job

The invariant of every run: what is stored is consistent, a job that may still run
has an open record unless its cancellation was requested, and no record claims more
retries than RQ has granted.
-/

namespace LanguageAgent

namespace LLMCallJob

/-- `completed_at`, `error` and `started_at` say what the status says. -/
structure Consistent (call : LLMCallJob) : Prop where
  completed : call.completedAt.isSome ↔ call.status.isTerminal
  error : call.error.isSome ↔ call.status = .failed ∨ call.status = .cancelled
  started : call.status = .processing ∨ call.status = .streaming ∨ call.status = .completed →
    call.startedAt.isSome

/-- Nothing in the record says that the job has ended. -/
structure Open (call : LLMCallJob) : Prop where
  completedAt : call.completedAt = none
  error : call.error = none

/-- A record as the API first writes it. -/
structure Fresh (call : LLMCallJob) : Prop where
  status : call.status = .queued
  isOpen : call.Open
  unflagged : call.cancelRequested = false
  retryCount : call.retryCount = 0

variable {call : LLMCallJob}

theorem Fresh.consistent (fresh : call.Fresh) : call.Consistent := by
  obtain ⟨status, ⟨completedAt, error⟩, -, -⟩ := fresh
  constructor <;> simp [status, completedAt, error, CallStatus.isTerminal]

theorem Fresh.withElapsed (fresh : call.Fresh) {elapsed : Option Rat} :
    (call.withElapsed elapsed).Fresh :=
  ⟨fresh.status, ⟨fresh.isOpen.completedAt, fresh.isOpen.error⟩, fresh.unflagged, fresh.retryCount⟩

theorem Consistent.withElapsed (consistent : call.Consistent) {elapsed : Option Rat} :
    (call.withElapsed elapsed).Consistent :=
  ⟨consistent.completed, consistent.error, consistent.started⟩

theorem Consistent.flagged (consistent : call.Consistent) : call.flagged.Consistent :=
  ⟨consistent.completed, consistent.error, consistent.started⟩

theorem Consistent.sameButRead {copy : LLMCallJob} (consistent : call.Consistent)
    (same : call.SameButRead copy) : copy.Consistent := by
  obtain ⟨_, _, _, rfl⟩ := same
  exact ⟨consistent.completed, consistent.error, consistent.started⟩

theorem consistent_toProcessing {now : Timestamp} (isOpen : call.Open) :
    (call.toProcessing now).Consistent := by
  constructor <;> simp [toProcessing, isOpen.completedAt, isOpen.error, CallStatus.isTerminal]

theorem consistent_toStreaming (isOpen : call.Open) (started : call.startedAt.isSome) :
    call.toStreaming.Consistent := by
  constructor <;> simp [toStreaming, isOpen.completedAt, isOpen.error, started, CallStatus.isTerminal]

theorem consistent_toCompleted {now : Timestamp} (isOpen : call.Open)
    (started : call.startedAt.isSome) : (call.toCompleted now).Consistent := by
  constructor <;> simp [toCompleted, isOpen.error, started, CallStatus.isTerminal]

theorem consistent_toCancelled {message : String} {now : Timestamp} :
    (call.toCancelled message now).Consistent := by
  constructor <;> simp [toCancelled, CallStatus.isTerminal]

theorem consistent_toRefused {message : String} {now : Timestamp} :
    (call.toRefused message now).Consistent := by
  constructor <;> simp [toRefused, CallStatus.isTerminal]

theorem consistent_toRetry {message : String} : (call.toRetry message).Consistent := by
  constructor <;> simp [toRetry, CallStatus.isTerminal]

theorem consistent_toFailed {message : String} {now : Timestamp} :
    (call.toFailed message now).Consistent := by
  constructor <;> simp [toFailed, CallStatus.isTerminal]

end LLMCallJob

namespace Queue

open Interleaving

/-- The retry count the next attempt will start from. -/
def JobMeta.retries (jobMeta : JobMeta) (call : LLMCallJob) : Int :=
  jobMeta.retryCount.getD call.retryCount

/-! ## The stored record -/

structure Snapshot.Ok (job : Snapshot) : Prop where
  args : job.args.Fresh
  record : ∀ call, job.jobMeta.llmCall = some call → call.Consistent
  empty : job.jobMeta.llmCall = none → job.jobMeta = {}
  result : ∀ call, job.result = some call → call.Consistent ∧ job.jobMeta.llmCall.isSome

/-- Some record is stored. -/
def Recorded (stored : Option Snapshot) : Prop :=
  ∃ job call, stored = some job ∧ job.jobMeta.llmCall = some call

/-- Some record with a cancellation request is stored. -/
def Requested (stored : Option Snapshot) : Prop :=
  ∃ job call, stored = some job ∧ job.jobMeta.llmCall = some call ∧ call.cancelRequested = true

/-! ## The worker -/

/-- The copy counts its retries in one way, and no more of them than RQ has granted. -/
structure Copy.Within (copy : Copy) (reruns : Nat) : Prop where
  settled : copy.jobMeta.retries copy.call = copy.call.retryCount
  granted : copy.call.retryCount ≤ reruns

namespace WorkerPoint

/-- The copy an attempt has loaded but not yet checked. -/
def base : WorkerPoint → Option Copy
  | .fetched job => some ⟨job.jobMeta, loaded job.jobMeta job.args⟩
  | .started copy => some copy
  | _ => none

/-- The `meta` RQ's job object holds, which a job that is queued again is saved with. -/
def held : WorkerPoint → Option JobMeta
  | .fetched job => some job.jobMeta
  | .started copy | .retryDue copy => some copy.jobMeta
  | .raised _ jobMeta => some jobMeta
  | _ => none

/-- The first check has read a stored record. -/
def pastCheck : WorkerPoint → Bool
  | .idle | .popped | .fetched _ | .started _ | .raised none _ | .ended => false
  | _ => true

/-- A failure is stored that RQ has not yet counted. -/
def uncounted : WorkerPoint → Nat
  | .retryDue _ | .raised (some _) _ => 1
  | _ => 0

/-- Between the first check and the end of the attempt, with no retry stored. -/
def inRun : WorkerPoint → Bool
  | .idle | .popped | .fetched _ | .started _ | .retryDue _ | .raised _ _ | .ended => false
  | _ => true

/-- What the copy of each phase satisfies. -/
def Ok (left reruns : Nat) : WorkerPoint → Prop
  | .starting copy => copy.call.Open ∧ copy.Within reruns
  | .announcing copy | .ready copy | .serving copy | .streamSaved copy | .opening copy
  | .reading copy _ _ _ | .publishing copy _ _ _ _ | .checking copy _ _ _ | .answered copy
  | .deciding copy => copy.call.Open ∧ copy.call.startedAt.isSome ∧ copy.Within reruns
  | .closing copy _ | .faulted copy => copy.Within reruns
  | .stopping copy _ inTry => inTry = true → copy.Within reruns
  | .doneDue copy => copy.call.Consistent ∧ copy.Within reruns
  | .cancelDue copy _ inTry | .returning copy inTry =>
      copy.call.Consistent ∧ (inTry = true → copy.Within reruns)
  | .refusalDue copy _ => copy.call.Consistent
  | .failDue _ => left = 0
  | _ => True

end WorkerPoint

/-- The job may be attempted (again). -/
def WorkerPhase.Pending (phase : WorkerPhase) : Prop :=
  match phase.point with
  | .idle | .popped | .fetched _ | .started _ | .raised none _ => True
  | .retryDue _ | .raised (some _) _ => phase.left ≠ 0
  | _ => False

/-- The copy loaded at the start of an attempt: open unless flagged, and flagged only if
    the stored record is. -/
structure BaseOk (stored : Option Snapshot) (reruns : Nat) (copy : Copy) : Prop where
  settled : copy.jobMeta.retries copy.call = copy.call.retryCount
  unflagged : copy.call.cancelRequested = false → copy.call.Open ∧ copy.call.retryCount ≤ reruns
  flagged : copy.call.cancelRequested = true → Requested stored

/-- What RQ may write back when it queues the job again, so many failures being stored. -/
structure HeldOk (stored : Option Snapshot) (failures : Nat) (jobMeta : JobMeta) : Prop where
  record : ∀ call, jobMeta.llmCall = some call → call.Consistent ∧ Recorded stored
  empty : jobMeta.llmCall = none → jobMeta = {}
  pending : ∀ call, jobMeta.llmCall = some call → call.cancelRequested = false →
    call.Open ∧ jobMeta.retries call ≤ failures

structure WorkerOk (settings : Settings) (stored : Option Snapshot) (reruns : Nat)
    (phase : WorkerPhase) : Prop where
  budget : phase.left + reruns = rqRetries settings
  point : phase.point.Ok phase.left reruns
  pending : phase.Pending → ∀ job call, stored = some job → job.jobMeta.llmCall = some call →
    call.cancelRequested = false →
      call.Open ∧ job.jobMeta.retries call ≤ (reruns + phase.point.uncounted : Nat)
  base : ∀ copy, phase.point.base = some copy → BaseOk stored reruns copy
  held : phase.Pending → ∀ jobMeta, phase.point.held = some jobMeta →
    HeldOk stored (reruns + phase.point.uncounted) jobMeta
  recorded : phase.point.pastCheck = true → Recorded stored
  running : phase.point ≠ .ended → ∀ job, stored = some job → job.result = none

/-! ## The other parties -/

/-- The API is the first to store a record. -/
def ApiPhase.Ok (stored : Option Snapshot) : ApiPhase → Prop
  | .start => stored = none
  | .pushed payload => payload.Fresh ∧ ∃ args result, stored = some ⟨args, {}, result⟩
  | .recorded _ | .finished => stored.isSome

/-- The API has stored its record. -/
def ApiPhase.Saved : ApiPhase → Prop
  | .start | .pushed _ => False
  | .recorded _ | .finished => True

/-- The record a canceller holds was read from the store, where the API had stored one. -/
def CancelPhase.Ok (api : ApiPhase) : CancelPhase → Prop
  | .read _ call | .removing _ call | .removed _ call | .requesting _ call =>
      call.Consistent ∧ api.Saved
  | _ => True

structure Bookkeeping (settings : Settings) (w : World) (p : Phases) : Prop where
  stored : ∀ job, w.snapshot = some job → job.Ok
  api : p.api.Ok w.snapshot
  worker : WorkerOk settings w.snapshot w.reruns p.worker
  cancel : ∀ call, (p.cancel call).Ok p.api

/-! ## Moves of the worker -/

variable {settings : Settings} {stored : Option Snapshot} {reruns left : Nat}
  {point after : WorkerPoint} {copy : Copy}

theorem Copy.Within.altered {other : Copy} (within : copy.Within reruns)
    (altered : copy.Altered other) : other.Within reruns := by
  obtain ⟨_, _, _, _, _, _, _, rfl⟩ := altered
  exact ⟨within.settled, within.granted⟩

theorem Copy.Within.mapCall {f : LLMCallJob → LLMCallJob} (within : copy.Within reruns)
    (same : (f copy.call).retryCount = copy.call.retryCount) : (copy.mapCall f).Within reruns := by
  obtain ⟨settled, granted⟩ := within
  constructor
  · simp only [Copy.mapCall, JobMeta.retries, same] at settled ⊢
    exact settled
  · simp only [Copy.mapCall, same]
    exact granted

/-- A dumped record keeps the retry count of its copy. -/
theorem Copy.Within.put {call : LLMCallJob} {elapsed : Option Rat} (within : copy.Within reruns)
    (same : call.retryCount = copy.call.retryCount) : (copy.put call elapsed).Within reruns := by
  obtain ⟨settled, granted⟩ := within
  constructor
  · simp only [Copy.put, JobMeta.retries, LLMCallJob.withElapsed, same] at settled ⊢
    exact settled
  · simp only [Copy.put, LLMCallJob.withElapsed, same]
    exact granted

theorem WorkerPoint.Ok.within (ok : point.Ok left reruns) (held : point.guardedCopy = some copy) :
    copy.Within reruns := by
  cases point with
  | stopping _ _ inTry | cancelDue _ _ inTry | returning _ inTry =>
      cases inTry <;> simp_all [WorkerPoint.guardedCopy, WorkerPoint.Ok]
  | _ => simp_all [WorkerPoint.guardedCopy, WorkerPoint.Ok]

/-- A read that serves the worker before RQ has a result yields the stored record. -/
theorem readPayload_stored {payload : LLMCallJob} (read : readPayload stored = some payload)
    (running : ∀ job, stored = some job → job.result = none) :
    ∃ job, stored = some job ∧ job.jobMeta.llmCall = some payload := by
  obtain ⟨job, rfl, found⟩ := Option.bind_eq_some_iff.mp read
  refine ⟨job, rfl, ?_⟩
  have payload := (Option.filter_eq_some_iff.mp found).1
  rw [Snapshot.payload, running job rfl] at payload
  exact payload

/-- A move within an attempt that leaves the stored record. -/
theorem WorkerOk.within (ok : WorkerOk settings stored reruns ⟨left, point⟩)
    (recorded : Recorded stored) (noResult : ∀ job, stored = some job → job.result = none)
    (inRun : after.inRun = true) (fine : after.Ok left reruns) :
    WorkerOk settings stored reruns ⟨left, after⟩ where
  budget := ok.budget
  point := fine
  pending := by
    intro pending
    cases after <;> first | exact absurd inRun Bool.false_ne_true | exact pending.elim
  base := by
    intro copy base
    cases after <;> first | exact absurd inRun Bool.false_ne_true | cases base
  held := by
    intro pending
    cases after <;> first | exact absurd inRun Bool.false_ne_true | exact pending.elim
  recorded _ := recorded
  running _ := noResult

/-- A command within an attempt that stores no record keeps what its copy satisfies. -/
theorem AttemptMoves.keeps_ok {command : Command} {reply : command.Reply}
    (move : AttemptMoves settings point command reply after) (keeps : command.keepsRecord = true)
    (before : point.inRun = true) (inRun : after.inRun = true) (ok : point.Ok left reruns) :
    after.Ok left reruns := by
  cases move with
  | neutral | uninterrupted => exact ok
  | interrupted held altered => exact (ok.within held).altered altered
  | interruptedLoop held altered => exact (ok.within held).altered altered
  | pop | fetch | missing | start | startInvalid | startUnreadable | startCancelled | startClear =>
      exact absurd before Bool.false_ne_true
  | announceRetry | announceFailed | finish => exact absurd inRun Bool.false_ne_true
  | saveProcessing | saveStreaming | saveCompleted | saveCancelled | saveRefused | saveRetry
  | saveFailed => exact absurd keeps Bool.false_ne_true
  | ask | generate | closeAnswered =>
      exact ⟨⟨ok.1.completedAt, ok.1.error⟩, ok.2.1, ok.2.2.mapCall rfl⟩
  | checkCancelled => exact ok.2.2.mapCall rfl
  | finalCancelled => exact fun _ => ok.2.2.mapCall rfl
  | closeCancelled => exact fun _ => ok
  | loadFailed | askFailed | generateFailed | checkUnreadable | closeBroken | finalUnreadable =>
      exact ok.2.2
  | announceDone => exact ⟨ok.1, fun _ => ok.2⟩
  | askRefused => trivial
  | announceRefused => exact ⟨ok, nofun⟩
  | _ => exact ok

/-- What a save of the worker owes the invariant. -/
structure SaveOk (saved : JobMeta) (left reruns : Nat) (after : WorkerPoint) : Prop where
  consistent : ∃ call, saved.llmCall = some call ∧ call.Consistent
  point : after.Ok left reruns
  pending : WorkerPhase.Pending ⟨left, after⟩ → ∀ call, saved.llmCall = some call →
    call.Open ∧ saved.retries call ≤ (reruns + after.uncounted : Nat)
  base : after.base = none
  held : ∀ jobMeta, after.held = some jobMeta → jobMeta = saved
  notEnded : after ≠ .ended

private theorem saveOk_inRun {saved : JobMeta} {call : LLMCallJob} (stores : saved.llmCall = some call)
    (consistent : call.Consistent) (inRun : after.inRun = true) (ok : after.Ok left reruns) :
    SaveOk saved left reruns after where
  consistent := ⟨call, stores, consistent⟩
  point := ok
  pending := by
    intro pending
    cases after <;> first | exact absurd inRun Bool.false_ne_true | exact pending.elim
  base := by cases after <;> first | exact absurd inRun Bool.false_ne_true | rfl
  held := by
    intro jobMeta same
    cases after <;> first | exact absurd inRun Bool.false_ne_true | cases same
  notEnded := by rintro rfl; exact absurd inRun Bool.false_ne_true

/-- A failure that spends the last retry leaves RQ none to grant. -/
private theorem spent_left (within : copy.Within reruns)
    (spent : ¬ copy.call.retryCount + 1 ≤ settings.llmJobMaxRetries)
    (budget : left + reruns = rqRetries settings) : left = 0 := by
  have granted := within.granted
  unfold rqRetries at budget
  omega

private theorem saveOk_retry {message : String} {elapsed : Option Rat} (within : copy.Within reruns)
    (after : WorkerPoint) (base : after.base = none) (notEnded : after ≠ .ended)
    (held : after.held = some (copy.putFailure (copy.call.toRetry message) elapsed).jobMeta)
    (ok : after.Ok left reruns) (uncounted : after.uncounted = 1) :
    SaveOk (copy.putFailure (copy.call.toRetry message) elapsed).jobMeta left reruns after where
  consistent := ⟨_, rfl, LLMCallJob.consistent_toRetry.withElapsed⟩
  point := ok
  pending := by
    rintro - call ⟨rfl⟩
    refine ⟨⟨rfl, rfl⟩, ?_⟩
    have granted := within.granted
    simp only [JobMeta.retries, Copy.putFailure, LLMCallJob.toRetry, Option.getD_some, uncounted]
    omega
  base := base
  held jobMeta same := Option.some.inj (same.symm.trans held)
  notEnded := notEnded

private theorem saveOk_failed {message : String} {now : Timestamp} {elapsed : Option Rat}
    (spent : left = 0) (after : WorkerPoint) (base : after.base = none) (notEnded : after ≠ .ended)
    (held : ∀ jobMeta, after.held = some jobMeta →
      jobMeta = (copy.putFailure (copy.call.toFailed message now) elapsed).jobMeta)
    (ok : after.Ok left reruns) (past : ¬ WorkerPhase.Pending ⟨0, after⟩) :
    SaveOk (copy.putFailure (copy.call.toFailed message now) elapsed).jobMeta left reruns after where
  consistent := ⟨_, rfl, LLMCallJob.consistent_toFailed.withElapsed⟩
  point := ok
  pending pending := by subst spent; exact absurd pending past
  base := base
  held := held
  notEnded := notEnded

/-- A save within an attempt stores a consistent record, whose retries RQ has granted. -/
theorem AttemptMoves.save_ok {saved : JobMeta} {reply : Unit}
    (move : AttemptMoves settings point (.saveMeta saved) reply after)
    (budget : left + reruns = rqRetries settings) (ok : point.Ok left reruns) :
    SaveOk saved left reruns after := by
  cases move with
  | neutral neutral => exact absurd neutral Bool.false_ne_true
  | @saveProcessing copy elapsed now =>
      obtain ⟨isOpen, within⟩ := ok
      have saved : (copy.put (copy.call.toProcessing now) elapsed).Within reruns := within.put rfl
      have consistent : (copy.put (copy.call.toProcessing now) elapsed).call.Consistent :=
        (LLMCallJob.consistent_toProcessing isOpen).withElapsed
      refine WorkerPoint.whenStreaming_cases (motive := SaveOk _ left reruns) ?_ ?_
      · exact saveOk_inRun rfl consistent rfl ⟨⟨isOpen.completedAt, isOpen.error⟩, rfl, saved⟩
      · exact saveOk_inRun rfl consistent rfl ⟨⟨isOpen.completedAt, isOpen.error⟩, rfl, saved⟩
  | saveStreaming =>
      obtain ⟨isOpen, started, within⟩ := ok
      exact saveOk_inRun rfl (LLMCallJob.consistent_toStreaming isOpen started).withElapsed rfl
        ⟨⟨isOpen.completedAt, isOpen.error⟩, started, within.put rfl⟩
  | @saveCompleted copy elapsed now =>
      obtain ⟨isOpen, started, within⟩ := ok
      have consistent : (copy.put (copy.call.toCompleted now) elapsed).call.Consistent :=
        (LLMCallJob.consistent_toCompleted isOpen started).withElapsed
      refine WorkerPoint.whenStreaming_cases (motive := SaveOk _ left reruns) ?_ ?_
      · exact saveOk_inRun rfl consistent rfl ⟨consistent, within.put rfl⟩
      · exact saveOk_inRun rfl consistent rfl ⟨consistent, fun _ => within.put rfl⟩
  | @saveCancelled copy message inTry elapsed now =>
      have consistent : (copy.put (copy.call.toCancelled message now) elapsed).call.Consistent :=
        LLMCallJob.consistent_toCancelled.withElapsed
      exact saveOk_inRun rfl consistent rfl ⟨consistent, fun inTry => (ok inTry).put rfl⟩
  | @saveRefused copy message elapsed now =>
      have consistent : (copy.putFailure (copy.call.toRefused message now) elapsed).call.Consistent :=
        LLMCallJob.consistent_toRefused.withElapsed
      refine WorkerPoint.whenStreaming_cases (motive := SaveOk _ left reruns) ?_ ?_
      · exact saveOk_inRun rfl consistent rfl consistent
      · exact saveOk_inRun rfl consistent rfl ⟨consistent, nofun⟩
  | saveRetry _ within =>
      refine WorkerPoint.whenStreaming_cases (motive := SaveOk _ left reruns) ?_ ?_
      · exact saveOk_retry ok _ rfl nofun rfl trivial rfl
      · exact saveOk_retry ok _ rfl nofun rfl trivial rfl
  | saveFailed _ _ spent =>
      have none := spent_left ok spent budget
      refine WorkerPoint.whenStreaming_cases (motive := SaveOk _ left reruns) ?_ ?_
      · exact saveOk_failed none _ rfl nofun (by rintro _ ⟨⟩) none id
      · exact saveOk_failed none _ rfl nofun (fun _ same => (Option.some.inj same).symm) trivial
          fun pending => pending rfl

private theorem pastCheck_of_inRun (inRun : point.inRun = true) : point.pastCheck = true := by
  cases point <;> first | rfl | exact absurd inRun Bool.false_ne_true

/-- The copy RQ loads from the stored job. -/
private theorem base_of_stored {job : Snapshot} (jobOk : job.Ok)
    (pending : ∀ call, job.jobMeta.llmCall = some call → call.cancelRequested = false →
      call.Open ∧ job.jobMeta.retries call ≤ reruns) :
    BaseOk (some job) reruns ⟨job.jobMeta, loaded job.jobMeta job.args⟩ := by
  cases record : job.jobMeta.llmCall with
  | none =>
      have empty := jobOk.empty record
      refine ⟨?_, fun _ => ⟨?_, ?_⟩, fun flagged => ?_⟩
      · simp [JobMeta.retries, loaded, empty]
      · constructor <;> simp [loaded, record, jobOk.args.isOpen.completedAt, jobOk.args.isOpen.error]
      · simp [loaded, empty, jobOk.args.retryCount]
      · simp [loaded, record, jobOk.args.unflagged] at flagged
  | some call =>
      refine ⟨?_, fun unflagged => ?_, fun flagged => ⟨job, call, rfl, record, ?_⟩⟩
      · simp only [JobMeta.retries, loaded, record, Option.getD_some]
        cases job.jobMeta.retryCount <;> rfl
      · simp only [loaded, record, Option.getD_some] at unflagged ⊢
        obtain ⟨⟨completedAt, error⟩, granted⟩ := pending call record unflagged
        exact ⟨⟨completedAt, error⟩, granted⟩
      · simpa only [loaded, record, Option.getD_some] using flagged

private theorem inRun_of_guarded (held : point.guardedCopy = some copy) : point.inRun = true := by
  cases point <;> first | rfl | cases held

private theorem base_of_none (none : after.base = none) :
    ∀ copy, after.base = some copy → BaseOk stored reruns copy := by
  intro copy base
  rw [none] at base
  cases base

private theorem WorkerOk.keep_within {command : Command} {reply : command.Reply}
    (ok : WorkerOk settings stored reruns ⟨left, point⟩)
    (move : AttemptMoves settings point command reply after) (keeps : command.keepsRecord = true)
    (before : point.inRun = true) : WorkerOk settings stored reruns ⟨left, after⟩ := by
  have recorded := ok.recorded (pastCheck_of_inRun before)
  have noResult := ok.running (by rintro rfl; exact absurd before Bool.false_ne_true)
  by_cases inRun : after.inRun = true
  · exact ok.within recorded noResult inRun (move.keeps_ok keeps before inRun ok.point)
  · cases move with
    | neutral | uninterrupted => exact absurd before inRun
    | announceFailed =>
        have spent : left = 0 := ok.point
        exact ⟨ok.budget, trivial, fun pending => absurd spent pending, base_of_none rfl,
          fun pending => absurd spent pending, fun _ => recorded, fun _ => noResult⟩
    | finish | saveRetry | saveFailed | saveProcessing | saveCompleted | saveRefused =>
        exact absurd keeps Bool.false_ne_true
    | pop | fetch | missing | start | startInvalid | startUnreadable | announceRetry =>
        exact absurd before Bool.false_ne_true
    | _ => exact absurd rfl inRun

private theorem WorkerOk.before_check (ok : WorkerOk settings stored reruns ⟨left, point⟩)
    (pending : WorkerPhase.Pending ⟨left, after⟩ → WorkerPhase.Pending ⟨left, point⟩)
    (uncounted : after.uncounted = point.uncounted) (fine : after.Ok left reruns)
    (base : ∀ copy, after.base = some copy → BaseOk stored reruns copy)
    (held : ∀ jobMeta, after.held = some jobMeta → point.held = some jobMeta ∨
      HeldOk stored (reruns + point.uncounted) jobMeta)
    (past : after.pastCheck = true → point.pastCheck = true) (notEnded : point ≠ .ended) :
    WorkerOk settings stored reruns ⟨left, after⟩ where
  budget := ok.budget
  point := fine
  pending := by
    intro stillPending job call found record unflagged
    rw [uncounted]
    exact ok.pending (pending stillPending) job call found record unflagged
  base := base
  held stillPending jobMeta same := by
    rw [uncounted]
    exact (held jobMeta same).elim (ok.held (pending stillPending) jobMeta) id
  recorded after := ok.recorded (past after)
  running _ := ok.running notEnded

/-- An attempt whose first check finds no request has none in its copy. -/
theorem WorkerOk.unflagged {payload : LLMCallJob} (ok : WorkerOk settings stored reruns ⟨left, .started copy⟩)
    (readable : readPayload stored = some payload) (clear : payload.cancelRequested = false) :
    copy.call.cancelRequested = false := by
  obtain ⟨job, found, record⟩ := readPayload_stored readable (ok.running (by rintro ⟨⟩))
  by_contra flagged
  obtain ⟨other, call, same, recorded, requested⟩ := (ok.base copy rfl).flagged (by simpa using flagged)
  obtain rfl := Option.some.inj (found.symm.trans same)
  obtain rfl := Option.some.inj (record.symm.trans recorded)
  rw [clear] at requested
  exact absurd requested Bool.false_ne_true

private theorem WorkerOk.keep_outside {w w' : World} {command : Command} {reply : command.Reply}
    (ok : WorkerOk settings w.snapshot w.reruns ⟨left, point⟩)
    (jobOk : ∀ job, w.snapshot = some job → job.Ok)
    (move : AttemptMoves settings point command reply after) (keeps : command.keepsRecord = true)
    (answered : exec .worker command w = some (reply, w')) (before : point.inRun = false) :
    WorkerOk settings w.snapshot w.reruns ⟨left, after⟩ := by
  cases move with
  | neutral | uninterrupted => exact ok
  | pop => exact ok.before_check id rfl trivial (base_of_none rfl) (by rintro _ ⟨⟩) id (by rintro ⟨⟩)
  | missing =>
      refine ok.before_check id rfl trivial (base_of_none rfl) ?_ id (by rintro ⟨⟩)
      rintro _ ⟨rfl⟩
      exact .inr ⟨by rintro _ ⟨⟩, fun _ => rfl, by rintro _ ⟨⟩⟩
  | @fetch job =>
      obtain same := exec_fetchJob answered
      refine ok.before_check id rfl trivial ?_ ?_ id (by rintro ⟨⟩)
      · rintro copy ⟨rfl⟩
        rw [← same]
        exact base_of_stored (jobOk job same.symm) fun call record unflagged =>
          ok.pending trivial job call same.symm record unflagged
      · rintro _ ⟨rfl⟩
        have fine := jobOk job same.symm
        exact .inr ⟨fun call record => ⟨fine.record call record, job, call, same.symm, record⟩, fine.empty,
          fun call record unflagged => ok.pending trivial job call same.symm record unflagged⟩
  | start => exact ok.before_check id rfl trivial ok.base (fun _ => .inl) id (by rintro ⟨⟩)
  | startInvalid | startUnreadable | announceRetry =>
      exact ok.before_check id rfl trivial (base_of_none rfl) (fun _ => .inl) id (by rintro ⟨⟩)
  | startCancelled readable =>
      rw [exec_fetchJob answered] at readable
      have noResult := ok.running (by rintro ⟨⟩)
      obtain ⟨job, found, record⟩ := readPayload_stored readable noResult
      exact ok.within ⟨job, _, found, record⟩ noResult rfl (fun inTry => absurd inTry Bool.false_ne_true)
  | @startClear copy _ payload readable clear =>
      rw [exec_fetchJob answered] at readable
      have noResult := ok.running (by rintro ⟨⟩)
      obtain ⟨job, found, record⟩ := readPayload_stored readable noResult
      have base := ok.base copy rfl
      obtain ⟨isOpen, granted⟩ := base.unflagged (ok.unflagged readable clear)
      exact ok.within ⟨job, payload, found, record⟩ noResult rfl ⟨isOpen, base.settled, granted⟩
  | interrupted held | interruptedLoop held =>
      exact absurd (before.symm.trans (inRun_of_guarded held)) Bool.false_ne_true
  | _ => exact absurd before.symm Bool.false_ne_true

/-- Every command of an attempt that stores no record keeps the worker's invariant. -/
theorem WorkerOk.keep {w w' : World} {command : Command} {reply : command.Reply}
    (ok : WorkerOk settings w.snapshot w.reruns ⟨left, point⟩)
    (jobOk : ∀ job, w.snapshot = some job → job.Ok)
    (move : AttemptMoves settings point command reply after) (keeps : command.keepsRecord = true)
    (answered : exec .worker command w = some (reply, w')) :
    WorkerOk settings w.snapshot w.reruns ⟨left, after⟩ := by
  cases before : point.inRun with
  | true => exact ok.keep_within move keeps before
  | false => exact ok.keep_outside jobOk move keeps answered before

/-! ## Saves as the store sees them -/

/-- What a stored dictionary must contain. -/
def JobMeta.Sound (saved : JobMeta) : Prop := ∃ call, saved.llmCall = some call ∧ call.Consistent

theorem stored_withMeta {saved : JobMeta} (jobOk : ∀ job, stored = some job → job.Ok)
    (sound : saved.Sound) :
    ∀ job, stored.map (Snapshot.withMeta saved) = some job → job.Ok := by
  intro job found
  obtain ⟨before, rfl, rfl⟩ := Option.map_eq_some_iff.mp found
  obtain ⟨call, stores, consistent⟩ := sound
  have ok := jobOk before rfl
  refine ⟨ok.args, ?_, ?_, ?_⟩
  · rintro other record
    obtain rfl := Option.some.inj (stores.symm.trans record)
    exact consistent
  · intro none
    exact absurd (stores.symm.trans none) (by simp)
  · intro result returned
    exact ⟨(ok.result result returned).1, by simp [Snapshot.withMeta, stores]⟩

theorem recorded_withMeta {saved : JobMeta} (recorded : Recorded stored) (sound : saved.Sound) :
    Recorded (stored.map (Snapshot.withMeta saved)) := by
  obtain ⟨job, _, rfl, _⟩ := recorded
  obtain ⟨call, stores, _⟩ := sound
  exact ⟨_, call, rfl, stores⟩

/-- A record can be there only once the API has stored one. -/
theorem ApiPhase.Ok.saved {api : ApiPhase} (ok : api.Ok stored) (recorded : Recorded stored) : api.Saved := by
  obtain ⟨job, call, rfl, record⟩ := recorded
  cases api with
  | start => cases ok
  | pushed payload =>
      obtain ⟨_, args, result, same⟩ := ok
      cases same
      cases record
  | recorded | finished => trivial

theorem ApiPhase.Ok.withMeta {api : ApiPhase} (ok : api.Ok stored) (saved : api.Saved) {jobMeta : JobMeta} :
    api.Ok (stored.map (Snapshot.withMeta jobMeta)) := by
  cases api with
  | start | pushed => exact saved.elim
  | recorded | finished => exact (Option.isSome_map ..).trans ok

theorem ApiPhase.Ok.present {api : ApiPhase} (ok : api.Ok stored) (saved : api.Saved) : stored.isSome := by
  cases api with
  | start | pushed => exact saved.elim
  | recorded | finished => exact ok

theorem CancelPhase.Ok.mono {phase : CancelPhase} {api later : ApiPhase} (ok : phase.Ok api)
    (saved : api.Saved → later.Saved) : phase.Ok later := by
  cases phase with
  | read | removing | removed | requesting => exact ⟨ok.1, saved ok.2⟩
  | _ => trivial

theorem ApiPhase.Ok.of_recorded {api : ApiPhase} (ok : api.Ok stored) (recorded : Recorded stored)
    {saved : JobMeta} : api.Ok (stored.map (Snapshot.withMeta saved)) :=
  ok.withMeta (ok.saved recorded)

theorem running_withMeta {saved : JobMeta}
    (noResult : ∀ job, stored = some job → job.result = none) :
    ∀ job, stored.map (Snapshot.withMeta saved) = some job → job.result = none := by
  intro job found
  obtain ⟨before, rfl, rfl⟩ := Option.map_eq_some_iff.mp found
  exact noResult before rfl

/-- RQ's save at a re-queue. -/
theorem HeldOk.jobs {failures : Nat} {jobMeta : JobMeta} (held : HeldOk stored failures jobMeta)
    (jobOk : ∀ job, stored = some job → job.Ok) (noResult : ∀ job, stored = some job → job.result = none) :
    ∀ job, stored.map (Snapshot.withMeta jobMeta) = some job → job.Ok := by
  intro job found
  obtain ⟨before, rfl, rfl⟩ := Option.map_eq_some_iff.mp found
  refine ⟨(jobOk before rfl).args, fun call record => (held.record call record).1, held.empty, fun result returned => ?_⟩
  cases (noResult before rfl).symm.trans returned

/-- A bare `meta` is written back only over a bare one while the API has yet to store its record. -/
theorem HeldOk.api {failures : Nat} {jobMeta : JobMeta} {api : ApiPhase} (held : HeldOk stored failures jobMeta)
    (ok : api.Ok stored) : api.Ok (stored.map (Snapshot.withMeta jobMeta)) := by
  cases record : jobMeta.llmCall with
  | some call => exact ok.of_recorded (held.record call record).2
  | none =>
      obtain rfl := held.empty record
      cases api with
      | start =>
          cases ok
          rfl
      | pushed payload =>
          obtain ⟨fresh, args, result, rfl⟩ := ok
          exact ⟨fresh, args, result, rfl⟩
      | recorded | finished => exact (Option.isSome_map ..).trans ok

/-- A save of the worker itself. -/
theorem WorkerOk.saves {saved : JobMeta} {reply : Unit}
    (ok : WorkerOk settings stored reruns ⟨left, point⟩)
    (move : AttemptMoves settings point (.saveMeta saved) reply after) :
    saved.Sound ∧ Recorded stored ∧
      WorkerOk settings (stored.map (Snapshot.withMeta saved)) reruns ⟨left, after⟩ := by
  have saves := move.save_ok ok.budget ok.point
  have past : point.pastCheck = true := by
    cases move <;> first | rfl | exact absurd ‹_› Bool.false_ne_true
  have recorded := ok.recorded past
  have noResult := ok.running (by rintro rfl; exact absurd past Bool.false_ne_true)
  have stored := recorded_withMeta recorded saves.consistent
  obtain ⟨call, stores, consistent⟩ := saves.consistent
  refine ⟨⟨call, stores, consistent⟩, recorded, ok.budget, saves.point, ?_, base_of_none saves.base, ?_,
    fun _ => stored, fun _ => running_withMeta noResult⟩
  · intro pending job call found record _
    obtain ⟨before, rfl, rfl⟩ := Option.map_eq_some_iff.mp found
    exact saves.pending pending call record
  · intro pending jobMeta same
    obtain rfl := saves.held jobMeta same
    refine ⟨fun other record => ?_, fun none => ?_, fun other record _ => saves.pending pending other record⟩
    · obtain rfl := Option.some.inj (stores.symm.trans record)
      exact ⟨consistent, stored⟩
    · cases stores.symm.trans none

/-- A save of a canceller is flagged, and so binds no later attempt. -/
theorem WorkerOk.flagged_save {phase : WorkerPhase} {saved : JobMeta} {call : LLMCallJob}
    (ok : WorkerOk settings stored reruns phase) (present : stored.isSome)
    (stores : saved.llmCall = some call) (flagged : call.cancelRequested = true) :
    WorkerOk settings (stored.map (Snapshot.withMeta saved)) reruns phase where
  budget := ok.budget
  point := ok.point
  pending := by
    intro _ job other found record unflagged
    obtain ⟨before, rfl, rfl⟩ := Option.map_eq_some_iff.mp found
    obtain rfl := Option.some.inj (stores.symm.trans record)
    rw [flagged] at unflagged
    exact absurd unflagged.symm Bool.false_ne_true
  base := by
    intro copy base
    obtain ⟨job, rfl⟩ := Option.isSome_iff_exists.mp present
    obtain ⟨settled, unflagged, _⟩ := ok.base copy base
    exact ⟨settled, unflagged, fun _ => ⟨_, call, rfl, stores, flagged⟩⟩
  held := by
    intro pending jobMeta held
    obtain ⟨job, rfl⟩ := Option.isSome_iff_exists.mp present
    obtain ⟨record, empty, counted⟩ := ok.held pending jobMeta held
    exact ⟨fun other found => ⟨(record other found).1, _, call, rfl, stores⟩, empty, counted⟩
  recorded _ := by
    obtain ⟨job, rfl⟩ := Option.isSome_iff_exists.mp present
    exact ⟨_, call, rfl, stores⟩
  running notEnded := running_withMeta (ok.running notEnded)

/-- The first record finds no attempt under way. -/
theorem WorkerOk.first_save {phase : WorkerPhase} {args : LLMCallJob} {result : Option LLMCallJob}
    {call : LLMCallJob} (ok : WorkerOk settings (some ⟨args, {}, result⟩) reruns phase)
    (fresh : call.Fresh) :
    WorkerOk settings (some ⟨args, { llmCall := some call }, result⟩) reruns phase where
  budget := ok.budget
  point := ok.point
  pending := by
    rintro - _ _ ⟨rfl⟩ ⟨rfl⟩ -
    refine ⟨fresh.isOpen, ?_⟩
    simp only [JobMeta.retries, Option.getD_none, fresh.retryCount]
    omega
  base := by
    intro copy base
    obtain ⟨settled, unflagged, flagged⟩ := ok.base copy base
    refine ⟨settled, unflagged, fun requested => ?_⟩
    obtain ⟨_, _, same, record, _⟩ := flagged requested
    cases same
    cases record
  held := by
    intro pending jobMeta held
    obtain ⟨record, empty, counted⟩ := ok.held pending jobMeta held
    refine ⟨fun other found => ?_, empty, counted⟩
    obtain ⟨_, _, _, same, record⟩ := record other found
    cases same
    cases record
  recorded past := by
    obtain ⟨_, _, same, record⟩ := ok.recorded past
    cases same
    cases record
  running notEnded := by
    rintro _ ⟨rfl⟩
    exact ok.running notEnded ⟨args, {}, result⟩ rfl

theorem WorkerOk.first_push {phase : WorkerPhase} {args : LLMCallJob}
    (ok : WorkerOk settings none reruns phase) :
    WorkerOk settings (some ⟨args, {}, none⟩) reruns phase where
  budget := ok.budget
  point := ok.point
  pending := by
    rintro - _ _ ⟨rfl⟩ record
    cases record
  base := by
    intro copy base
    obtain ⟨settled, unflagged, flagged⟩ := ok.base copy base
    refine ⟨settled, unflagged, fun requested => ?_⟩
    obtain ⟨_, _, same, _⟩ := flagged requested
    cases same
  held := by
    intro pending jobMeta held
    obtain ⟨record, empty, counted⟩ := ok.held pending jobMeta held
    refine ⟨fun other found => ?_, empty, counted⟩
    obtain ⟨_, _, _, same, _⟩ := record other found
    cases same
  recorded past := by
    obtain ⟨_, _, same, _⟩ := ok.recorded past
    cases same
  running _ := by
    rintro _ ⟨rfl⟩
    rfl

/-! ## The invariant -/

/-- A command writes or returns a consistent record only. -/
def Command.Sound : Command → Prop
  | .saveMeta saved => saved.Sound
  | .requeue saved => ∀ call, saved.llmCall = some call → call.Consistent
  | .finish result => result.Consistent
  | _ => True

theorem Command.sound_of_keepsRecord {command : Command} (keeps : command.keepsRecord = true) :
    command.Sound := by
  cases command <;> trivial

section Steps

variable {new : NewCall} {w w' : World} {p : Phases} {command : Command} {reply : command.Reply}

private theorem attempt_bookkeeping {point after : WorkerPoint} {left : Nat}
    (inv : Bookkeeping settings w { p with worker := ⟨left, point⟩ })
    (move : AttemptMoves settings point command reply after)
    (answered : exec .worker command w = some (reply, w')) :
    Bookkeeping settings w' { p with worker := ⟨left, after⟩ } ∧ command.Sound := by
  cases keeps : command.keepsRecord with
  | true =>
      obtain ⟨snapshot, reruns⟩ := snapshot_kept keeps answered
      refine ⟨⟨?_, ?_, ?_, ?_⟩, Command.sound_of_keepsRecord keeps⟩
      · rw [snapshot]; exact inv.stored
      · rw [snapshot]; exact inv.api
      · rw [snapshot, reruns]; exact inv.worker.keep inv.stored move keeps answered
      · exact inv.cancel
  | false =>
      cases command with
      | saveMeta saved =>
          obtain ⟨snapshot, reruns⟩ := snapshot_saveMeta answered
          obtain ⟨sound, recorded, worker⟩ := inv.worker.saves move
          refine ⟨⟨?_, ?_, ?_, ?_⟩, sound⟩
          · rw [snapshot]; exact stored_withMeta inv.stored sound
          · rw [snapshot]; exact inv.api.of_recorded recorded
          · rw [snapshot, reruns]; exact worker
          · exact inv.cancel
      | finish result =>
          obtain ⟨snapshot, reruns⟩ := snapshot_finish answered
          cases move with
          | neutral neutral => exact absurd neutral Bool.false_ne_true
          | @finish copy inTry elapsed =>
              have consistent : (copy.call.withElapsed elapsed).Consistent :=
                inv.worker.point.1.withElapsed
              obtain ⟨job, call, found, record⟩ := inv.worker.recorded rfl
              rw [found] at snapshot
              refine ⟨⟨?_, ?_, ?_, ?_⟩, consistent⟩
              · rw [snapshot]
                rintro _ ⟨rfl⟩
                have ok := inv.stored job found
                refine ⟨ok.args, ok.record, ok.empty, ?_⟩
                rintro _ ⟨rfl⟩
                exact ⟨consistent, by simp [record]⟩
              · rw [snapshot]
                have api := inv.api
                rw [found] at api
                cases phase : p.api <;> simp only [phase, ApiPhase.Ok] at api ⊢
                · cases api
                · obtain ⟨fresh, args, result, same⟩ := api
                  cases same
                  cases record
                all_goals rfl
              · rw [snapshot, reruns]
                refine ⟨inv.worker.budget, trivial, False.elim, base_of_none rfl, False.elim, ?_, ?_⟩
                · exact fun past => absurd past Bool.false_ne_true
                · exact fun notEnded => absurd rfl notEnded
              · exact inv.cancel
      | push => cases move with | neutral neutral => exact absurd neutral Bool.false_ne_true
      | requeue => cases move with | neutral neutral => exact absurd neutral Bool.false_ne_true
      | _ => exact absurd keeps.symm Bool.false_ne_true

theorem Bookkeeping.worker_step {after : WorkerPhase} (inv : Bookkeeping settings w p)
    (move : WorkerMoves settings p.worker command reply after)
    (answered : exec .worker command w = some (reply, w')) :
    Bookkeeping settings w' { p with worker := after } ∧ command.Sound := by
  obtain ⟨api, worker, cancel, wait⟩ := p
  cases move with
  | attempt move => exact attempt_bookkeeping inv move answered
  | @requeue left saved jobMeta =>
      obtain ⟨snapshot, reruns⟩ := snapshot_requeue answered
      have ok := inv.worker
      have pending : WorkerPhase.Pending ⟨left + 1, .raised saved jobMeta⟩ := by
        cases saved
        · trivial
        · exact Nat.succ_ne_zero left
      have held := ok.held pending jobMeta rfl
      have noResult := ok.running (by rintro ⟨⟩)
      refine ⟨⟨?_, ?_, ?_, inv.cancel⟩, fun call record => (held.record call record).1⟩
      · rw [snapshot]; exact held.jobs inv.stored noResult
      · rw [snapshot]; exact held.api inv.api
      · rw [snapshot, reruns]
        refine ⟨?_, trivial, ?_, base_of_none rfl, ?_, ?_, fun _ => running_withMeta noResult⟩
        · have budget := ok.budget
          simp only at budget ⊢
          omega
        · intro _ job call found record unflagged
          obtain ⟨before, _, rfl⟩ := Option.map_eq_some_iff.mp found
          obtain ⟨isOpen, granted⟩ := held.pending call record unflagged
          refine ⟨isOpen, Int.le_trans granted (Int.ofNat_le.mpr ?_)⟩
          cases saved <;> simp [WorkerPoint.uncounted]
        · rintro - _ ⟨⟩
        · exact fun past => absurd past Bool.false_ne_true
  | @giveUp saved =>
      obtain ⟨snapshot, reruns⟩ := snapshot_kept rfl answered
      refine ⟨⟨?_, ?_, ?_, ?_⟩, trivial⟩
      · rw [snapshot]; exact inv.stored
      · rw [snapshot]; exact inv.api
      · rw [snapshot, reruns]
        refine ⟨inv.worker.budget, trivial, False.elim, base_of_none rfl, False.elim, ?_, ?_⟩
        · exact fun past => absurd past Bool.false_ne_true
        · exact fun notEnded => absurd rfl notEnded
      · exact inv.cancel

theorem Bookkeeping.api_step {after : ApiPhase} (inv : Bookkeeping settings w p)
    (move : ApiMoves settings new p.api command reply after)
    (answered : exec .api command w = some (reply, w')) :
    Bookkeeping settings w' { p with api := after } ∧ command.Sound := by
  obtain ⟨api, worker, cancel, wait⟩ := p
  cases move with
  | neutral neutral =>
      have same := exec_passive (Command.isPassive_of_isNeutral neutral) answered
      refine ⟨⟨?_, ?_, ?_, ?_⟩, ?_⟩
      · rw [same.snapshot]; exact inv.stored
      · rw [same.snapshot]; exact inv.api
      · rw [same.snapshot, same.reruns]; exact inv.worker
      · exact inv.cancel
      · cases command <;> trivial
  | @push elapsed =>
      obtain rfl := exec_push answered
      have none : w.snapshot = none := inv.api
      have fresh : (enqueued settings new elapsed).Fresh := ⟨rfl, ⟨rfl, rfl⟩, rfl, rfl⟩
      refine ⟨⟨?_, ⟨fresh, _, _, rfl⟩, ?_, ?_⟩, trivial⟩
      · rintro _ ⟨rfl⟩
        refine ⟨fresh, ?_, fun _ => rfl, ?_⟩
        · intro _ stored
          cases stored
        · intro _ returned
          cases returned
      · have ok := inv.worker
        rw [none] at ok
        exact ok.first_push
      · exact fun call => (inv.cancel call).mono False.elim
  | @save payload elapsed =>
      obtain ⟨snapshot, reruns⟩ := snapshot_saveMeta answered
      obtain ⟨fresh, args, result, found⟩ := inv.api
      have sound : JobMeta.Sound { llmCall := some (payload.withElapsed elapsed) } :=
        ⟨_, rfl, fresh.consistent.withElapsed⟩
      refine ⟨⟨?_, ?_, ?_, ?_⟩, sound⟩
      · rw [snapshot]; exact stored_withMeta inv.stored sound
      · rw [snapshot, found]
        simp only
        split <;> rfl
      · rw [snapshot, reruns, found]
        have ok := inv.worker
        rw [found] at ok
        exact ok.first_save fresh.withElapsed
      · exact fun call => (inv.cancel call).mono False.elim
  | announce =>
      obtain ⟨snapshot, reruns⟩ := snapshot_kept rfl answered
      refine ⟨⟨?_, ?_, ?_, ?_⟩, trivial⟩
      · rw [snapshot]; exact inv.stored
      · rw [snapshot]; exact inv.api
      · rw [snapshot, reruns]; exact inv.worker
      · exact fun call => (inv.cancel call).mono fun _ => trivial

private theorem CancelPhase.Ok.keep {phase after : CancelPhase} {api : ApiPhase} {call : Nat}
    (ok : phase.Ok api) (stored : ∀ job, w.snapshot = some job → job.Ok) (written : api.Ok w.snapshot)
    (move : CancelMoves new.jobId phase command reply after) (keeps : command.keepsRecord = true)
    (answered : exec (.cancel call) command w = some (reply, w')) : after.Ok api := by
  cases move with
  | neutral => exact ok
  | read readable =>
      rw [exec_fetchJob answered] at readable
      obtain ⟨job, found, payload⟩ := Option.bind_eq_some_iff.mp readable
      have payload := (Option.filter_eq_some_iff.mp payload).1
      have jobOk := stored job found
      cases result : job.result with
      | some returned =>
          rw [Snapshot.payload, result] at payload
          obtain rfl := Option.some.inj payload
          obtain ⟨consistent, isSome⟩ := jobOk.result _ result
          obtain ⟨record, recorded⟩ := Option.isSome_iff_exists.mp isSome
          exact ⟨consistent, written.saved ⟨job, record, found, recorded⟩⟩
      | none =>
          rw [Snapshot.payload, result] at payload
          exact ⟨jobOk.record _ payload, written.saved ⟨job, _, found, payload⟩⟩
  | pending | running | remove => exact ok
  | saveCancelled | saveRequest => exact absurd keeps Bool.false_ne_true
  | _ => trivial

private theorem CancelMoves.saves {jobId : String} {phase after : CancelPhase} {api : ApiPhase}
    {saved : JobMeta} {reply : Unit} (move : CancelMoves jobId phase (.saveMeta saved) reply after)
    (ok : phase.Ok api) :
    api.Saved ∧ (∃ call, saved.llmCall = some call ∧ call.Consistent ∧
      call.cancelRequested = true) ∧ ∀ other, after.Ok other := by
  cases move with
  | neutral neutral => exact absurd neutral Bool.false_ne_true
  | saveCancelled same =>
      exact ⟨ok.2, ⟨_, rfl, LLMCallJob.consistent_toCancelled.withElapsed, rfl⟩, fun _ => trivial⟩
  | saveRequest same =>
      exact ⟨ok.2, ⟨_, rfl, (ok.1.sameButRead same).flagged.withElapsed, rfl⟩, fun _ => trivial⟩

private theorem cancel_update {cancel : Nat → CancelPhase} {call : Nat} {after : CancelPhase}
    {api : ApiPhase} (ok : ∀ other, (cancel other).Ok api) (fine : after.Ok api) :
    ∀ other, (Function.update cancel call after other).Ok api := by
  intro other
  by_cases same : other = call
  · subst same; simpa only [Function.update_self] using fine
  · simpa only [Function.update_of_ne same] using ok other

theorem Bookkeeping.cancel_step {call : Nat} {after : CancelPhase} (inv : Bookkeeping settings w p)
    (move : CancelMoves new.jobId (p.cancel call) command reply after)
    (answered : exec (.cancel call) command w = some (reply, w')) :
    Bookkeeping settings w' { p with cancel := Function.update p.cancel call after } ∧
      command.Sound := by
  cases keeps : command.keepsRecord with
  | true =>
      obtain ⟨snapshot, reruns⟩ := snapshot_kept keeps answered
      refine ⟨⟨?_, ?_, ?_, ?_⟩, Command.sound_of_keepsRecord keeps⟩
      · rw [snapshot]; exact inv.stored
      · rw [snapshot]; exact inv.api
      · rw [snapshot, reruns]; exact inv.worker
      · exact cancel_update inv.cancel ((inv.cancel call).keep inv.stored inv.api move keeps answered)
  | false =>
      cases command with
      | saveMeta saved =>
          obtain ⟨snapshot, reruns⟩ := snapshot_saveMeta answered
          obtain ⟨written, ⟨record, stores, consistent, flagged⟩, fine⟩ := move.saves (inv.cancel call)
          have sound : saved.Sound := ⟨record, stores, consistent⟩
          refine ⟨⟨?_, ?_, ?_, ?_⟩, sound⟩
          · rw [snapshot]; exact stored_withMeta inv.stored sound
          · rw [snapshot]; exact inv.api.withMeta written
          · rw [snapshot, reruns]; exact inv.worker.flagged_save (inv.api.present written) stores flagged
          · exact cancel_update inv.cancel (fine _)
      | push | finish | requeue =>
          generalize p.cancel call = phase at move
          cases move with
          | neutral neutral => exact absurd neutral Bool.false_ne_true
      | _ => exact absurd keeps.symm Bool.false_ne_true

/-- A step that leaves the record and the phases leaves the invariant. -/
theorem Bookkeeping.idle_step {party : Party} (inv : Bookkeeping settings w p)
    (wait : Nat → WaitPhase) (keeps : command.keepsRecord = true)
    (answered : exec party command w = some (reply, w')) :
    Bookkeeping settings w' { p with wait := wait } ∧ command.Sound := by
  obtain ⟨snapshot, reruns⟩ := snapshot_kept keeps answered
  refine ⟨⟨?_, ?_, ?_, ?_⟩, Command.sound_of_keepsRecord keeps⟩
  · rw [snapshot]; exact inv.stored
  · rw [snapshot]; exact inv.api
  · rw [snapshot, reruns]; exact inv.worker
  · exact inv.cancel

end Steps

theorem WaitMoves.keepsRecord {phase after : WaitPhase} {command : Command} {reply : command.Reply}
    (move : WaitMoves phase command reply after) : command.keepsRecord = true := by
  cases move with
  | neutral neutral => cases command <;> first | rfl | exact absurd neutral Bool.false_ne_true
  | _ => rfl

/-- Every record written so far, and every result returned, is consistent. -/
def Logged (trace : Trace) : Prop := ∀ label ∈ trace, label.command.Sound

/-- The bookkeeping holds, and has held at every save. -/
def Booked (settings : Settings) : Property := fun trace w p => Bookkeeping settings w p ∧ Logged trace

theorem booked_preserved {new : NewCall} {guard : Guard signature Party World}
    {Given : Property} : Preserved settings new guard Given (Booked settings) := by
  have logs : ∀ {trace : Trace} {label : Label signature Party}, Logged trace →
      label.command.Sound → Logged (trace ++ [label]) := by
    intro trace label logged sound other member
    rcases List.mem_append.mp member with earlier | last
    · exact logged other earlier
    · obtain rfl := List.mem_singleton.mp last
      exact sound
  constructor
  · rintro trace w p command reply w' after - ⟨inv, logged⟩ - move answered
    obtain ⟨next, sound⟩ := inv.api_step move answered
    exact ⟨next, logs logged sound⟩
  · rintro trace w p command reply w' after - ⟨inv, logged⟩ - move answered
    obtain ⟨next, sound⟩ := inv.worker_step move answered
    exact ⟨next, logs logged sound⟩
  · rintro trace w p call command reply w' after - ⟨inv, logged⟩ - move answered
    obtain ⟨next, sound⟩ := inv.cancel_step move answered
    exact ⟨next, logs logged sound⟩
  · rintro trace w p call command reply w' after - ⟨inv, logged⟩ - move answered
    obtain ⟨next, sound⟩ := inv.idle_step (Function.update p.wait call after)
      move.keepsRecord answered
    exact ⟨next, logs logged sound⟩
  · rintro trace w p w' - ⟨inv, logged⟩ - answered
    obtain ⟨next, sound⟩ := inv.idle_step p.wait rfl answered
    exact ⟨next, logs logged sound⟩

/-- A property kept with the bookkeeping at hand holds wherever a guarded run leads. -/
theorem Preserved.reach_booked {new : NewCall} {guard : Guard signature Party World} {Inv : Property}
    (kept : Preserved settings new guard (Booked settings) Inv) {c d : System}
    (reach : machine.Reach guard c d) {phase : ∀ party, Phase party}
    (tracked : Tracked settings new c phase)
    (booked : Booked settings c.trace c.world (Phases.of phase))
    (start : Inv c.trace c.world (Phases.of phase)) :
    ∃ phase', Tracked settings new d phase' ∧ Booked settings d.trace d.world (Phases.of phase') ∧
      Inv d.trace d.world (Phases.of phase') := by
  exact (booked_preserved.and (kept.weaken And.right)).reach reach tracked ⟨booked, start⟩

/-- Before anything has happened there is nothing to keep consistent. -/
theorem boot_bookkeeping {env : Environment} :
    Bookkeeping settings { env := env } (Phases.of (startPhase settings)) where
  stored := by
    rintro _ ⟨⟩
  api := rfl
  worker := by
    refine ⟨Nat.add_zero _, trivial, ?_, base_of_none rfl, ?_, ?_, ?_⟩
    · rintro - _ _ ⟨⟩
    · rintro - _ ⟨⟩
    · exact fun past => absurd past Bool.false_ne_true
    · rintro - _ ⟨⟩
  cancel _ := trivial

end Queue

end LanguageAgent
