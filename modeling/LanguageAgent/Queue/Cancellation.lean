import LanguageAgent.Queue.Attempts
import LanguageAgent.Queue.Enqueueing

/-! # When an accepted cancellation stands

Canceller, worker and RQ write whole records over each other. A cancellation is lost
when a save of the worker, or of RQ as it queues the job again, replaces a record that
carries the request by one that does not, or when it comes between an attempt's last
check and its save.
-/

namespace LanguageAgent.Queue

open Interleaving

/-! ## Saves in the history -/

def Party.isCancel : Party → Bool
  | .cancel _ => true
  | _ => false

/-- A canceller stores a record; it always carries the request. -/
def savesRequest (label : Label signature Party) : Bool :=
  label.party.isCancel && label.command.writes.isSome

def savesCancelled (label : Label signature Party) : Bool :=
  (label.command.writes.map LLMCallJob.status) == some .cancelled

/-- The record carries a request to cancel. -/
def carriesRequest (record : Option LLMCallJob) : Bool :=
  (record.map LLMCallJob.cancelRequested).getD false

def World.cancelRequested (w : World) : Bool := carriesRequest w.record

/-- An attempt's last look at the record. -/
def looksLast (label : Label signature Party) : Bool :=
  match label.party, label.command with
  | .worker, .fetchJob .finalCheck => true
  | _, _ => false

/-- A canceller has saved a cancellation since the last such look. -/
def cancelledSinceLook (trace : Trace) : Bool :=
  trace.foldl (fun since label =>
    !looksLast label && (since || label.party.isCancel && savesCancelled label)) false

/-- No save of the worker or of RQ drops a request from the stored record, but for the
    save of a completed job: there no canceller has saved a cancellation since the check. -/
def keepsCancellations (trace : Trace) (w : World) (label : Label signature Party) : Bool :=
  match label.party, label.command with
  | .worker, .saveMeta saved =>
      if saved.llmCall.map LLMCallJob.status = some .completed then !cancelledSinceLook trace
      else !w.cancelRequested || carriesRequest saved.llmCall
  | .worker, .requeue saved => !w.cancelRequested || carriesRequest saved.llmCall
  | _, _ => true

def cancellationsKept : Guard signature Party World := fun trace w label =>
  keepsCancellations trace w label = true

instance (trace : Trace) (w : World) (label : Label signature Party) :
    Decidable (cancellationsKept trace w label) := inferInstanceAs (Decidable (_ = true))

/-- The call came back cancelled, or came back with the request after saving it ahead of
    some attempt's last check. -/
def Accepted (call : Nat) (result : LLMCallJob) (trace : Trace) : Prop :=
  result.status = .cancelled ∨ result.cancelRequested = true ∧ ∃ before saved after,
    trace = before ++ ⟨.cancel call, .saveMeta saved⟩ :: after ∧
      ⟨.worker, .fetchJob .finalCheck⟩ ∈ after

/-- No attempt that starts in this part of the history calls the model. -/
def NoNewModelCall (later : Trace) : Prop :=
  ∀ before after, later = before ++ ⟨.worker, .pop⟩ :: after →
    ∀ label ∈ after, label.command.callsModel = false

/-! ## The invariant -/

/-- Every later attempt will find a request, or there will be none. -/
def Stopped (w : World) (p : Phases) : Prop :=
  w.cancelRequested = true ∨ p.worker.point.finishing = true

/-- Some last check came after a canceller had saved. -/
def RequestChecked (trace : Trace) : Prop :=
  ∃ before after, trace = before ++ ⟨.worker, .fetchJob .finalCheck⟩ :: after ∧
    before.any savesRequest = true

/-- What a canceller has read or written is in the history. -/
def CancelPhase.Standing (trace : Trace) : CancelPhase → Prop
  | .read _ call => call.status = .cancelled → trace.any savesCancelled = true
  | .removing _ call | .requesting _ call => call.status.isTerminal = false
  | .saved | .marked => trace.any savesCancelled = true
  | .requested status => status.isTerminal = false
  | .returned status _ => status = .cancelled → trace.any savesCancelled = true
  | _ => True

/-- RQ's job object holds no completed record, nor one that nobody has cancelled. -/
def Holdable (trace : Trace) (call : LLMCallJob) : Prop :=
  call.status ≠ .completed ∧
    (call.validates = true → call.status = .cancelled → trace.any savesCancelled = true)

structure Standing (env : Environment) (trace : Trace) (w : World) (p : Phases) : Prop where
  env : w.env = env
  api : p.api = .finished
  writers : ∀ label ∈ trace, savesCancelled label = true →
    label.party = .worker ∨ label.party.isCancel = true
  completed : w.storedStatus = some .completed → p.worker.point.finishing = true
  stopped : trace.any savesRequest = true ∨ trace.any savesCancelled = true → Stopped w p
  cancelled : trace.any savesCancelled = true → w.storedStatus ≠ some .completed
  byWorker : (∃ label ∈ trace, label.party = .worker ∧ savesCancelled label = true) →
    p.worker.point.finishing = true
  origin : ∀ payload, readPayload w.snapshot = some payload → payload.status = .cancelled →
    trace.any savesCancelled = true
  outcome : ∀ call, p.worker.point.outcome = some call → call.status = .cancelled →
    trace.any savesCancelled = true
  cancel : ∀ call, (p.cancel call).Standing trace
  held : p.worker.Pending → ∀ jobMeta call, p.worker.point.held = some jobMeta →
    jobMeta.llmCall = some call → Holdable trace call
  deciding : ∀ copy, p.worker.point = .deciding copy →
    ∀ label ∈ trace, label.party.isCancel = true → savesCancelled label = true →
      cancelledSinceLook trace = true
  checked : RequestChecked trace →
    p.worker.point.doomed = true ∧ w.storedStatus ≠ some .completed

section History

variable {trace : Trace} {label : Label signature Party}

private theorem any_append {f : Label signature Party → Bool} :
    (trace ++ [label]).any f = (trace.any f || f label) := by
  simp only [List.any_append, List.any_cons, List.any_nil, Bool.or_false]

private theorem any_grows {f : Label signature Party → Bool} (before : trace.any f = true) :
    (trace ++ [label]).any f = true := by
  rw [any_append, before, Bool.true_or]

private theorem any_same {f : Label signature Party → Bool} (not : f label = false) :
    (trace ++ [label]).any f = trace.any f := by
  rw [any_append, not, Bool.or_false]

private theorem requestChecked_append (checked : RequestChecked (trace ++ [label])) :
    RequestChecked trace ∨
      label = ⟨.worker, .fetchJob .finalCheck⟩ ∧ trace.any savesRequest = true := by
  obtain ⟨before, after, split, requested⟩ := checked
  rcases List.eq_nil_or_concat after with rfl | ⟨shorter, last, rfl⟩
  · obtain ⟨rfl, same⟩ := List.append_inj' split rfl
    exact .inr ⟨List.singleton_injective same, requested⟩
  · left
    rw [List.concat_eq_append, ← List.cons_append, ← List.append_assoc] at split
    obtain ⟨rfl, _⟩ := List.append_inj' split rfl
    exact ⟨before, shorter, rfl, requested⟩

private theorem any_of_checked (checked : RequestChecked trace) : trace.any savesRequest = true := by
  obtain ⟨before, after, rfl, requested⟩ := checked
  rw [List.any_append, requested, Bool.true_or]

theorem CancelPhase.Standing.grows {phase : CancelPhase} (standing : phase.Standing trace) :
    phase.Standing (trace ++ [label]) := by
  cases phase with
  | read | returned => exact fun cancelled => any_grows (standing cancelled)
  | saved | marked => exact any_grows standing
  | _ => exact standing

theorem Holdable.grows {call : LLMCallJob} (holdable : Holdable trace call) :
    Holdable (trace ++ [label]) call :=
  ⟨holdable.1, fun valid cancelled => any_grows (holdable.2 valid cancelled)⟩

theorem cancelledSinceLook_append : cancelledSinceLook (trace ++ [label]) =
    (!looksLast label && (cancelledSinceLook trace || label.party.isCancel && savesCancelled label)) := by
  simp [cancelledSinceLook]

theorem savesRequest_of_cancelled (canceller : label.party.isCancel = true) (saves : savesCancelled label = true) :
    savesRequest label = true := by
  simp only [savesRequest, canceller, Bool.true_and]
  cases writes : label.command.writes with
  | none => simp [savesCancelled, writes] at saves
  | some call => rfl

/-- No look at the record comes last, so a cancellation since the look before is one since the last. -/
private theorem since_grows (notLook : looksLast label = false)
    (since : ∀ other ∈ trace, other.party.isCancel = true → savesCancelled other = true →
      cancelledSinceLook trace = true) :
    ∀ other ∈ trace ++ [label], other.party.isCancel = true → savesCancelled other = true →
      cancelledSinceLook (trace ++ [label]) = true := by
  intro other member canceller saves
  rw [cancelledSinceLook_append, notLook, Bool.not_false, Bool.true_and, Bool.or_eq_true]
  rcases List.mem_append.mp member with earlier | last
  · exact .inl (since other earlier canceller saves)
  · obtain rfl := List.mem_singleton.mp last
    right
    rw [canceller, saves]
    rfl

end History

section Steps

variable {settings : Settings} {new : NewCall} {env : Environment} {trace : Trace} {w w' : World}
  {p p' : Phases} {party : Party} {command : Command} {reply : command.Reply}

private theorem storedStatus_congr (record : w'.record = w.record) : w'.storedStatus = w.storedStatus := by
  simp only [World.storedStatus, record]

/-- A command that stores no record, as far as the invariant can tell. -/
private theorem Standing.unsaved (inv : Standing env trace w p) (noSave : command.writes = none)
    (sameEnv : w'.env = w.env) (record : w'.record = w.record)
    (origin : ∀ payload, readPayload w'.snapshot = some payload → payload.status = .cancelled →
      trace.any savesCancelled = true)
    (api : p'.api = .finished)
    (finishing : p.worker.point.finishing = true → p'.worker.point.finishing = true)
    (outcome : ∀ call, p'.worker.point.outcome = some call → call.status = .cancelled →
      trace.any savesCancelled = true)
    (cancel : ∀ call, (p'.cancel call).Standing trace)
    (held : p'.worker.Pending → ∀ jobMeta call, p'.worker.point.held = some jobMeta →
      jobMeta.llmCall = some call → Holdable trace call)
    (deciding : ∀ copy, p'.worker.point = .deciding copy →
      looksLast ⟨party, command⟩ = false ∧ p.worker.point = .deciding copy ∨ trace.any savesRequest = false)
    (checked : RequestChecked (trace ++ [⟨party, command⟩]) → p'.worker.point.doomed = true ∧
      w.storedStatus ≠ some .completed) :
    Standing env (trace ++ [⟨party, command⟩]) w' p' := by
  have notCancelled : savesCancelled (⟨party, command⟩ : Label signature Party) = false := by
    simp [savesCancelled, noSave]
  have notRequest : savesRequest (⟨party, command⟩ : Label signature Party) = false := by
    simp [savesRequest, noSave]
  refine ⟨sameEnv.trans inv.env, api, ?_, ?_, ?_, ?_, ?_, ?_, ?_, fun call => (cancel call).grows,
    fun pending jobMeta call same stores => (held pending jobMeta call same stores).grows, ?_, ?_⟩
  · intro label member saves
    rcases List.mem_append.mp member with earlier | last
    · exact inv.writers label earlier saves
    · obtain rfl := List.mem_singleton.mp last
      exact absurd (notCancelled.symm.trans saves) Bool.false_ne_true
  · rw [storedStatus_congr record]
    exact fun completed => finishing (inv.completed completed)
  · rw [any_same notCancelled, any_same notRequest]
    intro saved
    rcases inv.stopped saved with flagged | finished
    · left
      simpa only [World.cancelRequested, record] using flagged
    · exact .inr (finishing finished)
  · rw [any_same notCancelled, storedStatus_congr record]
    exact inv.cancelled
  · rintro ⟨label, member, byWorker, saves⟩
    rcases List.mem_append.mp member with earlier | last
    · exact finishing (inv.byWorker ⟨label, earlier, byWorker, saves⟩)
    · obtain rfl := List.mem_singleton.mp last
      exact absurd (notCancelled.symm.trans saves) Bool.false_ne_true
  · rw [any_same notCancelled]
    exact origin
  · rw [any_same notCancelled]
    exact outcome
  · intro copy now
    rcases deciding copy now with ⟨notLook, before⟩ | none
    · exact since_grows notLook (inv.deciding copy before)
    · intro other member canceller saves
      rcases List.mem_append.mp member with earlier | last
      · have requests := savesRequest_of_cancelled canceller saves
        exact absurd requests (List.any_eq_false.mp none other earlier)
      · obtain rfl := List.mem_singleton.mp last
        exact absurd (notCancelled.symm.trans saves) Bool.false_ne_true
  · rw [storedStatus_congr record]
    exact checked

/-- A command of another party that neither saves nor moves the worker or a canceller. -/
private theorem Standing.elsewhere (inv : Standing env trace w p) (notWorker : party ≠ .worker)
    (keeps : command.keepsRecord = true) (answered : exec party command w = some (reply, w'))
    (api : p'.api = .finished) (worker : p'.worker = p.worker)
    (cancel : ∀ call, (p'.cancel call).Standing trace) :
    Standing env (trace ++ [⟨party, command⟩]) w' p' := by
  have snapshot := (snapshot_kept keeps answered).1
  have notLook : looksLast (⟨party, command⟩ : Label signature Party) = false := by
    cases party <;> first | rfl | exact absurd rfl notWorker
  refine inv.unsaved ?_ (exec_env answered) ?_ ?_ api ?_ ?_ cancel ?_ ?_ ?_
  · cases command <;> first | rfl | exact absurd keeps Bool.false_ne_true
  · rw [World.record_eq, World.record_eq, snapshot]
  · rw [snapshot]
    exact inv.origin
  · rw [worker]
    exact id
  · rw [worker]
    exact inv.outcome
  · rw [worker]
    exact inv.held
  · rw [worker]
    exact fun copy same => .inl ⟨notLook, same⟩
  · intro checked
    rw [worker]
    rcases requestChecked_append checked with before | ⟨last, _⟩
    · exact inv.checked before
    · cases last
      exact absurd rfl notWorker

/-- The worker reads the stored record, with its request. -/
private theorem read_request {payload : LLMCallJob} (flagged : w.cancelRequested = true)
    (noResult : ∀ job, w.snapshot = some job → job.result = none)
    (readable : readPayload w.snapshot = some payload) : payload.cancelRequested = true := by
  obtain ⟨job, found, record⟩ := readPayload_stored readable noResult
  simpa [World.cancelRequested, carriesRequest, World.record_eq, found, record] using flagged

/-- A request in the store is seen by the first check. -/
private theorem not_starting {left : Nat} {point after : WorkerPoint} {copy : Copy}
    (flagged : w.cancelRequested = true)
    (worker : WorkerOk settings w.snapshot w.reruns ⟨left, point⟩)
    (move : AttemptMoves settings point command reply after)
    (answered : exec .worker command w = some (reply, w')) (outside : point.doomed = true) :
    after ≠ .starting copy := by
  intro same
  cases move with
  | neutral | uninterrupted =>
      rw [same] at outside
      exact absurd outside Bool.false_ne_true
  | startClear readable clear =>
      rw [exec_fetchJob answered] at readable
      have requested := read_request flagged (worker.running (by rintro ⟨⟩)) readable
      exact absurd (clear.symm.trans requested) Bool.false_ne_true
  | saveRefused | saveRetry | saveFailed =>
      unfold WorkerPoint.whenStreaming at same
      split at same <;> cases same
  | _ => first | exact absurd outside Bool.false_ne_true | cases same

/-- A request ahead of the last check keeps the attempt from completing. -/
private theorem request_checked {left : Nat} {point after : WorkerPoint} {reply : Option Snapshot}
    (flagged : w.cancelRequested = true)
    (worker : WorkerOk settings w.snapshot w.reruns ⟨left, point⟩)
    (move : AttemptMoves settings point (.fetchJob .finalCheck) reply after)
    (answered : exec .worker (.fetchJob .finalCheck) w = some (reply, w')) : after.doomed = true := by
  cases move with
  | neutral neutral => exact absurd neutral Bool.false_ne_true
  | finalUnreadable | finalCancelled => rfl
  | finalClear readable clear =>
      rw [exec_fetchJob answered] at readable
      have requested := read_request flagged (worker.running (by rintro ⟨⟩)) readable
      exact absurd (clear.symm.trans requested) Bool.false_ne_true

private theorem lastCheck_unfinished {point after : WorkerPoint} {reply : Option Snapshot}
    (move : AttemptMoves settings point (.fetchJob .finalCheck) reply after) :
    point.finishing = false := by
  cases move with
  | neutral neutral => exact absurd neutral Bool.false_ne_true
  | _ => rfl

/-- What RQ's job object holds came from the store, or was kept. -/
private theorem Standing.held_unsaved {left : Nat} {point after : WorkerPoint} {api : ApiPhase}
    {cancel : Nat → CancelPhase} {wait : Nat → WaitPhase}
    (inv : Standing env trace w ⟨api, ⟨left, point⟩, cancel, wait⟩)
    (worker : WorkerOk settings w.snapshot w.reruns ⟨left, point⟩)
    (move : AttemptMoves settings point command reply after) (noSave : command.writes = none)
    (answered : exec .worker command w = some (reply, w')) (pending : WorkerPhase.Pending ⟨left, after⟩) :
    ∀ jobMeta call, after.held = some jobMeta → jobMeta.llmCall = some call → Holdable trace call := by
  intro jobMeta call held stores
  cases move with
  | neutral | uninterrupted => exact inv.held pending jobMeta call held stores
  | start | startInvalid | startUnreadable => exact inv.held trivial jobMeta call held stores
  | announceRetry => exact inv.held pending jobMeta call held stores
  | announceFailed => exact absurd worker.point pending
  | missing =>
      cases held
      cases stores
  | fetch =>
      have found := exec_fetchJob answered
      cases held
      refine ⟨fun completed => ?_, fun valid cancelled => inv.origin call ?_ cancelled⟩
      · have finishing := inv.completed (by
          rw [World.storedStatus, World.record_eq, ← found, Option.bind_some, stores, ← completed]
          rfl)
        exact absurd finishing Bool.false_ne_true
      · have noResult := worker.running (by rintro ⟨⟩) _ found.symm
        rw [← found, readPayload, Option.bind_some, Snapshot.payload, noResult]
        exact Option.filter_eq_some_iff.mpr ⟨stores, valid⟩
  | saveProcessing | saveStreaming | saveCompleted | saveCancelled | saveRefused | saveRetry
  | saveFailed => cases noSave
  | _ => cases held

/-- An attempt gets past its last check only if nobody has asked to cancel. -/
private theorem Standing.deciding_unsaved {left : Nat} {point after : WorkerPoint} {api : ApiPhase}
    {cancel : Nat → CancelPhase} {wait : Nat → WaitPhase}
    (inv : Standing env trace w ⟨api, ⟨left, point⟩, cancel, wait⟩)
    (worker : WorkerOk settings w.snapshot w.reruns ⟨left, point⟩)
    (move : AttemptMoves settings point command reply after) (noSave : command.writes = none)
    (answered : exec .worker command w = some (reply, w')) (copy : Copy) (now : after = .deciding copy) :
    looksLast ⟨.worker, command⟩ = false ∧ point = .deciding copy ∨ trace.any savesRequest = false := by
  cases move with
  | neutral neutral =>
      refine .inl ⟨?_, now⟩
      cases command <;> first | rfl | exact absurd neutral Bool.false_ne_true
  | uninterrupted => exact .inl ⟨rfl, now⟩
  | finalClear readable clear =>
      right
      by_contra requested
      rcases inv.stopped (.inl (Bool.eq_true_of_not_eq_false requested)) with flagged | finished
      · have doomed := request_checked flagged worker (.finalClear readable clear) answered
        exact absurd doomed Bool.false_ne_true
      · exact absurd finished Bool.false_ne_true
  | saveProcessing | saveStreaming | saveCompleted | saveCancelled | saveRefused | saveRetry
  | saveFailed => cases noSave
  | _ => cases now

private theorem Standing.worker_unsaved {left : Nat} {point after : WorkerPoint} {api : ApiPhase}
    {cancel : Nat → CancelPhase} {wait : Nat → WaitPhase}
    (inv : Standing env trace w ⟨api, ⟨left, point⟩, cancel, wait⟩) (calm : env.Calm)
    (worker : WorkerOk settings w.snapshot w.reruns ⟨left, point⟩)
    (move : AttemptMoves settings point command reply after) (noSave : command.writes = none)
    (noSaveMeta : ∀ saved, command ≠ .saveMeta saved)
    (answered : exec .worker command w = some (reply, w')) :
    Standing env (trace ++ [⟨.worker, command⟩]) w' ⟨api, ⟨left, after⟩, cancel, wait⟩ := by
  have calm : w.env.Calm := by rw [inv.env]; exact calm
  have noPush : ∀ payload, command ≠ .push payload := by
    rintro payload rfl
    cases move with | neutral neutral => exact absurd neutral Bool.false_ne_true
  have noRequeue : ∀ saved, command ≠ .requeue saved := by
    rintro saved rfl
    cases move with | neutral neutral => exact absurd neutral Bool.false_ne_true
  have record := record_kept noPush noSaveMeta noRequeue answered
  have finishing : point.finishing = true → after.finishing = true := fun finishing =>
    (move.finishing calm answered finishing).1
  refine inv.unsaved noSave (exec_env answered) record ?_ inv.api finishing ?_ inv.cancel
    (inv.held_unsaved worker move noSave answered)
    (inv.deciding_unsaved worker move noSave answered) ?_
  · intro payload readable cancelled
    cases keeps : command.keepsRecord with
    | true =>
        rw [(snapshot_kept keeps answered).1] at readable
        exact inv.origin payload readable cancelled
    | false =>
        cases move with
        | finish =>
            obtain ⟨job, call, found, recorded⟩ := worker.recorded rfl
            rw [(snapshot_finish answered).1, found] at readable
            obtain ⟨_, same, found⟩ := Option.bind_eq_some_iff.mp readable
            cases same
            have same := (Option.filter_eq_some_iff.mp found).1
            cases same
            exact inv.outcome _ rfl cancelled
        | neutral neutral =>
            cases command <;> first
              | exact absurd neutral Bool.false_ne_true
              | exact absurd keeps.symm Bool.false_ne_true
        | _ => first | exact absurd keeps.symm Bool.false_ne_true | exact absurd rfl (noSaveMeta _)
  · intro call outcome cancelled
    exact inv.outcome call (move.outcome noSave outcome) cancelled
  · intro checked
    rcases requestChecked_append checked with before | ⟨last, requested⟩
    · obtain ⟨doomed, notCompleted⟩ := inv.checked before
      refine ⟨?_, notCompleted⟩
      refine (move.doomed (fun copy => ?_) doomed).1
      rcases inv.stopped (.inl (any_of_checked before)) with flagged | finished
      · exact not_starting flagged worker move answered doomed
      · rintro rfl
        exact absurd (finishing finished) Bool.false_ne_true
    · cases last
      have unfinished := lastCheck_unfinished move
      rcases inv.stopped (.inl requested) with flagged | finished
      · refine ⟨request_checked flagged worker move answered, fun completed => ?_⟩
        exact absurd (unfinished.symm.trans (inv.completed completed)) Bool.false_ne_true
      · exact absurd (unfinished.symm.trans finished) Bool.false_ne_true

private theorem Holdable.of_failure {call : LLMCallJob} (failure : call.status = .queued ∨ call.status = .failed) :
    Holdable trace call := by
  refine ⟨fun completed => ?_, fun _ cancelled => ?_⟩
  · rcases failure with same | same <;> cases same.symm.trans completed
  · rcases failure with same | same <;> cases same.symm.trans cancelled

/-- Only what a failure handler has saved is held by RQ's job object after a save. -/
private theorem held_save {point after : WorkerPoint} {saved jobMeta : JobMeta} {reply : Unit}
    {call : LLMCallJob} (move : AttemptMoves settings point (.saveMeta saved) reply after)
    (held : after.held = some jobMeta) (stores : jobMeta.llmCall = some call) :
    call.status = .queued ∨ call.status = .failed := by
  cases move with
  | neutral neutral => exact absurd neutral Bool.false_ne_true
  | saveRetry =>
      left
      unfold WorkerPoint.whenStreaming at held
      split at held
      · cases held; cases stores; rfl
      · cases held; cases stores; rfl
  | saveFailed =>
      right
      unfold WorkerPoint.whenStreaming at held
      split at held
      · cases held
      · cases held; cases stores; rfl
  | saveProcessing | saveCompleted | saveRefused =>
      unfold WorkerPoint.whenStreaming at held
      split at held <;> cases held
  | _ => cases held

private theorem notDeciding_save {point after : WorkerPoint} {saved : JobMeta} {reply : Unit}
    (move : AttemptMoves settings point (.saveMeta saved) reply after) (copy : Copy) :
    after ≠ .deciding copy := by
  intro now
  cases move with
  | neutral neutral => exact absurd neutral Bool.false_ne_true
  | saveProcessing | saveCompleted | saveRefused | saveRetry | saveFailed =>
      unfold WorkerPoint.whenStreaming at now
      split at now <;> cases now
  | _ => cases now

/-- A completed record is saved right after the attempt's last check. -/
private theorem completing {point after : WorkerPoint} {saved : JobMeta} {reply : Unit}
    {call : LLMCallJob} (move : AttemptMoves settings point (.saveMeta saved) reply after)
    (stores : saved.llmCall = some call) (completed : call.status = .completed) :
    ∃ copy, point = .deciding copy := by
  cases move with
  | neutral neutral => exact absurd neutral Bool.false_ne_true
  | saveCompleted => exact ⟨_, rfl⟩
  | _ =>
      cases stores
      cases completed

private theorem Standing.worker_save {left : Nat} {point after : WorkerPoint} {api : ApiPhase}
    {cancel : Nat → CancelPhase} {wait : Nat → WaitPhase} {saved : JobMeta} {reply : Unit}
    (inv : Standing env trace w ⟨api, ⟨left, point⟩, cancel, wait⟩)
    (kept : cancellationsKept trace w ⟨.worker, .saveMeta saved⟩)
    (worker : WorkerOk settings w.snapshot w.reruns ⟨left, point⟩)
    (move : AttemptMoves settings point (.saveMeta saved) reply after)
    (answered : exec .worker (.saveMeta saved) w = some (reply, w')) :
    Standing env (trace ++ [⟨.worker, .saveMeta saved⟩]) w' ⟨api, ⟨left, after⟩, cancel, wait⟩ := by
  obtain ⟨call, stores, kind⟩ := move.saveKind
  obtain ⟨_, ⟨job, _, found, _⟩, _⟩ := worker.saves move
  have record : w'.record = some call := by
    rw [record_saveMeta answered (by rw [found]; rfl), stores]
  have status : w'.storedStatus = some call.status := by simp only [World.storedStatus, record]; rfl
  have notRequest : savesRequest (⟨.worker, .saveMeta saved⟩ : Label signature Party) = false := rfl
  have cancelledIff : savesCancelled (⟨.worker, .saveMeta saved⟩ : Label signature Party) = true ↔
      call.status = .cancelled := by simp [savesCancelled, Command.writes, stores]
  have unfinished := kind.unfinished
  have noneByWorker : ∀ label ∈ trace, savesCancelled label = true →
      label.party.isCancel = true := by
    intro label member saves
    refine (inv.writers label member saves).resolve_left fun byWorker => ?_
    exact absurd (unfinished.symm.trans (inv.byWorker ⟨label, member, byWorker, saves⟩))
      Bool.false_ne_true
  have keepsFlag : call.status ≠ .completed → w.cancelRequested = true →
      w'.cancelRequested = true := by
    intro notCompleted flagged
    simp only [cancellationsKept, keepsCancellations, stores, Option.map_some, Option.some.injEq,
      notCompleted, if_false, flagged, Bool.not_true, Bool.false_or] at kept
    rw [World.cancelRequested, record]
    exact kept
  have notCompleted : trace.any savesCancelled = true → call.status ≠ .completed := by
    intro before completed
    obtain ⟨label, member, saves⟩ := List.any_eq_true.mp before
    obtain ⟨copy, rfl⟩ := completing move stores completed
    have since := inv.deciding copy rfl label member (noneByWorker label member saves) saves
    simp [cancellationsKept, keepsCancellations, stores, completed, since] at kept
  refine ⟨(exec_env answered).trans inv.env, inv.api, ?_, ?_, ?_, ?_, ?_, ?_, ?_,
    fun other => (inv.cancel other).grows, ?_, ?_, ?_⟩
  · intro label member saves
    rcases List.mem_append.mp member with earlier | last
    · exact inv.writers label earlier saves
    · obtain rfl := List.mem_singleton.mp last
      exact .inl rfl
  · rw [status]
    exact fun completed => kind.completed (Option.some.inj completed)
  · rw [any_same notRequest, any_append, Bool.or_eq_true, cancelledIff]
    intro saves
    by_cases ends : call.status = .completed ∨ call.status = .cancelled
    · exact .inr (ends.elim kind.completed kind.cancelled)
    · obtain ⟨notCompleted, notCancelled⟩ := not_or.mp ends
      have before : trace.any savesRequest = true ∨ trace.any savesCancelled = true :=
        saves.imp_right fun cancels => cancels.resolve_right notCancelled
      rcases inv.stopped before with flagged | finished
      · exact .inl (keepsFlag notCompleted flagged)
      · exact absurd (unfinished.symm.trans finished) Bool.false_ne_true
  · rw [any_append, Bool.or_eq_true, cancelledIff, status]
    rintro (before | cancelled) completed
    · exact notCompleted before (Option.some.inj completed)
    · rw [cancelled] at completed
      cases completed
  · rintro ⟨label, member, byWorker, saves⟩
    rcases List.mem_append.mp member with earlier | last
    · have finished := inv.byWorker ⟨label, earlier, byWorker, saves⟩
      exact absurd (unfinished.symm.trans finished) Bool.false_ne_true
    · obtain rfl := List.mem_singleton.mp last
      exact kind.cancelled (cancelledIff.mp saves)
  · intro payload readable cancelled
    have noResult := worker.running (by rintro rfl; exact absurd unfinished.symm Bool.false_ne_true)
    rw [(snapshot_saveMeta answered).1] at readable
    obtain ⟨_, same, record⟩ := readPayload_stored readable (running_withMeta noResult)
    obtain ⟨_, _, rfl⟩ := Option.map_eq_some_iff.mp same
    obtain rfl := Option.some.inj (stores.symm.trans record)
    rw [any_append, cancelledIff.mpr cancelled, Bool.or_true]
  · intro other outcome cancelled
    obtain rfl := kind.outcome other outcome
    rw [any_append, cancelledIff.mpr cancelled, Bool.or_true]
  · intro _ jobMeta other held same
    exact .of_failure (held_save move held same)
  · intro copy now
    exact absurd now (notDeciding_save move copy)
  · intro checked
    rcases requestChecked_append checked with before | ⟨last, _⟩
    · obtain ⟨doomed, _⟩ := inv.checked before
      have flagged := (inv.stopped (.inl (any_of_checked before))).resolve_right fun finished =>
        absurd (unfinished.symm.trans finished) Bool.false_ne_true
      have next := move.doomed (fun copy => not_starting flagged worker move answered doomed) doomed
      refine ⟨next.1, ?_⟩
      rw [status]
      exact fun completed => next.2.2 call stores (Option.some.inj completed)
    · cases last

private theorem standing_update {cancel : Nat → CancelPhase} {call : Nat} {after : CancelPhase}
    (standing : ∀ other, (cancel other).Standing trace) (fine : after.Standing trace) :
    ∀ other, (Function.update cancel call after other).Standing trace := by
  intro other
  by_cases same : other = call
  · subst same; simpa only [Function.update_self] using fine
  · simpa only [Function.update_of_ne same] using standing other

private theorem CancelPhase.Standing.keep {phase after : CancelPhase} {call : Nat}
    (standing : phase.Standing trace)
    (origin : ∀ payload, readPayload w.snapshot = some payload → payload.status = .cancelled →
      trace.any savesCancelled = true)
    (move : CancelMoves new.jobId phase command reply after) (keeps : command.keepsRecord = true)
    (answered : exec (.cancel call) command w = some (reply, w')) : after.Standing trace := by
  cases move with
  | neutral => exact standing
  | read readable =>
      rw [exec_fetchJob answered] at readable
      exact origin _ readable
  | late => exact standing
  | pending live => exact live
  | running live => exact live
  | announceCancelled => exact fun _ => standing
  | mark => exact standing
  | @announceRequest status =>
      intro cancelled
      have live : status.isTerminal = false := standing
      rw [cancelled] at live
      exact absurd live.symm Bool.false_ne_true
  | saveCancelled | saveRequest => exact absurd keeps Bool.false_ne_true
  | _ => trivial

/-- The save of a canceller: the request is stored, and the job is not completed by it. -/
private theorem Standing.cancel_save {call : Nat} {saved : JobMeta} {reply : Unit} {record : LLMCallJob}
    {after : CancelPhase} (inv : Standing env trace w p) (stored : w.snapshot.isSome)
    (stores : saved.llmCall = some record) (flagged : record.cancelRequested = true)
    (notCompleted : record.status ≠ .completed)
    (answered : exec (.cancel call) (.saveMeta saved) w = some (reply, w'))
    (fine : after.Standing (trace ++ [⟨.cancel call, .saveMeta saved⟩])) :
    Standing env (trace ++ [⟨.cancel call, .saveMeta saved⟩]) w'
      { p with cancel := Function.update p.cancel call after } := by
  have record' : w'.record = some record := by rw [record_saveMeta answered stored, stores]
  have status : w'.storedStatus = some record.status := by
    simp only [World.storedStatus, record']; rfl
  have requested : w'.cancelRequested = true := by
    simpa [World.cancelRequested, carriesRequest, record'] using flagged
  have cancelledIff : savesCancelled (⟨.cancel call, .saveMeta saved⟩ : Label signature Party) = true ↔
      record.status = .cancelled := by simp [savesCancelled, Command.writes, stores]
  refine ⟨(exec_env answered).trans inv.env, inv.api, ?_, ?_, fun _ => .inl requested, ?_, ?_, ?_, ?_,
    standing_update (fun other => (inv.cancel other).grows) fine,
    fun pending jobMeta other held same => (inv.held pending jobMeta other held same).grows,
    fun copy now => since_grows rfl (inv.deciding copy now), ?_⟩
  · intro label member saves
    rcases List.mem_append.mp member with earlier | last
    · exact inv.writers label earlier saves
    · obtain rfl := List.mem_singleton.mp last
      exact .inr rfl
  · rw [status]
    exact fun completed => absurd (Option.some.inj completed) notCompleted
  · rw [status]
    exact fun _ completed => notCompleted (Option.some.inj completed)
  · rintro ⟨label, member, byWorker, saves⟩
    rcases List.mem_append.mp member with earlier | last
    · exact inv.byWorker ⟨label, earlier, byWorker, saves⟩
    · obtain rfl := List.mem_singleton.mp last
      cases byWorker
  · intro payload readable cancelled
    rw [(snapshot_saveMeta answered).1] at readable
    obtain ⟨_, same, found⟩ := Option.bind_eq_some_iff.mp readable
    obtain ⟨job, before, rfl⟩ := Option.map_eq_some_iff.mp same
    obtain ⟨same, valid⟩ := Option.filter_eq_some_iff.mp found
    cases result : job.result with
    | some returned =>
        refine any_grows (inv.origin payload ?_ cancelled)
        simp only [Snapshot.payload, Snapshot.withMeta, result] at same
        simp only [readPayload, before, Option.bind_some, Snapshot.payload, result]
        exact Option.filter_eq_some_iff.mpr ⟨same, valid⟩
    | none =>
        simp only [Snapshot.payload, Snapshot.withMeta, result, stores] at same
        obtain rfl := Option.some.inj same
        rw [any_append, cancelledIff.mpr cancelled, Bool.or_true]
  · exact fun other outcome cancelled => any_grows (inv.outcome other outcome cancelled)
  · intro checked
    rcases requestChecked_append checked with before | ⟨last, _⟩
    · refine ⟨(inv.checked before).1, ?_⟩
      rw [status]
      exact fun completed => notCompleted (Option.some.inj completed)
    · cases last

private theorem Standing.cancel_step {call : Nat} {after : CancelPhase}
    (inv : Standing env trace w p) (bookkeeping : Bookkeeping settings w p)
    (move : CancelMoves new.jobId (p.cancel call) command reply after)
    (answered : exec (.cancel call) command w = some (reply, w')) :
    Standing env (trace ++ [⟨.cancel call, command⟩]) w'
      { p with cancel := Function.update p.cancel call after } := by
  have standing := inv.cancel call
  have ok := bookkeeping.cancel call
  cases keeps : command.keepsRecord with
  | true =>
      exact inv.elsewhere (by rintro ⟨⟩) keeps answered inv.api rfl
        (standing_update inv.cancel (standing.keep inv.origin move keeps answered))
  | false =>
      generalize p.cancel call = phase at move standing ok
      cases move with
      | neutral neutral =>
          cases command <;> first
            | exact absurd neutral Bool.false_ne_true
            | exact absurd keeps.symm Bool.false_ne_true
      | saveCancelled same =>
          refine inv.cancel_save (bookkeeping.api.present ok.2) rfl rfl CallStatus.noConfusion
            answered ?_
          exact List.any_eq_true.mpr ⟨_, List.mem_append_right _ (List.mem_singleton.mpr rfl), rfl⟩
      | @saveRequest _ read copy elapsed same =>
          obtain ⟨_, _, _, rfl⟩ := same
          have live : read.status.isTerminal = false := standing
          refine inv.cancel_save (bookkeeping.api.present ok.2) rfl rfl ?_ answered live
          intro completed
          have completed : read.status = .completed := completed
          rw [completed] at live
          exact absurd live.symm Bool.false_ne_true
      | _ => exact absurd keeps.symm Bool.false_ne_true

/-- RQ queues the job again, and saves its job object: it keeps a request, and completes nothing. -/
private theorem Standing.requeue {left : Nat} {saved : Option LLMCallJob} {jobMeta : JobMeta}
    {api : ApiPhase} {cancel : Nat → CancelPhase} {wait : Nat → WaitPhase} {reply : Unit}
    (inv : Standing env trace w ⟨api, ⟨left + 1, .raised saved jobMeta⟩, cancel, wait⟩)
    (kept : cancellationsKept trace w ⟨.worker, .requeue jobMeta⟩)
    (worker : WorkerOk settings w.snapshot w.reruns ⟨left + 1, .raised saved jobMeta⟩)
    (answered : exec .worker (.requeue jobMeta) w = some (reply, w')) :
    Standing env (trace ++ [⟨.worker, .requeue jobMeta⟩]) w' ⟨api, ⟨left, .idle⟩, cancel, wait⟩ := by
  have pending : WorkerPhase.Pending ⟨left + 1, .raised saved jobMeta⟩ := by
    cases saved with
    | none => trivial
    | some => exact Nat.succ_ne_zero left
  have holdable := inv.held pending jobMeta
  have snapshot := (snapshot_requeue answered).1
  have requests : savesRequest (⟨.worker, .requeue jobMeta⟩ : Label signature Party) = false := rfl
  have cancellations : savesCancelled (⟨.worker, .requeue jobMeta⟩ : Label signature Party) = false := rfl
  have record : ∀ call, w'.record = some call → jobMeta.llmCall = some call := by
    intro call stored
    rw [World.record_eq, snapshot] at stored
    obtain ⟨_, found, record⟩ := Option.bind_eq_some_iff.mp stored
    obtain ⟨_, _, rfl⟩ := Option.map_eq_some_iff.mp found
    exact record
  have notCompleted : w'.storedStatus ≠ some .completed := by
    intro completed
    obtain ⟨call, stored, completed⟩ := Option.map_eq_some_iff.mp completed
    exact (holdable call rfl (record call stored)).1 completed
  refine ⟨(exec_env answered).trans inv.env, inv.api, ?_, fun completed => absurd completed notCompleted,
    ?_, fun _ => notCompleted, ?_, ?_, ?_, fun other => (inv.cancel other).grows, ?_, ?_, ?_⟩
  · intro label member saves
    rcases List.mem_append.mp member with earlier | last
    · exact inv.writers label earlier saves
    · obtain rfl := List.mem_singleton.mp last
      exact .inl rfl
  · rw [any_same requests, any_same cancellations]
    intro saves
    have flagged := (inv.stopped saves).resolve_right Bool.false_ne_true
    left
    simp only [cancellationsKept, keepsCancellations, flagged, Bool.not_true, Bool.false_or] at kept
    obtain ⟨job, found⟩ : ∃ job, w.snapshot = some job := by
      cases found : w.snapshot with
      | some job => exact ⟨job, rfl⟩
      | none => simp [World.cancelRequested, World.record_eq, found, carriesRequest] at flagged
    rw [World.cancelRequested, World.record_eq, snapshot, found]
    exact kept
  · rintro ⟨label, member, byWorker, saves⟩
    rcases List.mem_append.mp member with earlier | last
    · exact absurd (inv.byWorker ⟨label, earlier, byWorker, saves⟩) Bool.false_ne_true
    · obtain rfl := List.mem_singleton.mp last
      exact absurd saves Bool.false_ne_true
  · intro payload readable cancelled
    rw [any_same cancellations]
    rw [snapshot] at readable
    have noResult := @running_withMeta _ jobMeta (worker.running (by rintro ⟨⟩))
    obtain ⟨_, found, record⟩ := readPayload_stored readable noResult
    obtain ⟨_, _, rfl⟩ := Option.map_eq_some_iff.mp found
    obtain ⟨_, _, valid⟩ := Option.bind_eq_some_iff.mp readable
    exact (holdable payload rfl record).2 (Option.filter_eq_some_iff.mp valid).2 cancelled
  · rintro _ ⟨⟩
  · rintro _ _ _ ⟨⟩
  · rintro _ ⟨⟩
  · intro checked
    rcases requestChecked_append checked with before | ⟨last, _⟩
    · exact ⟨rfl, notCompleted⟩
    · cases last

private theorem Standing.worker_step {after : WorkerPhase} (inv : Standing env trace w p)
    (calm : env.Calm) (bookkeeping : Bookkeeping settings w p)
    (kept : cancellationsKept trace w ⟨.worker, command⟩)
    (move : WorkerMoves settings p.worker command reply after)
    (answered : exec .worker command w = some (reply, w')) :
    Standing env (trace ++ [⟨.worker, command⟩]) w' { p with worker := after } := by
  obtain ⟨api, worker, cancel, wait⟩ := p
  cases move with
  | attempt move =>
      by_cases save : ∃ saved, command = .saveMeta saved
      · obtain ⟨saved, rfl⟩ := save
        exact inv.worker_save kept bookkeeping.worker move answered
      · have noSaveMeta : ∀ saved, command ≠ .saveMeta saved := fun saved same => save ⟨saved, same⟩
        refine inv.worker_unsaved calm bookkeeping.worker move ?_ noSaveMeta answered
        cases command <;> first | rfl | exact absurd rfl (noSaveMeta _)
  | requeue => exact inv.requeue kept bookkeeping.worker answered
  | giveUp =>
      have snapshot := (snapshot_kept rfl answered).1
      refine inv.unsaved rfl (exec_env answered) ?_ ?_ inv.api ?_ ?_ inv.cancel ?_ ?_ ?_
      · rw [World.record_eq, World.record_eq, snapshot]
      · rw [snapshot]
        exact inv.origin
      · exact fun finished => absurd finished Bool.false_ne_true
      · rintro _ ⟨⟩
      · rintro _ _ _ ⟨⟩
      · rintro _ ⟨⟩
      · intro checked
        rcases requestChecked_append checked with before | ⟨last, _⟩
        · exact ⟨rfl, (inv.checked before).2⟩
        · cases last

/-- Runs that keep cancellations keep the invariant. -/
theorem standing_preserved (calm : env.Calm) :
    Preserved settings new cancellationsKept (Booked settings) (Standing env) where
  api := by
    rintro trace w p command reply w' after - inv - move answered
    have api := inv.api
    generalize p.api = phase at move api
    subst api
    cases move with
    | neutral neutral =>
        refine inv.elsewhere (by rintro ⟨⟩) ?_ answered rfl rfl inv.cancel
        cases command <;> first | rfl | exact absurd neutral Bool.false_ne_true
  worker known inv kept move answered := inv.worker_step calm known.1 kept move answered
  cancel known inv _ move answered := inv.cancel_step known.1 move answered
  wait _ inv _ move answered :=
    inv.elsewhere (by rintro ⟨⟩) move.keepsRecord answered inv.api rfl inv.cancel
  reaper _ inv _ answered := inv.elsewhere (by rintro ⟨⟩) rfl answered inv.api rfl inv.cancel

end Steps

/-! ## After a cancellation -/

/-- An attempt that has started since is doomed, and none has called the model. -/
def NothingNew (start : Trace) (trace : Trace) (_ : World) (p : Phases) : Prop :=
  ∃ later, trace = start ++ later ∧
    (⟨.worker, .pop⟩ ∈ later → p.worker.point.doomed = true) ∧ NoNewModelCall later

section After

variable {settings : Settings} {new : NewCall} {env : Environment} {start trace later : Trace}
  {w w' : World} {p p' : Phases} {label : Label signature Party}

private theorem noNewModelCall_append (none : NoNewModelCall later)
    (fine : ⟨.worker, .pop⟩ ∈ later → label.command.callsModel = false) :
    NoNewModelCall (later ++ [label]) := by
  intro before after split other member
  rcases List.eq_nil_or_concat after with rfl | ⟨shorter, last, rfl⟩
  · cases member
  · rw [List.concat_eq_append, ← List.cons_append, ← List.append_assoc] at split
    obtain ⟨rfl, same⟩ := List.append_inj' split rfl
    obtain rfl := List.singleton_injective same
    rw [List.concat_eq_append] at member
    rcases List.mem_append.mp member with earlier | final
    · exact none before shorter rfl other earlier
    · obtain rfl := List.mem_singleton.mp final
      exact fine (List.mem_append_right _ List.mem_cons_self)

/-- A step of the worker after the mark. -/
private theorem NothingNew.worker_step {command : Command} {reply : command.Reply}
    {after : WorkerPhase} (inv : NothingNew start trace w p) (standing : Standing env trace w p)
    (bookkeeping : Bookkeeping settings w p) (calm : env.Calm)
    (marked : start.any savesRequest = true ∨ start.any savesCancelled = true)
    (move : WorkerMoves settings p.worker command reply after)
    (answered : exec .worker command w = some (reply, w')) :
    NothingNew start (trace ++ [⟨.worker, command⟩]) w' { p with worker := after } := by
  obtain ⟨later, rfl, doomed, none⟩ := inv
  have stopped : Stopped w p := standing.stopped (by
    simp only [List.any_append, Bool.or_eq_true]
    exact marked.imp Or.inl Or.inl)
  have calm : w.env.Calm := by rw [standing.env]; exact calm
  have next : p.worker.point.doomed = true →
      after.point.doomed = true ∧ command.callsModel = false := by
    intro doomed
    have ok := bookkeeping.worker
    obtain ⟨api, worker, cancel, wait⟩ := p
    cases move with
    | attempt move =>
        refine ⟨(move.doomed (fun copy => ?_) doomed).1, (move.doomed (fun copy => ?_) doomed).2.1⟩
        all_goals
          rcases stopped with flagged | finished
          · exact not_starting flagged ok move answered doomed
          · rintro rfl
            exact absurd (move.finishing calm answered finished).1 Bool.false_ne_true
    | requeue | giveUp => exact ⟨rfl, rfl⟩
  refine ⟨later ++ [⟨.worker, command⟩], List.append_assoc _ _ _, ?_,
    noNewModelCall_append none fun popped => (next (doomed popped)).2⟩
  intro popped
  rcases List.mem_append.mp popped with earlier | last
  · exact (next (doomed earlier)).1
  · cases List.mem_singleton.mp last
    obtain ⟨api, worker, cancel, wait⟩ := p
    cases move with
    | attempt move => cases move with
      | neutral neutral => exact absurd neutral Bool.false_ne_true
      | pop => rfl

/-- A step of another party after the mark. -/
private theorem NothingNew.elsewhere {party : Party} {command : Command}
    (inv : NothingNew start trace w p) (notWorker : party ≠ .worker) (worker : p'.worker = p.worker)
    (noModel : command.callsModel = false) :
    NothingNew start (trace ++ [⟨party, command⟩]) w' p' := by
  obtain ⟨later, rfl, doomed, none⟩ := inv
  refine ⟨later ++ [⟨party, command⟩], List.append_assoc _ _ _, ?_,
    noNewModelCall_append none fun _ => noModel⟩
  intro popped
  rw [worker]
  rcases List.mem_append.mp popped with earlier | last
  · exact doomed earlier
  · cases List.mem_singleton.mp last
    exact absurd rfl notWorker

theorem nothingNew_preserved (calm : env.Calm)
    (marked : start.any savesRequest = true ∨ start.any savesCancelled = true) :
    Preserved settings new cancellationsKept
      (fun trace w p => Booked settings trace w p ∧ Standing env trace w p) (NothingNew start) where
  api _ inv _ move _ := inv.elsewhere (by rintro ⟨⟩) rfl move.noModel
  worker known inv _ move answered :=
    inv.worker_step known.2 known.1.1 calm marked move answered
  cancel _ inv _ move _ := inv.elsewhere (by rintro ⟨⟩) rfl move.noModel
  wait _ inv _ move _ := inv.elsewhere (by rintro ⟨⟩) rfl move.noModel
  reaper _ inv _ _ := inv.elsewhere (by rintro ⟨⟩) rfl rfl

end After

/-! ## From an enqueued job -/

section Runs

variable {settings : Settings} {new : NewCall} {polls : Nat → Nat} {env : Environment}

/-- Nothing has been cancelled when `enqueue_llm_call` returns. -/
private theorem Started.standing {c : System} {phase : ∀ party, Phase party}
    (started : Started settings new env c phase) :
    Standing env c.trace c.world (Phases.of phase) := by
  have only := started.only
  have noRequest : c.trace.any savesRequest = false := by
    refine List.any_eq_false.mpr fun label member requests => ?_
    rw [savesRequest, (only.trace label member).1] at requests
    exact absurd requests Bool.false_ne_true
  have noneCancelled : ∀ label ∈ c.trace, savesCancelled label = false := by
    intro label member
    rw [savesCancelled]
    cases writes : label.command.writes with
    | none => rfl
    | some call => rw [Option.map_some, (only.trace label member).2 call writes]; rfl
  have noCancelled : c.trace.any savesCancelled = false :=
    List.any_eq_false.mpr fun label member saves =>
      Bool.false_ne_true ((noneCancelled label member).symm.trans saves)
  have queued : c.world.storedStatus = some .queued ∧
      ∀ payload, readPayload c.world.snapshot = some payload → payload.status = .queued := by
    have done := only.api
    rw [started.finished] at done
    obtain ⟨pushed, elapsed, position, job, _, _⟩ := done
    refine ⟨by rw [World.storedStatus, World.record, job]; rfl, fun payload readable => ?_⟩
    rw [World.snapshot, job] at readable
    obtain ⟨_, found, record⟩ := readPayload_stored readable fun _ same => by cases same; rfl
    cases found
    cases record
    rfl
  have idle : (Phases.of phase).worker.point = .idle := by rw [only.worker]
  refine ⟨only.untouched.env, started.finished, ?_, ?_, ?_, ?_, ?_, ?_, ?_, ?_, ?_, ?_, ?_⟩
  · intro label member saves
    exact absurd ((noneCancelled label member).symm.trans saves) Bool.false_ne_true
  · rw [queued.1]
    rintro ⟨⟩
  · rw [noRequest, noCancelled]
    exact fun saved => saved.elim (absurd · Bool.false_ne_true) (absurd · Bool.false_ne_true)
  · rw [noCancelled]
    rintro ⟨⟩
  · rintro ⟨label, member, _, saves⟩
    exact absurd ((noneCancelled label member).symm.trans saves) Bool.false_ne_true
  · intro payload readable cancelled
    rw [queued.2 payload readable] at cancelled
    cases cancelled
  · rw [idle]
    rintro call ⟨⟩
  · intro call
    rw [only.cancel call]
    trivial
  · rw [idle]
    rintro _ _ _ ⟨⟩
  · rw [idle]
    rintro _ ⟨⟩
  · intro checked
    exact absurd (noRequest.symm.trans (any_of_checked checked)) Bool.false_ne_true

/-- What a canceller has saved by the time it returns is in the history up to then. -/
private theorem saved_before {guard : Guard signature Party World} {m d : System} {call : Nat}
    {out : Outcome} {saved : JobMeta} (returned : m.program (.cancel call) = .done out)
    (after : machine.Reach guard m d) (member : ⟨.cancel call, .saveMeta saved⟩ ∈ d.trace) :
    ⟨.cancel call, .saveMeta saved⟩ ∈ m.trace := by
  obtain ⟨later, grows, finished⟩ := after.history
  rw [grows] at member
  refine (List.mem_append.mp member).resolve_right fun late => ?_
  exact (finished _ _ returned).2 _ late rfl

private theorem savesRequest_of_sound {call : Nat} {saved : JobMeta}
    (sound : Command.Sound (.saveMeta saved)) : savesRequest ⟨.cancel call, .saveMeta saved⟩ = true := by
  obtain ⟨stored, stores, _⟩ := sound
  simp [savesRequest, Party.isCancel, Command.writes, stores]

/-- Once a job is enqueued, in every run whose saves keep cancellations: after an accepted
    cancellation no new attempt calls the model, and the job does not end completed. -/
theorem accepted_cancellation_stands {c m d : System} {call : Nat} {result : LLMCallJob}
    (calm : env.Calm) (enqueued : Enqueued settings new polls env c)
    (before : machine.Reach cancellationsKept c m)
    (returned : m.program (.cancel call) = .done (.ok result))
    (after : machine.Reach cancellationsKept m d) (accepted : Accepted call result d.trace) :
    (∀ later, d.trace = m.trace ++ later → NoNewModelCall later) ∧
      d.world.storedStatus ≠ some .completed := by
  obtain ⟨start, started⟩ := enqueued.started
  obtain ⟨phase, tracked, booked, atReturn⟩ := (standing_preserved calm).reach_booked before
    started.tracked started.booked started.standing
  have returnedPhase :
      (Phases.of phase).cancel call = .returned result.status result.cancelRequested := by
    have ended := tracked (.cancel call)
    rw [returned] at ended
    exact ended result rfl
  have marked : m.trace.any savesRequest = true ∨ m.trace.any savesCancelled = true := by
    rcases accepted with cancelled | ⟨_, earlier, saved, later, split, _⟩
    · have standing := atReturn.cancel call
      rw [returnedPhase] at standing
      exact .inr (standing cancelled)
    · have own : ⟨.cancel call, .saveMeta saved⟩ ∈ m.trace :=
        saved_before returned after (by rw [split]; simp)
      exact .inl (List.any_eq_true.mpr ⟨_, own, savesRequest_of_sound (booked.2 _ own)⟩)
  have nothingYet : NothingNew m.trace m.trace m.world (Phases.of phase) :=
    ⟨[], (List.append_nil _).symm, fun popped => absurd popped List.not_mem_nil,
      fun _ _ split => absurd split.symm
        (List.append_ne_nil_of_right_ne_nil _ (List.cons_ne_nil _ _))⟩
  obtain ⟨_, _, endBooked, standing, later, grows, _, nothing⟩ :=
    ((standing_preserved calm).and (nothingNew_preserved calm marked)).reach_booked after tracked
      booked ⟨atReturn, nothingYet⟩
  refine ⟨fun rest same => ?_, ?_⟩
  · obtain rfl := List.append_cancel_left (grows.symm.trans same)
    exact nothing
  · rcases accepted with cancelled | ⟨_, earlier, saved, rest, split, checked⟩
    · have atReturn := atReturn.cancel call
      rw [returnedPhase] at atReturn
      refine standing.cancelled ?_
      rw [grows, List.any_append, atReturn cancelled, Bool.true_or]
    · obtain ⟨before, after, rfl⟩ := List.append_of_mem checked
      have own := endBooked.2 ⟨.cancel call, .saveMeta saved⟩ (by rw [split]; simp)
      refine (standing.checked ⟨earlier ++ ⟨.cancel call, .saveMeta saved⟩ :: before, after, ?_, ?_⟩).2
      · rw [split, List.append_assoc, List.cons_append]
      · rw [List.any_append, List.any_cons, savesRequest_of_sound own, Bool.true_or, Bool.or_true]

/-- A cancellation that comes ahead of the worker stands. -/
theorem accepted_cancellation_stands_demo : ∃ d : System,
    (∃ call, d.program (.cancel 0) = .done (.ok call) ∧ call.status = .cancelled) ∧
      d.world.storedStatus ≠ some .completed := by
  obtain ⟨c, enqueued, run⟩ := enqueued_observed demoSettings (demoCall .textGeneration)
    (fun _ => 0) demoEnvironment (List.replicate 8 .api)
    (fun c => (machine.schedule cancellationsKept (List.replicate 10 (.cancel 0)) c).map
      fun m => (returnedBy (.cancel 0) m).map LLMCallJob.status)
    (some .cancelled) (by decide +kernel) (by decide +kernel)
  obtain ⟨m, scheduled, seen⟩ := Option.map_eq_some_iff.mp run
  obtain ⟨call, returned, cancelled⟩ := Option.map_eq_some_iff.mp seen
  have returned := returnedBy_eq_some.mp returned
  exact ⟨m, ⟨call, returned, cancelled⟩, (accepted_cancellation_stands demoEnvironment_calm enqueued
    (Machine.schedule_reach scheduled) returned .refl (.inl cancelled)).2⟩

/-- The worker takes the job between the canceller's read and its save, and its next save
    drops the request. -/
theorem accepted_cancellation_undone :
    ∃ c m d : System, ∃ result, demoEnvironment.Calm ∧
      Enqueued demoSettings (demoCall .textGeneration) (fun _ => 0) demoEnvironment c ∧
      machine.Reach Machine.anyStep c m ∧ m.program (.cancel 0) = .done (.ok result) ∧
      machine.Reach Machine.anyStep m d ∧ Accepted 0 result d.trace ∧
      d.world.storedStatus = some .completed := by
  obtain ⟨c, enqueued, run⟩ := enqueued_observed demoSettings (demoCall .textGeneration)
    (fun _ => 0) demoEnvironment (List.replicate 8 .api)
    (fun c =>
      (machine.schedule Machine.anyStep
        (List.replicate 5 (.cancel 0) ++ List.replicate 6 .worker ++ List.replicate 5 (.cancel 0))
        c).bind fun m =>
      (machine.schedule Machine.anyStep (List.replicate 22 .worker) m).map fun d =>
        ((returnedBy (.cancel 0) m).map LLMCallJob.status, d.world.storedStatus))
    (some .cancelled, some .completed) (by decide +kernel) (by decide +kernel)
  obtain ⟨m, before, run⟩ := Option.bind_eq_some_iff.mp run
  obtain ⟨d, after, seen⟩ := Option.map_eq_some_iff.mp run
  obtain ⟨cancelled, completed⟩ := Prod.mk.inj seen
  obtain ⟨result, returned, cancelled⟩ := Option.map_eq_some_iff.mp cancelled
  exact ⟨c, m, d, result, demoEnvironment_calm, enqueued, Machine.schedule_reach before,
    returnedBy_eq_some.mp returned, Machine.schedule_reach after, .inl cancelled, completed⟩

end Runs

end LanguageAgent.Queue
