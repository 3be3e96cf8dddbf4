import LanguageAgent.Agent.ReplyStream
import LanguageAgent.Queue.Retries
import LanguageAgent.Queue.SingleEnd
import LanguageAgent.Queue.StreamReader
import Mathlib.Data.List.DropRight

/-! # What a streaming client reads

All attempts of a job write to one stream, and the result is the reply of the last. The
two agree when no attempt that failed had shown anything.
-/

namespace LanguageAgent.Queue

open Interleaving
open Agent (joinTokens joinTokens_append drainHandler_reply)

/-! ## What the failed attempts have published -/

def requeues (label : Label signature Party) : Bool :=
  match label.party, label.command with
  | .worker, .requeue _ => true
  | _, _ => false

/-- The events a history has put on the stream. -/
def published (trace : Trace) : List Dict := trace.flatMap fun label => label.command.appends

/-- The history up to where RQ last queued the job again: all the attempts that failed. -/
def failedAttempts (trace : Trace) : Trace := trace.rdropWhile fun label => !requeues label

/-- No attempt that failed had published a non-empty token. -/
def SilentFailures (trace : Trace) : Prop := joinTokens (published (failedAttempts trace)) = ""

/-- Nor had one announced the end of the job. -/
def OpenFailures (trace : Trace) : Prop := OpenStream (published (failedAttempts trace))

section Failures

variable {trace : Trace} {label : Label signature Party}

theorem published_append : published (trace ++ [label]) = published trace ++ label.command.appends := by
  simp only [published, List.flatMap_append, List.flatMap_cons, List.flatMap_nil, List.append_nil]

theorem failedAttempts_same (goesOn : requeues label = false) :
    failedAttempts (trace ++ [label]) = failedAttempts trace :=
  List.rdropWhile_concat_pos _ _ _ (by rw [goesOn]; rfl)

theorem failedAttempts_requeue (again : requeues label = true) :
    failedAttempts (trace ++ [label]) = trace ++ [label] :=
  List.rdropWhile_concat_neg _ _ _ (by rw [again]; exact Bool.false_ne_true)

end Failures

/-! ## A streaming job -/

/-- A record kept in `job.meta` is of a streaming job. -/
def JobMeta.Streaming (jobMeta : JobMeta) : Prop :=
  ∀ call, jobMeta.llmCall = some call → call.callType = .streamingTextGeneration

def Snapshot.Streaming (job : Snapshot) : Prop :=
  job.args.callType = .streamingTextGeneration ∧ job.jobMeta.Streaming

def Copy.Streaming (copy : Copy) : Prop :=
  copy.call.callType = .streamingTextGeneration ∧ copy.jobMeta.Streaming

def WorkerPoint.Streaming : WorkerPoint → Prop
  | .idle | .popped | .ended => True
  | .fetched job => job.Streaming
  | .started copy | .starting copy | .announcing copy | .ready copy | .serving copy | .streamSaved copy
  | .opening copy | .reading copy _ _ _ | .publishing copy _ _ _ _ | .checking copy _ _ _
  | .closing copy _ | .answered copy | .deciding copy | .doneDue copy | .stopping copy _ _
  | .cancelDue copy _ _ | .faulted copy | .retryDue copy | .failDue copy | .returning copy _ => copy.Streaming
  | .raised _ jobMeta => jobMeta.Streaming
  | .refused _ _ | .refusalDue _ _ => False

section Types

variable {settings : Settings} {w w' : World} {point after : WorkerPoint} {command : Command}
  {reply : command.Reply} {copy : Copy}

theorem Copy.Streaming.altered {other : Copy} (streaming : copy.Streaming) (altered : copy.Altered other) :
    other.Streaming := by
  obtain ⟨_, _, _, _, _, _, _, rfl⟩ := altered
  exact streaming

theorem Copy.Streaming.put {call : LLMCallJob} {elapsed : Option Rat} (streaming : copy.Streaming)
    (same : call.callType = copy.call.callType) : (copy.put call elapsed).Streaming := by
  have type : call.callType = .streamingTextGeneration := same.trans streaming.1
  exact ⟨type, fun _ stored => Option.some.inj stored ▸ type⟩

theorem Copy.Streaming.putFailure {call : LLMCallJob} {elapsed : Option Rat} (streaming : copy.Streaming)
    (same : call.callType = copy.call.callType) : (copy.putFailure call elapsed).Streaming := by
  have type : call.callType = .streamingTextGeneration := same.trans streaming.1
  exact ⟨type, fun _ stored => Option.some.inj stored ▸ type⟩

theorem WorkerPoint.Streaming.guarded (streaming : point.Streaming) (held : point.guardedCopy = some copy) :
    copy.Streaming := by
  cases point with
  | stopping _ _ inTry | cancelDue _ _ inTry | returning _ inTry =>
      cases inTry <;> cases held
      exact streaming
  | _ => cases held <;> exact streaming

private theorem Snapshot.Streaming.loaded {job : Snapshot} (streaming : job.Streaming) :
    Copy.Streaming ⟨job.jobMeta, Queue.loaded job.jobMeta job.args⟩ := by
  refine ⟨?_, streaming.2⟩
  cases record : job.jobMeta.llmCall with
  | none => simp only [Queue.loaded, record, Option.getD_none, streaming.1]
  | some call => simp only [Queue.loaded, record, Option.getD_some, streaming.2 call record]

theorem AttemptMoves.streaming (move : AttemptMoves settings point command reply after)
    (stored : ∀ job, w.snapshot = some job → job.Streaming)
    (answered : exec .worker command w = some (reply, w')) (streaming : point.Streaming) :
    after.Streaming := by
  cases move with
  | neutral | uninterrupted => exact streaming
  | interrupted held altered => exact (streaming.guarded held).altered altered
  | interruptedLoop held altered => exact (streaming.guarded held).altered altered
  | pop | finish => trivial
  | fetch => exact stored _ (exec_fetchJob answered).symm
  | missing => rintro _ ⟨⟩
  | start => exact Snapshot.Streaming.loaded streaming
  | startInvalid => exact streaming.2
  | startUnreadable | announceRetry | announceFailed => exact streaming.2
  | ask structured | askRefused structured | askFailed structured => cases structured.symm.trans streaming.1
  | generate plain | generateFailed plain => cases plain.symm.trans streaming.1
  | saveProcessing =>
      exact WorkerPoint.whenStreaming_cases (motive := WorkerPoint.Streaming) (streaming.put rfl) (streaming.put rfl)
  | saveStreaming | saveCancelled => exact streaming.put rfl
  | saveCompleted =>
      exact WorkerPoint.whenStreaming_cases (motive := WorkerPoint.Streaming) (streaming.put rfl) (streaming.put rfl)
  | saveRefused | announceRefused => exact streaming.elim
  | saveRetry | saveFailed =>
      refine WorkerPoint.whenStreaming_cases (motive := WorkerPoint.Streaming) (streaming.putFailure rfl) ?_
      rintro _ ⟨⟩
      exact streaming.1
  | _ => exact streaming

theorem AttemptMoves.saves_streaming {saved : JobMeta} {reply : Unit}
    (move : AttemptMoves settings point (.saveMeta saved) reply after) (streaming : point.Streaming) :
    saved.Streaming := by
  cases move with
  | neutral neutral => exact absurd neutral Bool.false_ne_true
  | saveRefused => exact streaming.elim
  | _ =>
      rintro _ ⟨⟩
      exact streaming.1

end Types

/-! ## What the attempt under way has shown -/

/-- The record does not say that the job is completed. -/
def NotCompleted (record : Option LLMCallJob) : Prop := ∀ call, record = some call → call.status ≠ .completed

/-- A completed record has for its result the text published since the last failure, and
    the last event has announced it. -/
def Whole (current : List Dict) (call : LLMCallJob) : Prop :=
  call.status = .completed → EndsOnce current ∧ call.result = .str (joinTokens current)

/-- Neither a token nor an end is published. -/
def Quiet (current : List Dict) : Prop := OpenStream current ∧ joinTokens current = ""

/-- What the events since the last failure come to at each point of an attempt. -/
def WorkerPoint.Shown (record : Option LLMCallJob) (current : List Dict) : WorkerPoint → Prop
  | .idle | .popped => Quiet current ∧ NotCompleted record
  | .fetched job => Quiet current ∧ NotCompleted record ∧ NotCompleted job.jobMeta.llmCall
  | .started copy => Quiet current ∧ NotCompleted record ∧ NotCompleted copy.jobMeta.llmCall
  | .starting _ | .announcing _ | .ready _ | .serving _ | .streamSaved _ | .opening _ => Quiet current
  | .reading _ parts _ _ | .publishing _ parts _ _ _ | .checking _ parts _ _ =>
      OpenStream current ∧ joinTokens current = String.join parts
  | .answered copy | .deciding copy => OpenStream current ∧ copy.call.result = .str (joinTokens current)
  | .doneDue copy => (OpenStream current ∧ copy.call.result = .str (joinTokens current)) ∧
      record = some copy.call
  | .cancelDue copy _ _ => record = some copy.call ∧ copy.call.status = .cancelled
  | .returning copy _ => record = some copy.call ∧ Whole current copy.call
  | .retryDue copy | .failDue copy => NotCompleted record ∧ NotCompleted copy.jobMeta.llmCall
  | .raised _ jobMeta => NotCompleted record ∧ NotCompleted jobMeta.llmCall
  | .ended => ∀ call, record = some call → Whole current call
  | .closing _ _ | .stopping _ _ _ | .faulted _ | .refused _ _ | .refusalDue _ _ => True

section Steps

variable {settings : Settings} {w w' : World} {left : Nat} {point after : WorkerPoint}
  {command : Command} {reply : command.Reply} {current : List Dict}

/-- An event without a token shows nothing. -/
theorem tokenOf_silent {event : Dict} (silent : event.get? "token" = none) : tokenOf event = "" := by
  simp only [tokenOf, Dict.str?, silent, Option.bind_none, Option.getD_none]

private theorem joinTokens_silent {event : Dict} (silent : event.get? "token" = none) :
    joinTokens (current ++ [event]) = joinTokens current := by
  rw [joinTokens_append]
  simp only [joinTokens, List.map_cons, List.map_nil, tokenOf_silent silent, String.join_cons,
    String.join_nil, String.append_empty]

private theorem notCompleted_none : NotCompleted none := by
  rintro _ ⟨⟩

private theorem notCompleted_of {call : LLMCallJob} (fails : call.status ≠ .completed) :
    NotCompleted (some call) := fun _ same => Option.some.inj same ▸ fails

private theorem OpenStream.announced {call : LLMCallJob} {extra : Dict} {status : CallStatus}
    (isOpen : OpenStream current) (same : call.status = status) (live : status.isTerminal = false)
    (absent : ∀ entry ∈ extra, entry.1 ≠ "status") (notDone : (buildStreamEvent call extra).isTrue "done" = false) :
    OpenStream (current ++ [buildStreamEvent call extra]) := by
  subst same
  exact isOpen.append (List.forall_mem_singleton.mpr (not_terminal live (buildStreamEvent_status absent) notDone))

/-- Every move of a streaming attempt keeps what the attempt has shown in step with its record. -/
theorem AttemptMoves.shown (move : AttemptMoves settings point command reply after)
    (announces : WorkerPhase.Announces ⟨left, point⟩) (streaming : point.Streaming)
    (present : (∃ saved, command = .saveMeta saved) → w.snapshot.isSome)
    (answered : exec .worker command w = some (reply, w')) (before : point.Shown w.record current) :
    after.Shown w'.record (current ++ command.appends) := by
  have kept : (∀ saved, command ≠ .saveMeta saved) → w'.record = w.record := by
    intro noSave
    refine record_kept ?_ noSave ?_ answered
    · rintro payload rfl
      cases move with | neutral neutral => exact absurd neutral Bool.false_ne_true
    · rintro saved rfl
      cases move with | neutral neutral => exact absurd neutral Bool.false_ne_true
  have quiet : (∀ saved, command ≠ .saveMeta saved) → command.appends = [] →
      point.Shown w'.record (current ++ command.appends) := by
    intro noSave silent
    rw [kept noSave, silent, List.append_nil]
    exact before
  cases move with
  | neutral neutral =>
      refine quiet ?_ (Command.appends_neutral neutral)
      rintro saved rfl
      exact absurd neutral Bool.false_ne_true
  | startClear => exact (quiet (by rintro _ ⟨⟩) rfl).1
  | uninterrupted | pop | load | openStream | nextToken | nextBlank | checkClear | finalClear =>
      exact quiet (by rintro _ ⟨⟩) rfl
  | interrupted | interruptedLoop | startCancelled | loadFailed | checkUnreadable | checkCancelled
  | closeBroken | closeFaulted | closeCancelled | finalUnreadable | finalCancelled => trivial
  | fetch =>
      obtain ⟨silent, notCompleted⟩ := quiet (by rintro _ ⟨⟩) rfl
      refine ⟨silent, notCompleted, ?_⟩
      rw [kept (by rintro _ ⟨⟩), World.record_eq, ← exec_fetchJob answered] at notCompleted
      exact notCompleted
  | missing => exact ⟨(quiet (by rintro _ ⟨⟩) rfl).2, notCompleted_none⟩
  | start => exact quiet (by rintro _ ⟨⟩) rfl
  | startInvalid | startUnreadable => exact (quiet (by rintro _ ⟨⟩) rfl).2
  | ask structured | askRefused structured | askFailed structured => cases structured.symm.trans streaming.1
  | generate plain | generateFailed plain => cases plain.symm.trans streaming.1
  | saveProcessing =>
      have quiet : Quiet (current ++ []) := (List.append_nil current).symm ▸ before
      exact WorkerPoint.whenStreaming_cases (motive := WorkerPoint.Shown w'.record (current ++ [])) quiet quiet
  | saveStreaming => exact (List.append_nil current).symm ▸ before
  | announceProcessing | announceStreaming =>
      exact ⟨before.1.announced announces rfl (List.forall_mem_nil _) rfl,
        (joinTokens_silent (buildStreamEvent_token (by simp))).trans before.2⟩
  | @publish copy parts token pending ending =>
      have told : tokenOf (buildStreamEvent copy.call [("token", .str token)]) = token := rfl
      refine ⟨before.1.announced announces rfl (by simp) rfl, ?_⟩
      rw [joinTokens_append, before.2, String.join_append]
      simp only [Command.appends, joinTokens, List.map_cons, List.map_nil, told]
  | closeAnswered =>
      obtain ⟨isOpen, shown⟩ := quiet (by rintro _ ⟨⟩) rfl
      refine ⟨isOpen, ?_⟩
      rw [shown]
      rfl
  | @saveCompleted copy elapsed now =>
      have record := record_saveMeta answered (present ⟨_, rfl⟩)
      rw [WorkerPoint.whenStreaming_streaming (streaming.1 : copy.call.callType = _)]
      exact ⟨(List.append_nil current).symm ▸ before, record⟩
  | @announceDone copy =>
      obtain ⟨⟨isOpen, result⟩, record⟩ := before
      refine ⟨(kept (by rintro _ ⟨⟩)).trans record, fun _ => ⟨⟨current, _, rfl, ?_, rfl, isOpen⟩, ?_⟩⟩
      · exact Bool.or_eq_true_iff.mpr (.inl rfl)
      · rw [result, Command.appends, joinTokens_silent (buildStreamEvent_token (by simp))]
  | saveCancelled => exact ⟨record_saveMeta answered (present ⟨_, rfl⟩), rfl⟩
  | announceCancelled =>
      refine ⟨(kept (by rintro _ ⟨⟩)).trans before.1, fun completed => ?_⟩
      cases before.2.symm.trans completed
  | saveRefused | announceRefused => exact streaming.elim
  | saveRetry | saveFailed =>
      have record := record_saveMeta answered (present ⟨_, rfl⟩)
      have fails : NotCompleted w'.record := by
        rw [record]
        exact notCompleted_of CallStatus.noConfusion
      exact WorkerPoint.whenStreaming_cases (motive := WorkerPoint.Shown w'.record (current ++ []))
        ⟨fails, notCompleted_of CallStatus.noConfusion⟩ ⟨fails, notCompleted_of CallStatus.noConfusion⟩
  | announceRetry | announceFailed =>
      rw [kept (by rintro _ ⟨⟩)]
      exact before
  | @finish copy inTry elapsed =>
      obtain ⟨record, whole⟩ := quiet (by rintro _ ⟨⟩) rfl
      intro call found
      obtain rfl := Option.some.inj (record.symm.trans found)
      exact whole

end Steps

/-! ## Runs -/

/-- The stream as all attempts have written it, and what the last has to do with the record. -/
structure AttemptStream (trace : Trace) (w : World) (p : Phases) : Prop where
  events : w.events = published trace
  announces : p.worker.Announces
  stored : ∀ job, w.snapshot = some job → job.Streaming
  streaming : p.worker.point.Streaming
  shown : ∃ current, w.events = published (failedAttempts trace) ++ current ∧
    p.worker.point.Shown w.record current

section Runs

variable {settings : Settings} {new : NewCall} {polls : Nat → Nat} {env : Environment}

private theorem AttemptStream.attempt {trace : Trace} {w w' : World} {left : Nat} {point after : WorkerPoint}
    {api : ApiPhase} {cancel : Nat → CancelPhase} {wait : Nat → WaitPhase} {command : Command}
    {reply : command.Reply} (inv : AttemptStream trace w ⟨api, ⟨left, point⟩, cancel, wait⟩)
    (booked : WorkerOk settings w.snapshot w.reruns ⟨left, point⟩)
    (move : AttemptMoves settings point command reply after)
    (answered : exec .worker command w = some (reply, w')) :
    AttemptStream (trace ++ [⟨.worker, command⟩]) w' ⟨api, ⟨left, after⟩, cancel, wait⟩ := by
  obtain ⟨current, split, shown⟩ := inv.shown
  have appends := exec_appends answered
  have present : (∃ saved, command = .saveMeta saved) → w.snapshot.isSome := by
    rintro ⟨saved, rfl⟩
    obtain ⟨_, ⟨job, _, found, _⟩, _⟩ := booked.saves move
    rw [found]
    rfl
  have goesOn : requeues ⟨.worker, command⟩ = false := by
    cases command with
    | requeue saved => cases move with | neutral neutral => exact absurd neutral Bool.false_ne_true
    | _ => rfl
  refine ⟨?_, move.announces inv.announces, ?_, move.streaming inv.stored answered inv.streaming,
    current ++ command.appends, ?_, move.shown inv.announces inv.streaming present answered shown⟩
  · rw [appends, inv.events, published_append]
  · intro job found
    cases keeps : command.keepsRecord with
    | true =>
        rw [(snapshot_kept keeps answered).1] at found
        exact inv.stored job found
    | false =>
        cases command with
        | saveMeta saved =>
            rw [(snapshot_saveMeta answered).1] at found
            obtain ⟨before, was, rfl⟩ := Option.map_eq_some_iff.mp found
            exact ⟨(inv.stored before was).1, move.saves_streaming inv.streaming⟩
        | finish result =>
            rw [(snapshot_finish answered).1] at found
            obtain ⟨before, was, rfl⟩ := Option.map_eq_some_iff.mp found
            exact inv.stored before was
        | push => cases move with | neutral neutral => exact absurd neutral Bool.false_ne_true
        | requeue => exact absurd goesOn.symm Bool.false_ne_true
        | _ => exact absurd keeps.symm Bool.false_ne_true
  · rw [appends, split, failedAttempts_same goesOn, List.append_assoc]

private theorem attemptStream_preserved :
    Preserved settings new workerAlone (Booked settings) AttemptStream where
  api _ _ alone := by cases alone
  cancel _ _ alone := by cases alone
  wait _ _ alone := by cases alone
  reaper _ _ alone := by cases alone
  worker := by
    intro trace w p command reply w' after booked inv _ move answered
    have booked := booked.1.worker
    obtain ⟨api, worker, cancel, wait⟩ := p
    have appends := exec_appends answered
    cases move with
    | attempt move => exact inv.attempt booked move answered
    | @requeue left saved jobMeta =>
        obtain ⟨current, _, notCompleted, held⟩ := inv.shown
        have snapshot := (snapshot_requeue answered).1
        have events : w'.events = published (trace ++ [⟨.worker, .requeue jobMeta⟩]) := by
          rw [appends, inv.events, published_append]
        refine ⟨events, trivial, ?_, trivial, [], ?_, ⟨List.forall_mem_nil _, rfl⟩, ?_⟩
        · intro job found
          rw [snapshot] at found
          obtain ⟨before, was, rfl⟩ := Option.map_eq_some_iff.mp found
          exact ⟨(inv.stored before was).1, inv.streaming⟩
        · rw [failedAttempts_requeue rfl, List.append_nil]
          exact events
        · intro call found
          rw [World.record_eq, snapshot] at found
          obtain ⟨_, same, record⟩ := Option.bind_eq_some_iff.mp found
          obtain ⟨_, _, rfl⟩ := Option.map_eq_some_iff.mp same
          exact held call record
    | giveUp =>
        obtain ⟨current, split, notCompleted, _⟩ := inv.shown
        have snapshot := (snapshot_kept rfl answered).1
        refine ⟨?_, trivial, ?_, trivial, current ++ Command.giveUp.appends, ?_, ?_⟩
        · rw [appends, inv.events, published_append]
        · rw [snapshot]
          exact inv.stored
        · rw [appends, split, failedAttempts_same rfl, List.append_assoc]
        · intro call found completed
          rw [World.record_eq, snapshot, ← World.record_eq] at found
          exact absurd completed (notCompleted call found)

/-- The stream holds what has been published. -/
private theorem reached_published {guard : Guard signature Party World} {c : System}
    (run : machine.Reach guard (boot settings new polls env) c) : c.world.events = published c.trace := by
  induction run with
  | refl => rfl
  | tail _ step ih =>
      cases step with
      | issue _ _ answered =>
          change _ = published (_ ++ [_])
          rw [published_append, ← ih]
          exact exec_appends answered

private theorem Started.streamed {c : System} {phase : ∀ party, Phase party}
    (streaming : new.callType = .streamingTextGeneration) (started : Started settings new env c phase)
    (events : c.world.events = published c.trace) : AttemptStream c.trace c.world (Phases.of phase) := by
  have only := started.only
  have noFailure : failedAttempts c.trace = [] := by
    refine List.rdropWhile_eq_nil_iff.mpr fun label member => ?_
    rw [requeues, (only.trace label member).1]
    rfl
  obtain ⟨position, first⟩ := started.announced streaming
  have done := only.api
  rw [started.finished] at done
  obtain ⟨pushed, elapsed, _, job, _⟩ := done
  have stored : ∀ found, c.world.snapshot = some found → found = ⟨enqueued settings new pushed,
      { llmCall := some (enqueued settings new elapsed) }, none⟩ := by
    intro found same
    rw [World.snapshot, job] at same
    exact (Option.some.inj same).symm
  refine ⟨events, ?_, ?_, ?_, c.world.events, ?_, ?_⟩
  · rw [only.worker]
    trivial
  · intro found same
    obtain rfl := stored found same
    exact ⟨streaming, fun _ same => Option.some.inj same ▸ streaming⟩
  · rw [only.worker]
    trivial
  · rw [noFailure]
    rfl
  · rw [only.worker, first]
    refine ⟨⟨List.forall_mem_singleton.mpr rfl, rfl⟩, fun call found => ?_⟩
    rw [World.record, job] at found
    cases found
    exact CallStatus.noConfusion

/-- A streaming job that ends completed, run by the worker alone, whatever raises in it: a
    client that reads the stream to its end gathers the tokens it is sent. Where no attempt
    that failed had announced an end, they are the job's result just when none had published
    a non-empty token. -/
theorem streamed_reply_iff {c d : System} {start timeout : Timestamp} {replies : List XreadReply}
    (mode : String) (streaming : new.callType = .streamingTextGeneration)
    (enqueued : Enqueued settings new polls env c) (run : machine.Reach workerAlone c d)
    (ended : ∃ out, d.program .worker = .done out) (completed : d.world.storedStatus = some .completed)
    (served : Served d.world.events timeout { deadline := start + timeout } replies)
    (finished : (streamLlmEvents start timeout replies).ending = .finished) :
    let events := (streamLlmEvents start timeout replies).yielded
    (Agent.drainHandler mode {} (events.map .event)).assistantReply = joinTokens events ∧
      (OpenFailures d.trace →
        ((∃ call, d.world.record = some call ∧ call.result = .str (joinTokens events)) ↔
          SilentFailures d.trace)) := by
  have follows := streamLlmEvents_follows served
  obtain ⟨before, final, yields, _, earlier⟩ := follows.stops finished
  intro events
  refine ⟨?_, fun openFailures => ?_⟩
  · rw [show events = before ++ [final] from yields, drainHandler_reply, String.empty_append]
    exact fun event member => (Bool.or_eq_false_iff.mp (earlier event member)).1
  · obtain ⟨startPhase, started⟩ := enqueued.started
    obtain ⟨phase, tracked, _, inv⟩ := attemptStream_preserved.reach_booked run started.tracked started.booked
      (started.streamed streaming (reached_published enqueued.1))
    have atEnd : (Phases.of phase).worker.point = .ended := by
      obtain ⟨out, done⟩ := ended
      have phaseEnded := tracked .worker
      rw [done] at phaseEnded
      exact phaseEnded
    obtain ⟨current, split, shown⟩ := inv.shown
    rw [atEnd] at shown
    obtain ⟨call, found, isCompleted⟩ := Option.map_eq_some_iff.mp completed
    obtain ⟨⟨during, last, rfl, terminal, done, isOpen⟩, result⟩ := shown call found isCompleted
    have once : EndsOnce d.world.events := by
      refine ⟨published (failedAttempts d.trace) ++ during, last, ?_, terminal, done, openFailures.append isOpen⟩
      rw [split, List.append_assoc]
    have whole : events = d.world.events := follows.whole finished once
    rw [whole, split, joinTokens_append]
    have same : SilentFailures d.trace ↔ Json.str (joinTokens (published (failedAttempts d.trace)) ++
        joinTokens (during ++ [last])) = call.result := by
      rw [result, Json.str.injEq, String.append_eq_right_iff]
      rfl
    rw [same]
    constructor
    · rintro ⟨other, record, result⟩
      obtain rfl := Option.some.inj (found.symm.trans record)
      exact result.symm
    · exact fun result => ⟨call, found, result.symm⟩

/-- One answer that holds a short stream as a whole. -/
def wholeRead (events : List Dict) : List XreadReply := [⟨(entriesAfter events 0).take 20, 0⟩]

theorem served_wholeRead {events : List Dict} {timeout : Timestamp} :
    Served events timeout { deadline := 0 + timeout } (wholeRead events) :=
  ⟨⟨20, Nat.le_refl _, rfl⟩, trivial⟩

/-- A job whose first attempt fails before it has shown anything is read as it was answered. -/
theorem streamed_reply_iff_demo : ∃ d : System, ∃ call, d.world.reruns = 1 ∧
    d.world.storedStatus = some .completed ∧ d.world.record = some call ∧
      call.result = .str (joinTokens (streamLlmEvents 0 1 (wholeRead d.world.events)).yielded) := by
  obtain ⟨c, enqueued, run⟩ := enqueued_observed demoSettings (demoCall .streamingTextGeneration)
    (fun _ => 0) storeFailsOnce (List.replicate 10 .api)
    (fun c => (machine.schedule workerAlone (List.replicate 68 .worker) c).map fun d =>
      (((returnedBy .worker d).map LLMCallJob.status, d.world.reruns, d.world.storedStatus),
        (streamLlmEvents 0 1 (wholeRead d.world.events)).ending,
        (published (failedAttempts d.trace)).any isTerminalEvent,
        joinTokens (published (failedAttempts d.trace))))
    ((some .completed, 1, some .completed), .finished, false, "") (by decide +kernel) (by decide +kernel)
  obtain ⟨d, scheduled, seen⟩ := Option.map_eq_some_iff.mp run
  obtain ⟨job, stream⟩ := Prod.mk.inj seen
  obtain ⟨returned, job⟩ := Prod.mk.inj job
  obtain ⟨reruns, completed⟩ := Prod.mk.inj job
  obtain ⟨finished, stream⟩ := Prod.mk.inj stream
  obtain ⟨unended, silent⟩ := Prod.mk.inj stream
  obtain ⟨_, returned, _⟩ := Option.map_eq_some_iff.mp returned
  have openFailures : OpenFailures d.trace := fun event member =>
    Bool.eq_false_iff.mpr (List.any_eq_false.mp unended event member)
  obtain ⟨call, record, result⟩ := ((streamed_reply_iff "" rfl enqueued (Machine.schedule_reach scheduled)
    ⟨_, returnedBy_eq_some.mp returned⟩ completed served_wholeRead finished).2 openFailures).mpr silent
  exact ⟨d, call, reruns, completed, record, result⟩

/-- The first attempt breaks off after a token, which the client keeps. -/
theorem streamed_reply_differs : ∃ c d : System,
    Enqueued demoSettings (demoCall .streamingTextGeneration) (fun _ => 0) brokenStream c ∧
      machine.Reach workerAlone c d ∧ (∃ out, d.program .worker = .done out) ∧
      d.world.storedStatus = some .completed ∧
      (streamLlmEvents 0 1 (wholeRead d.world.events)).ending = .finished ∧
      ¬∃ call, d.world.record = some call ∧
        call.result = .str (joinTokens (streamLlmEvents 0 1 (wholeRead d.world.events)).yielded) := by
  obtain ⟨c, enqueued, run⟩ := enqueued_observed demoSettings (demoCall .streamingTextGeneration)
    (fun _ => 0) brokenStream (List.replicate 10 .api)
    (fun c => (machine.schedule workerAlone (List.replicate 86 .worker) c).map fun d =>
      ((returnedBy .worker d).map LLMCallJob.status, d.world.storedStatus,
        (streamLlmEvents 0 1 (wholeRead d.world.events)).ending,
        joinTokens (streamLlmEvents 0 1 (wholeRead d.world.events)).yielded,
        d.world.record.bind fun call => call.result.str?))
    (some .completed, some .completed, .finished, "rereply", some "reply") (by decide +kernel)
    (by decide +kernel)
  obtain ⟨d, scheduled, seen⟩ := Option.map_eq_some_iff.mp run
  obtain ⟨returned, rest⟩ := Prod.mk.inj seen
  obtain ⟨completed, rest⟩ := Prod.mk.inj rest
  obtain ⟨finished, rest⟩ := Prod.mk.inj rest
  obtain ⟨tokens, text⟩ := Prod.mk.inj rest
  obtain ⟨_, returned, _⟩ := Option.map_eq_some_iff.mp returned
  refine ⟨c, d, enqueued, Machine.schedule_reach scheduled, ⟨_, returnedBy_eq_some.mp returned⟩,
    completed, finished, ?_⟩
  rintro ⟨call, record, result⟩
  rw [record, Option.bind_some, result, tokens] at text
  exact absurd (Option.some.inj text) (by decide)

end Runs

end LanguageAgent.Queue
