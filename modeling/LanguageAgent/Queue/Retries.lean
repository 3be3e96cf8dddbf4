import LanguageAgent.Queue.EventLog
import LanguageAgent.Queue.Solo

/-! # The worker's retry bookkeeping and RQ's

Two counters decide whether a failed job is run again: the one RQ keeps and the one in
the record. They agree along every run of the worker alone.
-/

namespace LanguageAgent.Queue

open Interleaving

/-! ## The log at each point -/

/-- The events of the stream at each point of an attempt of a streaming job. -/
def WorkerPoint.Log (left : Nat) (log : List Dict) : WorkerPoint → Prop
  | .idle | .popped | .fetched _ | .started _ | .starting _ | .announcing _ => RetriedLog log
  | .ready _ | .serving _ | .streamSaved _ => ∃ earlier processing,
      RetriedLog earlier ∧ announces .processing processing ∧ log = earlier ++ [processing]
  | .opening _ | .reading _ _ _ _ | .publishing _ _ _ _ _ | .checking _ _ _ _ | .answered _
  | .deciding _ | .doneDue _ => ∃ earlier processing streaming tokens,
      RetriedLog earlier ∧ announces .processing processing ∧ announces .streaming streaming ∧
        (∀ event ∈ tokens, carriesToken event) ∧ log = earlier ++ processing :: streaming :: tokens
  | .faulted _ | .retryDue _ | .failDue _ => ∃ earlier attempt,
      RetriedLog earlier ∧ AttemptLog attempt ∧ log = earlier ++ attempt
  | .raised _ _ => left ≠ 0 ∧ RetriedLog log ∨ left = 0 ∧ JobLog log
  | .returning _ _ | .ended => JobLog log
  | _ => False

/-- The stream as the worker has extended it since the job was announced. -/
def StreamLog (first : Dict) (w : World) (p : Phases) : Prop :=
  ∃ log, w.events = first :: log ∧ p.worker.point.Log p.worker.left log

section Steps

variable {settings : Settings} {new : NewCall} {w w' : World} {left reruns : Nat}
  {point after : WorkerPoint} {command : Command} {reply : command.Reply} {job : Snapshot}
  {log : List Dict} {copy : Copy}

private theorem status_announced {call : LLMCallJob} {status : CallStatus} (same : call.status = status) :
    announces status (buildStreamEvent call []) := by
  subst same
  have absent : ∀ key, ∀ entry ∈ ([] : Dict), entry.1 ≠ key := fun _ _ member => by cases member
  exact ⟨buildStreamEvent_status (absent _), buildStreamEvent_done (absent _),
    buildStreamEvent_token (absent _)⟩

private theorem token_carried {call : LLMCallJob} {token : String} (streaming : call.status = .streaming) :
    carriesToken (buildStreamEvent call [("token", .str token)]) := by
  refine ⟨?_, buildStreamEvent_done (by simp), token, rfl⟩
  rw [buildStreamEvent_status (by simp), streaming]

private theorem retry_announced {call : LLMCallJob} {message : String} (queued : call.status = .queued) :
    announces .queued (buildStreamEvent call
      [("message", .str message), ("error", .null), ("done", .bool false)]) := by
  refine ⟨?_, rfl, rfl⟩
  rw [buildStreamEvent_status (by simp), queued]

private theorem failure_ends {call : LLMCallJob} {message : Json} {error : String}
    (failed : call.status = .failed) :
    endsJob (buildStreamEvent call
      [("message", message), ("error", .str error), ("done", .bool true)]) := by
  refine ⟨rfl, .failed, rfl, ?_⟩
  rw [buildStreamEvent_status (by simp), failed]

private theorem completion_ends {call : LLMCallJob} (completed : call.status = .completed) :
    endsJob (buildStreamEvent call [("done", .bool true)]) := by
  refine ⟨rfl, .completed, rfl, ?_⟩
  rw [buildStreamEvent_status (by simp), completed]

private theorem append_save {saved : JobMeta} : log ++ (Command.saveMeta saved).appends = log :=
  List.append_nil log

/-- The stream keeps its shape through every move of a streaming attempt. -/
theorem AttemptMoves.log_step (move : AttemptMoves settings point command reply after)
    (streaming : new.callType = .streamingTextGeneration) (calm : w.env.Calm)
    (answered : exec .worker command w = some (reply, w'))
    (solo : point.Solo new left reruns job)
    (soloAfter : ∃ reruns job, after.Solo new left reruns job) (before : point.Log left log) :
    after.Log left (log ++ command.appends) := by
  obtain ⟨_, _, soloAfter⟩ := soloAfter
  cases move with
  | neutral neutral => rw [Command.appends_neutral neutral, List.append_nil]; exact before
  | interrupted | interruptedLoop => exact (not_interrupted calm answered).elim
  | missing | startInvalid | startUnreadable | startCancelled | checkUnreadable | checkCancelled
  | finalCancelled => exact soloAfter.elim
  | closeFaulted | closeCancelled | announceCancelled | announceRefused | saveCancelled
  | saveRefused => exact before.elim
  | ask structured | askRefused structured | askFailed structured =>
      cases (structured.symm.trans solo.live.callType).trans streaming
  | generate plain | generateFailed plain =>
      cases (plain.symm.trans solo.live.callType).trans streaming
  | saveProcessing =>
      rw [WorkerPoint.whenStreaming_streaming (solo.1.callType.trans streaming), append_save]
      exact before
  | announceProcessing => exact ⟨log, _, before, status_announced solo.status, rfl⟩
  | loadFailed =>
      obtain ⟨earlier, processing, retried, first, rfl⟩ := before
      exact ⟨earlier, [processing], retried, .unanswered first, List.append_nil _⟩
  | announceStreaming =>
      obtain ⟨earlier, processing, retried, first, rfl⟩ := before
      refine ⟨earlier, processing, _, [], retried, first, status_announced solo.status, ?_, ?_⟩
      · intro event member
        cases member
      · simp only [Command.appends, List.append_assoc, List.cons_append, List.nil_append]
  | @publish copy parts token pending ending =>
      obtain ⟨earlier, processing, second, tokens, retried, first, following, carried, rfl⟩ := before
      refine ⟨earlier, processing, second,
        tokens ++ [buildStreamEvent copy.call [("token", .str token)]], retried, first, following, ?_, ?_⟩
      · intro event member
        rcases List.mem_append.mp member with earlier | last
        · exact carried event earlier
        · obtain rfl := List.mem_singleton.mp last
          exact token_carried solo.status
      · simp only [Command.appends, List.append_assoc, List.cons_append]
  | closeBroken | finalUnreadable =>
      obtain ⟨earlier, processing, second, tokens, retried, first, following, carried, rfl⟩ := before
      exact ⟨earlier, _, retried, .streamed first following carried, List.append_nil _⟩
  | @saveCompleted copy elapsed now =>
      obtain ⟨_, asking, _, stored, same⟩ := solo
      have streaming : copy.call.callType = .streamingTextGeneration := by
        rw [same]
        exact stored.live.callType.trans streaming
      rw [WorkerPoint.whenStreaming_streaming streaming, append_save]
      exact before
  | announceDone =>
      obtain ⟨earlier, processing, second, tokens, retried, first, following, carried, rfl⟩ := before
      rw [Command.appends, List.append_assoc]
      exact retried.job (.last (.streamed first following carried) (completion_ends solo.2))
  | saveRetry | saveFailed =>
      obtain ⟨_, stored⟩ := solo
      rw [WorkerPoint.whenStreaming_streaming (stored.live.callType.trans streaming), append_save]
      exact before
  | announceRetry =>
      obtain ⟨granted, _, queued, _⟩ := solo
      obtain ⟨earlier, attempt, retried, attempted, rfl⟩ := before
      rw [Command.appends, List.append_assoc]
      exact .inl ⟨granted, retried.again attempted (retry_announced queued)⟩
  | announceFailed =>
      obtain ⟨⟨spent, _⟩, failed⟩ := solo
      obtain ⟨earlier, attempt, retried, attempted, rfl⟩ := before
      rw [Command.appends, List.append_assoc]
      exact .inr ⟨spent, retried.job (.last attempted (failure_ends failed))⟩
  | _ =>
      simp only [Command.appends, List.append_nil]
      exact before

end Steps

/-! ## Runs -/

/-- The worker takes the job from the queue. -/
def startsAttempt (label : Label signature Party) : Bool :=
  match label.party, label.command with
  | .worker, .pop => true
  | _, _ => false

def attempts (trace : Trace) : Nat := trace.countP startsAttempt

/-- The attempt under way, if one is. -/
def WorkerPoint.taken : WorkerPoint → Nat
  | .idle => 0
  | _ => 1

/-- Every attempt but the one under way has been counted as a re-run. -/
def Counted (trace : Trace) (w : World) (p : Phases) : Prop :=
  attempts trace = w.reruns + p.worker.point.taken

section Runs

variable {settings : Settings} {new : NewCall} {polls : Nat → Nat} {env : Environment} {first : Dict}

theorem streamLog_preserved (calm : env.Calm) (streaming : new.callType = .streamingTextGeneration) :
    Preserved settings new workerAlone
      (fun trace w p => Booked settings trace w p ∧ Solo new env w p)
      (fun _ w p => StreamLog first w p) where
  api _ _ alone := by cases alone
  cancel _ _ alone := by cases alone
  wait _ _ alone := by cases alone
  reaper _ _ alone := by cases alone
  worker := by
    intro trace w p command reply w' after given log alone move answered
    have next := (solo_preserved calm).worker given.1 given.2 alone move answered
    obtain ⟨log, events, shape⟩ := log
    refine ⟨log ++ command.appends, by rw [exec_appends answered, events]; rfl, ?_⟩
    obtain ⟨api, worker, cancel, wait⟩ := p
    obtain ⟨job, _, solo⟩ := given.2.point
    obtain ⟨job', _, soloAfter⟩ := next.point
    cases move with
    | attempt move =>
        have calm : w.env.Calm := by rw [given.2.env]; exact calm
        exact move.log_step streaming calm answered solo ⟨_, _, soloAfter⟩ shape
    | requeue =>
        simp only [Command.appends, List.append_nil]
        rcases shape with ⟨_, retried⟩ | ⟨none, _⟩
        · exact retried
        · cases none
    | giveUp =>
        simp only [Command.appends, List.append_nil]
        rcases shape with ⟨granted, _⟩ | ⟨_, job⟩
        · exact absurd rfl granted
        · exact job

/-- A move within an attempt takes the job or stays in the attempt. -/
private theorem AttemptMoves.taken {point after : WorkerPoint} {command : Command}
    {reply : command.Reply} (move : AttemptMoves settings point command reply after) :
    after.taken = point.taken + if startsAttempt ⟨.worker, command⟩ then 1 else 0 := by
  cases move with
  | neutral neutral => cases command <;> first | rfl | exact absurd neutral Bool.false_ne_true
  | @uninterrupted point => cases point <;> rfl
  | interrupted held | interruptedLoop held => cases point <;> first | rfl | cases held
  | saveProcessing | saveCompleted | saveRefused | saveRetry | saveFailed =>
      unfold WorkerPoint.whenStreaming
      split <;> rfl
  | _ => rfl

theorem counted_preserved {Given : Property} :
    Preserved settings new workerAlone Given Counted where
  api _ _ alone := by cases alone
  cancel _ _ alone := by cases alone
  wait _ _ alone := by cases alone
  reaper _ _ alone := by cases alone
  worker := by
    intro trace w p command reply w' after _ counted _ move answered
    obtain ⟨api, worker, cancel, wait⟩ := p
    unfold Counted attempts at counted ⊢
    rw [List.countP_append, counted, List.countP_singleton]
    cases move with
    | attempt move =>
        simp only [move.reruns answered, move.taken]
        omega
    | requeue =>
        obtain ⟨_, reruns⟩ := snapshot_requeue answered
        rw [reruns]
        rfl
    | giveUp =>
        obtain ⟨_, reruns⟩ := snapshot_kept rfl answered
        rw [reruns]
        rfl

/-- RQ decides what becomes of the job. -/
def Command.settles : Command → Bool
  | .requeue _ | .giveUp | .finish _ => true
  | _ => false

/-- What RQ decides is what the attempt has stored. -/
private theorem WorkerMoves.settled {w : World} {p : Phases} {command : Command}
    {reply : command.Reply} {after : WorkerPhase} (solo : Solo new env w p)
    (move : WorkerMoves settings p.worker command reply after) (settles : command.settles = true) :
    ((∃ saved, command = .requeue saved) ↔ w.storedStatus = some .queued) ∧
      ((command = .giveUp ∨ ∃ result, command = .finish result ∧ result.status = .failed) ↔
        w.storedStatus = some .failed) := by
  obtain ⟨job, stored, solo⟩ := solo.point
  have status : ∀ {call : LLMCallJob}, job.jobMeta.llmCall = some call →
      w.storedStatus = some call.status := by
    intro call record
    rw [World.storedStatus, World.record_eq, stored, Option.bind_some, record]
    rfl
  obtain ⟨api, worker, cancel, wait⟩ := p
  cases move with
  | attempt move =>
      cases move with
      | neutral neutral =>
          cases command <;> first
            | exact absurd neutral Bool.false_ne_true
            | exact absurd settles Bool.false_ne_true
      | @finish copy inTry elapsed =>
          have same : (copy.call.withElapsed elapsed).status = copy.call.status := rfl
          rcases solo with ⟨record, ended⟩ | ⟨⟨record, ended⟩, _⟩
          · simp [status record, ended, same]
          · simp [status record, ended, same]
      | _ => exact absurd settles Bool.false_ne_true
  | @requeue left saved =>
      cases saved with
      | none => exact solo.elim
      | some saved =>
          rcases solo with ⟨_, ⟨call, record, queued, _⟩, _⟩ | ⟨none, _⟩
          · simp [status record, queued]
          · cases none
  | @giveUp saved =>
      cases saved with
      | none => exact solo.elim
      | some saved =>
          rcases solo with ⟨granted, _⟩ | ⟨_, call, record, failed⟩
          · exact absurd rfl granted
          · simp [status record, failed]

/-- The worker never has to wait. -/
private theorem WorkerMoves.enabled {w : World} {p : Phases} {command : Command}
    {reply : command.Reply} {after : WorkerPhase} (solo : Solo new env w p)
    (move : WorkerMoves settings p.worker command reply after) :
    ∃ answer, exec .worker command w = some answer := by
  have present : ¬(Party.worker = .worker ∧ w.workerLost = true) := by simp [solo.present]
  unfold exec
  rw [if_neg present]
  obtain ⟨api, worker, cancel, wait⟩ := p
  cases move with
  | attempt move =>
      cases move with
      | neutral neutral => cases command <;> first | exact ⟨_, rfl⟩ | exact absurd neutral Bool.false_ne_true
      | pop => exact ⟨_, if_pos (solo.queued rfl)⟩
      | _ => exact ⟨_, rfl⟩
  | requeue | giveUp => exact ⟨_, rfl⟩

/-- Every stream of a job under way can still be brought to its end. -/
private theorem WorkerPoint.Log.completes {point : WorkerPoint} {left : Nat} {log : List Dict}
    (call : LLMCallJob) (shape : point.Log left log) : ∃ rest, JobLog (log ++ rest) := by
  have processing : announces .processing (buildStreamEvent { call with status := .processing } []) :=
    status_announced rfl
  have ends : endsJob (buildStreamEvent { call with status := .completed } [("done", .bool true)]) :=
    completion_ends rfl
  have fresh : ∀ {log}, RetriedLog log → ∃ rest, JobLog (log ++ rest) := fun retried =>
    ⟨_, retried.job (.last (.unanswered processing) ends)⟩
  have begun : ∀ {earlier attempt}, RetriedLog earlier → AttemptLog attempt →
      ∃ rest, JobLog (earlier ++ attempt ++ rest) := fun retried attempted =>
    ⟨_, by rw [List.append_assoc]; exact retried.job (.last attempted ends)⟩
  have ended : ∀ {log}, JobLog log → ∃ rest, JobLog (log ++ rest) := fun job =>
    ⟨[], by rw [List.append_nil]; exact job⟩
  cases point with
  | idle | popped | fetched | started | starting | announcing => exact fresh shape
  | ready | serving | streamSaved =>
      obtain ⟨earlier, _, retried, first, rfl⟩ := shape
      exact begun retried (.unanswered first)
  | opening | reading | publishing | checking | answered | deciding | doneDue =>
      obtain ⟨earlier, _, _, _, retried, first, second, carried, rfl⟩ := shape
      exact begun retried (.streamed first second carried)
  | faulted | retryDue | failDue =>
      obtain ⟨earlier, attempt, retried, attempted, rfl⟩ := shape
      exact begun retried attempted
  | raised =>
      rcases shape with ⟨_, retried⟩ | ⟨_, job⟩
      · exact fresh retried
      · exact ended job
  | returning | ended => exact ended shape
  | closing | stopping | cancelDue | refused | refusalDue => exact shape.elim

private theorem replies (command : Command) : Nonempty command.Reply := by
  cases command with
  | utcnow => exact ⟨(0 : Int)⟩
  | queueDepth | activeJobCount => exact ⟨(0 : Nat)⟩
  | readMetrics => exact ⟨fun _ => none⟩
  | jobPosition | fetchJob | interrupt | loadService => exact ⟨none⟩
  | jobStatus => exact ⟨JobStatus.queued⟩
  | askModel => exact ⟨.ok .null⟩
  | generateText => exact ⟨.ok ""⟩
  | openStream => exact ⟨⟨[], none⟩⟩
  | _ => exact ⟨()⟩

/-- Where the worker is about to issue a command, it is one of its moves. -/
private theorem next_move {d : System} {phase : ∀ party, Phase party} {command : Command}
    {next : command.Reply → Program signature Outcome} (tracked : Tracked settings new d phase)
    (issues : d.program .worker = .issue command next) :
    ∃ reply after, WorkerMoves settings (Phases.of phase).worker command reply after := by
  obtain ⟨reply⟩ := replies command
  have obeys := tracked .worker
  rw [issues] at obeys
  obtain ⟨after, move, _⟩ := obeys reply
  exact ⟨reply, after, move⟩

private theorem Started.counted {c : System} {phase : ∀ party, Phase party}
    (started : Started settings new env c phase) : Counted c.trace c.world (Phases.of phase) := by
  have only := started.only
  have none : attempts c.trace = 0 := by
    refine List.countP_eq_zero.mpr fun label member starts => ?_
    rw [startsAttempt, (only.trace label member).1] at starts
    exact absurd starts Bool.false_ne_true
  rw [Counted, none, only.untouched.reruns, only.worker]
  rfl

/-- When the API has returned, the stream of a streaming job announces it. -/
theorem Started.announced {c : System} {phase : ∀ party, Phase party}
    (streaming : new.callType = .streamingTextGeneration)
    (started : Started settings new env c phase) :
    ∃ position, c.world.events = [queuedEvent new.jobId position] := by
  have done := started.only.api
  rw [started.finished] at done
  obtain ⟨_, _, position, _, _, events⟩ := done
  exact ⟨position, by rw [events, Queue.announced, if_pos streaming]⟩

theorem Started.streamLog {c : System} {phase : ∀ party, Phase party}
    (started : Started settings new env c phase) (events : c.world.events = [first]) :
    StreamLog first c.world (Phases.of phase) := by
  refine ⟨[], events, ?_⟩
  rw [started.only.worker]
  exact .start

/-- The worker alone, from an enqueued job on, with only the model call raising. It never
    stops before RQ is through with the job; RQ runs the job again just when the attempt
    stored it as queued, and no more when it stored it as failed; it is attempted at most
    once more than RQ grants re-runs; and the stream of a streaming job grows into attempts
    closed by a retry each and by one last event. -/
theorem retries_agree {c d : System} (calm : env.Calm) (enqueued : Enqueued settings new polls env c)
    (run : machine.Reach workerAlone c d) :
    ((∃ out, d.program .worker = .done out) ∨ ∃ e, machine.Step workerAlone d e) ∧
    (∀ command next, d.program .worker = .issue command next → command.settles = true →
      ((∃ saved, command = .requeue saved) ↔ d.world.storedStatus = some .queued) ∧
      ((command = .giveUp ∨ ∃ result, command = .finish result ∧ result.status = .failed) ↔
        d.world.storedStatus = some .failed)) ∧
    (attempts d.trace : Int) ≤ max settings.llmJobMaxRetries 0 + 1 ∧
    (new.callType = .streamingTextGeneration → ∃ position log,
      d.world.events = queuedEvent new.jobId position :: log ∧ (∃ rest, JobLog (log ++ rest)) ∧
        ((∃ out, d.program .worker = .done out) → JobLog log ∧ EndsOnce log)) := by
  obtain ⟨start, started⟩ := enqueued.started
  obtain ⟨phase, tracked, booked, solo, counted⟩ :=
    ((solo_preserved calm).and counted_preserved).reach_booked run started.tracked started.booked
      ⟨started.solo, started.counted⟩
  refine ⟨?_, ?_, ?_, fun streaming => ?_⟩
  · cases issues : d.program .worker with
    | done out => exact .inl ⟨out, rfl⟩
    | issue command next =>
        obtain ⟨_, _, move⟩ := next_move tracked issues
        obtain ⟨⟨reply, world⟩, answered⟩ := move.enabled solo
        exact .inr ⟨_, .issue issues rfl answered⟩
  · intro command next issues settles
    obtain ⟨_, _, move⟩ := next_move tracked issues
    exact move.settled solo settles
  · have budget := booked.1.worker.budget
    have taken : (Phases.of phase).worker.point.taken ≤ 1 := by
      unfold WorkerPoint.taken
      split <;> omega
    unfold Counted at counted
    unfold rqRetries at budget
    omega
  · obtain ⟨position, events⟩ := started.announced streaming
    obtain ⟨phase, tracked, _, _, log, events, shape⟩ :=
      ((solo_preserved calm).and (streamLog_preserved calm streaming)).reach_booked run
        started.tracked started.booked ⟨started.solo, started.streamLog events⟩
    refine ⟨position, log, events, shape.completes new.toCall, fun ⟨out, done⟩ => ?_⟩
    have ended := tracked .worker
    rw [done] at ended
    have ended : (Phases.of phase).worker.point = .ended := ended
    rw [ended] at shape
    exact ⟨shape, JobLog.endsOnce shape⟩

/-- A job whose first stream breaks off is run once more, and its stream ends once. -/
theorem retries_agree_demo : ∃ d : System, d.world.reruns = 1 ∧ (attempts d.trace : Int) ≤ 3 ∧
    ∃ position log, d.world.events = queuedEvent "job" position :: log ∧ JobLog log ∧ EndsOnce log := by
  obtain ⟨c, enqueued, run⟩ := enqueued_observed demoSettings (demoCall .streamingTextGeneration)
    (fun _ => 0) brokenStream (List.replicate 10 .api)
    (fun c => (machine.schedule workerAlone (List.replicate 86 .worker) c).map fun d =>
      ((returnedBy .worker d).map LLMCallJob.status, d.world.reruns))
    (some .completed, 1) (by decide +kernel) (by decide +kernel)
  obtain ⟨d, scheduled, seen⟩ := Option.map_eq_some_iff.mp run
  obtain ⟨returned, reruns⟩ := Prod.mk.inj seen
  obtain ⟨call, returned, _⟩ := Option.map_eq_some_iff.mp returned
  obtain ⟨_, _, bounded, stream⟩ :=
    retries_agree (fun _ => rfl) enqueued (Machine.schedule_reach scheduled)
  obtain ⟨position, log, events, _, whole⟩ := stream rfl
  exact ⟨d, reruns, bounded, position, log, events, whole ⟨_, returnedBy_eq_some.mp returned⟩⟩

end Runs

end LanguageAgent.Queue
