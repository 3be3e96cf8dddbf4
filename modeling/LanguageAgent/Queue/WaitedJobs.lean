import LanguageAgent.Queue.Verdicts

/-! # What a waiter is given

In every run in which the ends of a job are kept, a waiter is given a job that has ended.
-/

namespace LanguageAgent.Queue

open Interleaving

/-! ## Steps -/

section Steps

variable {settings : Settings} {new : NewCall} {trace : Trace} {w w' : World} {p p' : Phases} {f : RQJob → RQJob}
  {phase : WorkerPhase}

theorem Holds.of_map {P : RQJob → Prop} {stored : Option RQJob} (holds : Holds P (stored.map f)) :
    Holds (fun job => P (f job)) stored := by
  obtain ⟨_, found, holds⟩ := holds
  obtain ⟨job, present, rfl⟩ := Option.map_eq_some_iff.mp found
  exact ⟨job, present, holds⟩

/-- What the others know of a job survives what is done to it. -/
theorem Verdicts.of_map (inv : Verdicts w p) (job : w'.job = w.job.map f)
    (queued : w'.queued = true → w.queued = true ∨ w.job.isSome = true)
    (agrees : ∀ job, w.job = some job → (f job).Agrees)
    (cancelled : ∀ job, w.job = some job → job.Cancelled → (f job).Cancelled)
    (settled : ∀ job, w.job = some job → job.Settled → (f job).Settled)
    (worker : WorkerKnows w' p'.worker)
    (cancel : ∀ call, p'.cancel call = p.cancel call ∨ (p'.cancel call).Knows w'.job)
    (wait : ∀ call, p'.wait call = p.wait call ∨ (p'.wait call).Knows w'.job) : Verdicts w' p' where
  job := by
    rw [job]
    intro after found
    obtain ⟨before, present, rfl⟩ := Option.map_eq_some_iff.mp found
    exact agrees before present
  queued := by
    rw [job, Option.isSome_map]
    exact fun away => (queued away).elim inv.queued id
  worker := worker
  cancel call := (cancel call).elim
    (fun same => by rw [same, job]; exact (inv.cancel call).imp fun holds => holds.map cancelled) id
  wait call := (wait call).elim
    (fun same => by rw [same, job]; exact (inv.wait call).imp fun holds => holds.map settled) id

/-- What the worker knows of a job survives what others do to it. -/
theorem WorkerKnows.of_map (knows : WorkerKnows w phase) (job : w'.job = w.job.map f) (reruns : w'.reruns = w.reruns)
    (running : w'.running = true → w.running = true)
    (unreadable : ∀ job, w.job = some job → job.Unreadable → (f job).Unreadable)
    (spent : ∀ job, w.job = some job → job.Spent → (f job).Spent)
    (pending : phase.Pending → ∀ job call, w'.snapshot = some job → job.jobMeta.llmCall = some call →
      call.cancelRequested = false → call.validates = true →
        (w.reruns + phase.point.uncounted : Nat) ≤ job.jobMeta.retries call)
    (recorded : w'.record = none → w.record = none)
    (failed : ∀ job, w.job = some job → (f job).status = .failed → job.status = .failed ∨ w'.workerLost = true)
    (lost : w.workerLost = true → w'.workerLost = true) : WorkerKnows w' phase where
  point := by
    rw [job, reruns]
    refine knows.point.imp ?_ (fun holds => holds.map unreadable) (fun holds => holds.map spent)
    rw [Option.isSome_map]
    exact id
  counted := by
    rw [reruns]
    exact knows.counted
  pending := by
    rw [reruns]
    exact pending
  unrecorded none := by
    rw [reruns]
    exact knows.unrecorded (recorded none)
  failed := by
    rw [job]
    intro holds
    obtain ⟨before, present, status⟩ := holds.of_map
    rcases failed before present status with already | gone
    · exact (knows.failed ⟨before, present, already⟩).imp id lost
    · exact .inr gone
  running away := knows.running (running away)

/-- What a command of an attempt does to the job. -/
theorem AttemptMoves.touches {point after : WorkerPoint} {command : Command} {reply : command.Reply}
    (move : AttemptMoves settings point command reply after) (answered : exec .worker command w = some (reply, w')) :
    w'.job = w.job ∨ (∃ saved, command = .saveMeta saved ∧ w'.job = w.job.map (RQJob.withMeta saved)) ∨
      (∃ read, point = .fetched read ∧ w'.job = w.job.map (RQJob.withStatus .started)) ∨
      ∃ copy inTry elapsed, point = .returning copy inTry ∧ after = .ended ∧
        w'.job = w.job.map (RQJob.finishedWith (copy.call.withElapsed elapsed)) := by
  by_cases passive : command.isPassive = true
  · exact .inl (exec_passive passive answered).job
  · cases command with
    | pop =>
        obtain ⟨_, rfl⟩ := exec_pop answered
        exact .inl rfl
    | xadd event =>
        obtain rfl := exec_xadd answered
        exact .inl rfl
    | saveMeta saved =>
        obtain rfl := exec_saveMeta answered
        exact .inr (.inl ⟨saved, rfl, rfl⟩)
    | setStatus status =>
        obtain rfl := exec_setStatus answered
        cases move with
        | neutral neutral => cases neutral
        | start | startInvalid => exact .inr (.inr (.inl ⟨_, rfl, rfl⟩))
    | finish result =>
        obtain rfl := exec_finish answered
        cases move with
        | neutral neutral => cases neutral
        | finish => exact .inr (.inr (.inr ⟨_, _, _, rfl, rfl, rfl⟩))
    | push | remove | requeue | giveUp | abandon =>
        cases move with
        | neutral neutral => cases neutral
    | _ => exact absurd rfl passive

/-- An attempt that has ended does nothing more. -/
theorem AttemptMoves.from_ended {point after : WorkerPoint} {command : Command} {reply : command.Reply}
    (move : AttemptMoves settings point command reply after) (ended : point = .ended) : after = .ended := by
  subst ended
  cases move with
  | neutral | uninterrupted => rfl
  | interrupted held | interruptedLoop held => cases held

/-- The worker takes the job when an attempt begins, and lets go of it when it ends. -/
theorem AttemptMoves.holds_job {point after : WorkerPoint} {command : Command} {reply : command.Reply}
    (move : AttemptMoves settings point command reply after) (answered : exec .worker command w = some (reply, w'))
    (running : w.running = true → point ≠ .ended) : w'.running = true → after ≠ .ended := by
  cases move with
  | neutral neutral =>
      rw [(exec_passive (Command.isPassive_of_isNeutral neutral) answered).running]
      exact running
  | uninterrupted =>
      rw [(exec_passive rfl answered).running]
      exact running
  | finish =>
      obtain rfl := exec_finish answered
      intro away
      cases away
  | saveProcessing | saveCompleted | saveRefused | saveRetry | saveFailed =>
      exact fun _ => WorkerPoint.whenStreaming_cases (motive := fun after => after ≠ .ended) (by rintro ⟨⟩) (by rintro ⟨⟩)
  | _ => exact fun _ => by rintro ⟨⟩

theorem AttemptMoves.worker_knows {point after : WorkerPoint} {command : Command} {reply : command.Reply} {left : Nat}
    (move : AttemptMoves settings point command reply after) (answered : exec .worker command w = some (reply, w'))
    (kept : keepsVerdicts trace w ⟨.worker, command⟩ = true) (inv : Verdicts w p) (phase : p.worker = ⟨left, point⟩)
    (booked : Bookkeeping settings w p) : WorkerKnows w' ⟨left, after⟩ := by
  have knows := inv.worker
  have ok := booked.worker
  rw [phase] at knows ok
  have reruns := move.reruns answered
  refine ⟨move.knows answered kept knows ok booked.stored inv.job inv.queued, ?_, ?_, ?_, ?_, ?_⟩
  · rw [reruns]
    refine move.counted knows.counted ?_
    rintro copy rfl rfl
    cases move with
    | startClear readable clear =>
        rw [exec_fetchJob answered] at readable
        exact knows.point (ok.unflagged readable clear)
  · intro pending job call found record unflagged valid
    rw [reruns]
    cases keeps : command.keepsRecord with
    | true =>
        have noSave : command.writes = none := by
          cases command <;> first | rfl | exact absurd keeps Bool.false_ne_true
        obtain ⟨before, uncounted⟩ := move.pending noSave ok.point pending
        rw [(snapshot_kept keeps answered).1] at found
        rw [uncounted]
        exact knows.pending before job call found record unflagged valid
    | false =>
        cases command with
        | saveMeta saved =>
            rw [(snapshot_saveMeta answered).1] at found
            obtain ⟨before, _, rfl⟩ := Option.map_eq_some_iff.mp found
            exact move.pending_saved knows.counted pending call record
        | finish =>
            cases move with
            | neutral neutral => cases neutral
            | finish => exact pending.elim
        | push | requeue =>
            cases move with
            | neutral neutral => cases neutral
        | _ => exact absurd keeps.symm Bool.false_ne_true
  · intro none
    rw [reruns]
    cases command with
    | saveMeta saved =>
        obtain ⟨⟨call, stores, _⟩, ⟨job, _, found, _⟩, _⟩ := ok.saves move
        rw [record_saveMeta answered (by rw [found]; rfl), stores] at none
        cases none
    | push | requeue =>
        cases move with
        | neutral neutral => cases neutral
    | _ =>
        rw [record_kept (by rintro _ ⟨⟩) (by rintro _ ⟨⟩) (by rintro _ ⟨⟩) answered] at none
        exact knows.unrecorded none
  · intro failed
    have present := exec_worker_present answered
    have before : Holds (fun job => job.status = .failed) w.job := by
      rcases move.touches answered with same | ⟨saved, rfl, same⟩ | ⟨_, _, same⟩ | ⟨_, _, _, _, _, same⟩
      · rwa [same] at failed
      · rw [same] at failed
        exact failed.of_map
      · rw [same] at failed
        obtain ⟨_, _, ⟨⟩⟩ := failed.of_map
      · rw [same] at failed
        obtain ⟨_, _, ⟨⟩⟩ := failed.of_map
    rcases knows.failed before with ended | lost
    · exact .inl (move.from_ended ended)
    · exact absurd (present.symm.trans lost) Bool.false_ne_true
  · exact move.holds_job answered knows.running

/-- RQ has not given up a job that the worker still holds. -/
theorem Verdicts.notFailed {command : Command} {reply : command.Reply} {job : RQJob} (inv : Verdicts w p)
    (answered : exec .worker command w = some (reply, w')) (running : p.worker.point ≠ .ended)
    (found : w.job = some job) : job.status ≠ .failed := by
  intro failed
  rcases inv.worker.failed ⟨job, found, failed⟩ with ended | lost
  · exact running ended
  · exact absurd ((exec_worker_present answered).symm.trans lost) Bool.false_ne_true

theorem exec_onQueue {party : Party} {command : Command} {reply : command.Reply} (noPush : ∀ payload, command ≠ .push payload)
    (noRequeue : ∀ saved, command ≠ .requeue saved) (answered : exec party command w = some (reply, w')) :
    w'.queued = true → w.queued = true := by
  cases keeps : command.keepsQueue with
  | true =>
      rw [exec_queued keeps answered]
      exact id
  | false =>
      cases command with
      | push payload => exact absurd rfl (noPush payload)
      | requeue saved => exact absurd rfl (noRequeue saved)
      | remove =>
          obtain rfl := exec_remove answered
          exact fun queued => absurd queued Bool.false_ne_true
      | pop =>
          obtain ⟨_, rfl⟩ := exec_pop answered
          exact fun queued => absurd queued Bool.false_ne_true
      | _ => exact absurd keeps.symm Bool.false_ne_true

theorem Verdicts.attempt {point after : WorkerPoint} {command : Command} {reply : command.Reply} {left : Nat}
    (inv : Verdicts w p) (phase : p.worker = ⟨left, point⟩) (booked : Bookkeeping settings w p)
    (kept : keepsVerdicts trace w ⟨.worker, command⟩ = true) (move : AttemptMoves settings point command reply after)
    (answered : exec .worker command w = some (reply, w')) : Verdicts w' { p with worker := ⟨left, after⟩ } := by
  have worker := move.worker_knows answered kept inv phase booked
  have queued : w'.queued = true → w.queued = true ∨ w.job.isSome = true := by
    refine fun away => .inl (exec_onQueue ?_ ?_ answered away)
    · rintro payload rfl
      cases move with
      | neutral neutral => cases neutral
    · rintro saved rfl
      cases move with
      | neutral neutral => cases neutral
  have notFailed : point ≠ .ended → ∀ job, w.job = some job → job.status ≠ .failed := by
    intro running job found
    refine inv.notFailed answered ?_ found
    rwa [phase]
  rcases move.touches answered with
    same | ⟨saved, rfl, same⟩ | ⟨read, rfl, same⟩ | ⟨copy, inTry, elapsed, rfl, rfl, same⟩
  · refine inv.of_map (same.trans Option.map_id'.symm) queued inv.job ?_ ?_ worker (fun _ => .inl rfl) fun _ => .inl rfl
    · exact fun _ _ => id
    · exact fun _ _ => id
  · have running : point ≠ .ended := by
      rintro rfl
      cases move with
      | neutral neutral => cases neutral
    have keeps : ∀ job, w.job = some job → keepsVerdict job.jobMeta.llmCall saved.llmCall = true := by
      intro job found
      have kept : keepsVerdict w.record saved.llmCall = true := kept
      rwa [World.record, found] at kept
    refine inv.of_map same queued ?_ ?_ ?_ worker (fun _ => .inl rfl) fun _ => .inl rfl
    · exact fun job found => (inv.job job found).withMeta (keeps job found) fun failed =>
        absurd failed (notFailed running job found)
    · exact fun job found cancelled => cancelled.withMeta (keeps job found)
    · exact fun job found settled => settled.withMeta (keeps job found)
  · refine inv.of_map same queued ?_ ?_ ?_ worker (fun _ => .inl rfl) fun _ => .inl rfl
    · exact fun job found => (inv.job job found).goesOn (.inl rfl)
    · exact fun _ _ => id
    · exact fun job found settled => settled.goesOn (notFailed (by rintro ⟨⟩) job found)
  · have terminal : copy.call.status.isTerminal = true := by
      have knows := inv.worker.point
      rw [phase] at knows
      exact knows
    refine inv.of_map same queued ?_ ?_ ?_ worker (fun _ => .inl rfl) fun _ => .inl rfl
    · exact fun job found => (inv.job job found).finishes terminal
    · exact fun _ _ => id
    · exact fun _ _ _ => .inl rfl

/-- A job that the worker has let go of after a raise is in the store. -/
theorem Verdicts.raised_present {left : Nat} {saved : Option LLMCallJob} {jobMeta : JobMeta} (inv : Verdicts w p)
    (phase : p.worker = ⟨left, .raised saved jobMeta⟩) (booked : Bookkeeping settings w p) : w.job.isSome = true := by
  have ok := booked.worker
  have knows := inv.worker.point
  rw [phase] at ok knows
  cases saved with
  | none =>
      obtain ⟨⟨job, found, _⟩, _⟩ := knows
      exact Option.isSome_of_eq_some found
  | some saved =>
      obtain ⟨job, call, found, _⟩ := ok.recorded rfl
      obtain ⟨job, found, _⟩ := Option.map_eq_some_iff.mp found
      exact Option.isSome_of_eq_some found

theorem Verdicts.worker_step {command : Command} {reply : command.Reply} {after : WorkerPhase} (inv : Verdicts w p)
    (booked : Bookkeeping settings w p) (kept : keepsVerdicts trace w ⟨.worker, command⟩ = true)
    (move : WorkerMoves settings p.worker command reply after) (answered : exec .worker command w = some (reply, w')) :
    Verdicts w' { p with worker := after } := by
  have notFailed := @Verdicts.notFailed w w' p _ reply
  obtain ⟨api, worker, cancel, wait⟩ := p
  cases move with
  | attempt move => exact inv.attempt rfl booked kept move answered
  | @requeue left saved jobMeta =>
      have present := inv.raised_present rfl booked
      have running : ∀ job, w.job = some job → job.status ≠ .failed := fun job found =>
        inv.notFailed answered (by rintro ⟨⟩) found
      have keeps : ∀ job, w.job = some job → keepsVerdict job.jobMeta.llmCall jobMeta.llmCall = true := by
        intro job found
        have kept : keepsVerdict w.record jobMeta.llmCall = true := kept
        rwa [World.record, found] at kept
      obtain ⟨snapshot, reruns⟩ := snapshot_requeue answered
      have knows := inv.worker.point
      obtain ⟨call, stores, counts⟩ : ∃ call, jobMeta.llmCall = some call ∧ (call.validates = true →
          ((w.reruns + 1 : Nat) : Int) ≤ jobMeta.retries call) := by
        cases saved with
        | none =>
            obtain ⟨_, call, stores, invalid⟩ := knows
            exact ⟨call, stores, fun valid => by cases valid.symm.trans invalid⟩
        | some saved =>
            obtain ⟨_, call, stores, counts⟩ := knows
            exact ⟨call, stores, fun _ => counts⟩
      have record : w'.record = some call := by
        obtain ⟨job, found⟩ := Option.isSome_iff_exists.mp present
        rw [World.record_eq, snapshot, World.snapshot, found]
        exact stores
      obtain rfl := exec_requeue answered
      refine inv.of_map (f := fun job => (job.withMeta jobMeta).withStatus .queued) rfl (fun _ => .inr present)
        ?_ ?_ ?_ ?_ (fun _ => .inl rfl) fun _ => .inl rfl
      · exact fun job found => (inv.job job found).requeued
      · exact fun job found cancelled => cancelled.withMeta (keeps job found)
      · exact fun job found settled => (settled.withMeta (keeps job found)).goesOn (running job found)
      · refine ⟨trivial, ?_, ?_, ?_, ?_, ?_⟩
        · rintro _ ⟨⟩
        · intro _ job other found recorded _ valid
          rw [snapshot] at found
          obtain ⟨_, _, rfl⟩ := Option.map_eq_some_iff.mp found
          obtain rfl := Option.some.inj (stores.symm.trans recorded)
          rw [reruns]
          exact counts valid
        · intro none
          cases record.symm.trans none
        · intro failed
          obtain ⟨_, _, ⟨⟩⟩ := failed.of_map
        · intro away
          cases away
  | @giveUp saved jobMeta =>
      have knows := inv.worker.point
      obtain ⟨snapshot, reruns⟩ := snapshot_kept rfl answered
      have record : w'.record = w.record := record_kept (by rintro _ ⟨⟩) (by rintro _ ⟨⟩) (by rintro _ ⟨⟩) answered
      have queued := exec_onQueue (by rintro _ ⟨⟩) (by rintro _ ⟨⟩) answered
      obtain rfl := exec_giveUp answered
      have spent : Holds RQJob.Spent w.job := by
        cases saved with
        | none =>
            obtain ⟨⟨job, found, unreadable⟩, _⟩ := knows
            exact ⟨job, found, unreadable.spent⟩
        | some saved => exact knows.1 rfl
      obtain ⟨job, found, spent⟩ := spent
      refine inv.of_map rfl (fun away => .inl (queued away)) ?_ (fun _ _ => id) (fun _ _ _ => .inr (.inl rfl)) ?_
        (fun _ => .inl rfl) fun _ => .inl rfl
      · intro other same
        obtain rfl := Option.some.inj (found.symm.trans same)
        exact (inv.job job found).gaveUp spent
      · refine ⟨trivial, ?_, False.elim, ?_, fun _ => .inl rfl, ?_⟩
        · rintro _ ⟨⟩
        · rw [record, reruns]
          exact inv.worker.unrecorded
        · intro away
          cases away

theorem WorkerKnows.frame (knows : WorkerKnows w phase) (job : w'.job = w.job) (reruns : w'.reruns = w.reruns)
    (running : w'.running = w.running) (lost : w'.workerLost = w.workerLost) : WorkerKnows w' phase := by
  have snapshot : w'.snapshot = w.snapshot := by rw [World.snapshot, job]; rfl
  have record : w'.record = w.record := by rw [World.record, job]; rfl
  refine knows.of_map (job.trans Option.map_id'.symm) reruns ?_ (fun _ _ => id) (fun _ _ => id) ?_ ?_
    (fun _ _ failed => .inl failed) ?_
  · rw [running]
    exact id
  · rw [snapshot]
    exact knows.pending
  · rw [record]
    exact id
  · rw [lost]
    exact id

/-- A step that leaves the job and its worker. -/
theorem Verdicts.frame (inv : Verdicts w p) (job : w'.job = w.job) (reruns : w'.reruns = w.reruns)
    (running : w'.running = w.running) (lost : w'.workerLost = w.workerLost)
    (queued : w'.queued = true → w.queued = true) (worker : p'.worker = p.worker)
    (cancel : ∀ call, p'.cancel call = p.cancel call ∨ (p'.cancel call).Knows w'.job)
    (wait : ∀ call, p'.wait call = p.wait call ∨ (p'.wait call).Knows w'.job) : Verdicts w' p' := by
  refine inv.of_map (job.trans Option.map_id'.symm) (fun away => .inl (queued away)) inv.job (fun _ _ => id)
    (fun _ _ => id) ?_ cancel wait
  rw [worker]
  exact inv.worker.frame job reruns running lost

theorem Verdicts.passive {party : Party} {command : Command} {reply : command.Reply} (inv : Verdicts w p)
    (passive : command.isPassive = true) (answered : exec party command w = some (reply, w'))
    (worker : p'.worker = p.worker)
    (cancel : ∀ call, p'.cancel call = p.cancel call ∨ (p'.cancel call).Knows w'.job)
    (wait : ∀ call, p'.wait call = p.wait call ∨ (p'.wait call).Knows w'.job) : Verdicts w' p' := by
  have same := exec_passive passive answered
  refine inv.frame same.job same.reruns same.running same.workerLost ?_ worker cancel wait
  rw [same.queued]
  exact id

/-- A save of anyone but the worker. -/
theorem Verdicts.saved {party : Party} {saved : JobMeta} {reply : Unit} {call : LLMCallJob} (inv : Verdicts w p)
    (answered : exec party (.saveMeta saved) w = some (reply, w')) (keeps : keepsVerdict w.record saved.llmCall = true)
    (readable : w.record.all LLMCallJob.validates = true) (stores : saved.llmCall = some call)
    (pending : p.worker.Pending → call.cancelRequested = false →
      (w.reruns + p.worker.point.uncounted : Nat) ≤ saved.retries call)
    (worker : p'.worker = p.worker)
    (cancel : ∀ call, p'.cancel call = p.cancel call ∨ (p'.cancel call).Knows w'.job)
    (wait : ∀ call, p'.wait call = p.wait call ∨ (p'.wait call).Knows w'.job) : Verdicts w' p' := by
  obtain ⟨snapshot, reruns⟩ := snapshot_saveMeta answered
  obtain rfl := exec_saveMeta answered
  have record : ∀ job, w.job = some job → w.record = job.jobMeta.llmCall := by
    intro job found
    rw [World.record, found]
    rfl
  have spent : ∀ job, w.job = some job → job.Spent → (job.withMeta saved).Spent := by
    intro job found spent
    rw [record job found] at keeps readable
    exact spent.withMeta keeps readable
  refine inv.of_map rfl .inl ?_ ?_ ?_ ?_ cancel wait
  · intro job found
    rw [record job found] at keeps
    exact (inv.job job found).withMeta keeps fun failed => spent job found ((inv.job job found).failed failed)
  · intro job found cancelled
    rw [record job found] at keeps
    exact cancelled.withMeta keeps
  · intro job found settled
    rw [record job found] at keeps
    exact settled.withMeta keeps
  · rw [worker]
    refine inv.worker.of_map rfl reruns id ?_ spent ?_ ?_ (fun _ _ failed => .inl failed) id
    · rintro job found ⟨_, other, recorded, invalid⟩
      rw [record job found, recorded, Option.all_some, invalid] at readable
      cases readable
    · intro isPending job other found recorded unflagged _
      rw [snapshot] at found
      obtain ⟨before, _, rfl⟩ := Option.map_eq_some_iff.mp found
      obtain rfl := Option.some.inj (stores.symm.trans recorded)
      exact pending isPending unflagged
    · intro none
      cases found : w.job with
      | none => rw [World.record, found]; rfl
      | some job =>
          rw [World.record, World.mapJob, found] at none
          cases stores.symm.trans none

theorem cancel_updated {cancel : Nat → CancelPhase} {call : Nat} {after : CancelPhase} {stored : Option RQJob}
    (fine : after = cancel call ∨ after.Knows stored) (other : Nat) :
    Function.update cancel call after other = cancel other ∨ (Function.update cancel call after other).Knows stored := by
  by_cases same : other = call
  · subst same
    rwa [Function.update_self]
  · exact .inl (Function.update_of_ne same ..)

theorem wait_updated {wait : Nat → WaitPhase} {call : Nat} {after : WaitPhase} {stored : Option RQJob}
    (fine : after = wait call ∨ after.Knows stored) (other : Nat) :
    Function.update wait call after other = wait other ∨ (Function.update wait call after other).Knows stored := by
  by_cases same : other = call
  · subst same
    rwa [Function.update_self]
  · exact .inl (Function.update_of_ne same ..)

theorem Verdicts.cancel_step {call : Nat} {command : Command} {reply : command.Reply} {after : CancelPhase}
    (inv : Verdicts w p) (booked : Bookkeeping settings w p) (kept : keepsVerdicts trace w ⟨.cancel call, command⟩ = true)
    (move : CancelMoves new.jobId (p.cancel call) command reply after)
    (answered : exec (.cancel call) command w = some (reply, w')) :
    Verdicts w' { p with cancel := Function.update p.cancel call after } := by
  have here := inv.cancel call
  have updated := @cancel_updated p.cancel call after w'.job
  have held := booked.cancel call
  generalize phase : p.cancel call = before at move here updated held
  cases move with
  | neutral neutral =>
      exact inv.passive (Command.isPassive_of_isNeutral neutral) answered rfl (updated (.inl rfl)) fun _ => .inl rfl
  | fetch | missing | read | unreadable | late | pending | running =>
      exact inv.passive rfl answered rfl (updated (.inr trivial)) fun _ => .inl rfl
  | remove =>
      have queued := exec_onQueue (by rintro _ ⟨⟩) (by rintro _ ⟨⟩) answered
      obtain rfl := exec_remove answered
      exact inv.frame rfl rfl rfl rfl queued rfl (updated (.inr trivial)) fun _ => .inl rfl
  | announceCancelled | announceRequest =>
      obtain rfl := exec_xadd answered
      exact inv.frame rfl rfl rfl rfl id rfl (updated (.inr trivial)) fun _ => .inl rfl
  | @saveCancelled job record copy now elapsed same =>
      obtain ⟨readable, keeps⟩ := Bool.and_eq_true_iff.mp kept
      refine inv.saved answered keeps readable rfl (fun _ flag => ?_) rfl (updated (.inr ?_)) fun _ => .inl rfl
      · cases flag
      · obtain ⟨stored, found⟩ := Option.isSome_iff_exists.mp (booked.api.present held.2)
        obtain ⟨before, present, _⟩ := Option.map_eq_some_iff.mp found
        obtain rfl := exec_saveMeta answered
        exact ⟨before.withMeta _, by rw [World.mapJob, present]; rfl, _, rfl, rfl⟩
  | saveRequest same =>
      obtain ⟨readable, keeps⟩ := Bool.and_eq_true_iff.mp kept
      refine inv.saved answered keeps readable rfl (fun _ flag => ?_) rfl (updated (.inr trivial)) fun _ => .inl rfl
      cases flag
  | mark =>
      obtain ⟨job, found, cancelled⟩ := here
      have result : job.result.all (fun result => result.status = .cancelled) = true := by
        have kept : w.job.all (fun job => job.result.all fun result => result.status = .cancelled) = true := kept
        rwa [found] at kept
      have snapshot := (snapshot_kept rfl answered).1
      have record : w'.record = w.record := record_kept (by rintro _ ⟨⟩) (by rintro _ ⟨⟩) (by rintro _ ⟨⟩) answered
      obtain rfl := exec_setStatus answered
      refine inv.of_map rfl .inl ?_ (fun _ _ => id) ?_ ?_ (updated (.inr trivial)) fun _ => .inl rfl
      · intro other same
        obtain rfl := Option.some.inj (found.symm.trans same)
        exact (inv.job job found).marked cancelled result
      · intro other same _
        obtain rfl := Option.some.inj (found.symm.trans same)
        exact .inr (.inr cancelled)
      · refine inv.worker.of_map rfl rfl id (fun _ _ => id) (fun _ _ => id) ?_ ?_ ?_ id
        · rw [snapshot]
          exact inv.worker.pending
        · rw [record]
          exact id
        · rintro _ _ ⟨⟩

/-- The first push finds no job. -/
theorem Verdicts.pushed {payload : LLMCallJob} {reply : Unit} (inv : Verdicts w p) (none : w.job = none)
    (answered : exec .api (.push payload) w = some (reply, w')) (valid : payload.validates = true)
    (worker : p'.worker = p.worker) (cancel : p'.cancel = p.cancel) (wait : p'.wait = p.wait) : Verdicts w' p' := by
  obtain rfl := exec_push answered
  have unheld : ∀ {P : RQJob → Prop}, ¬Holds P w.job := by
    rintro P ⟨_, found, _⟩
    cases none.symm.trans found
  have unrecorded : w.record = Option.none := by
    rw [World.record, none]
    rfl
  refine ⟨?_, fun _ => rfl, ?_, ?_, ?_⟩
  · rintro _ ⟨rfl⟩
    exact ⟨valid, by rintro ⟨⟩, by rintro ⟨⟩, by rintro ⟨⟩, by rintro _ ⟨⟩, by rintro ⟨⟩⟩
  · rw [worker]
    refine ⟨?_, inv.worker.counted, ?_, fun _ => inv.worker.unrecorded unrecorded, ?_, inv.worker.running⟩
    · exact inv.worker.point.imp (fun _ => rfl) (fun holds => (unheld holds).elim) fun holds => (unheld holds).elim
    · rintro - _ _ ⟨rfl⟩ ⟨⟩
    · rintro ⟨_, ⟨rfl⟩, ⟨⟩⟩
  · rw [cancel]
    exact fun call => (inv.cancel call).imp fun holds => (unheld holds).elim
  · rw [wait]
    exact fun call => (inv.wait call).imp fun holds => (unheld holds).elim

theorem Verdicts.api_step {command : Command} {reply : command.Reply} {after : ApiPhase} (inv : Verdicts w p)
    (booked : Bookkeeping settings w p) (move : ApiMoves settings new p.api command reply after)
    (answered : exec .api command w = some (reply, w')) : Verdicts w' { p with api := after } := by
  have ok := booked.api
  obtain ⟨api, worker, cancel, wait⟩ := p
  cases move with
  | neutral neutral =>
      exact inv.passive (Command.isPassive_of_isNeutral neutral) answered rfl (fun _ => .inl rfl) fun _ => .inl rfl
  | push =>
      have none : w.job = none := Option.map_eq_none_iff.mp ok
      exact inv.pushed none answered rfl rfl rfl rfl
  | announce =>
      obtain rfl := exec_xadd answered
      exact inv.frame rfl rfl rfl rfl id rfl (fun _ => .inl rfl) fun _ => .inl rfl
  | @save payload elapsed =>
      obtain ⟨fresh, args, result, found⟩ := ok
      have none : w.record = none := by
        rw [World.record_eq, found]
        rfl
      refine inv.saved answered ?_ ?_ rfl (fun pending _ => ?_) rfl (fun _ => .inl rfl) fun _ => .inl rfl
      · rw [none]
        rfl
      · rw [none]
        rfl
      · -- no failure is stored before the first record is
        have uncounted : worker.point.uncounted = 0 := by
          by_contra counted
          have past : worker.point.pastCheck = true := by
            cases point : worker.point with
            | raised saved jobMeta => cases saved <;> simp_all [WorkerPoint.uncounted, WorkerPoint.pastCheck]
            | retryDue => rfl
            | _ => simp_all [WorkerPoint.uncounted]
          obtain ⟨_, _, same, record⟩ := booked.worker.recorded past
          cases found.symm.trans same
          cases record
        have retries : payload.retryCount = 0 := fresh.retryCount
        simp only [uncounted, inv.worker.unrecorded none, JobMeta.retries, Option.getD_none, LLMCallJob.withElapsed,
          retries]
        omega

theorem read_job {payload : LLMCallJob} (readable : readPayload w.snapshot = some payload) :
    ∃ job, w.job = some job ∧ (job.result <|> job.jobMeta.llmCall) = some payload ∧ payload.validates = true := by
  obtain ⟨read, found, payload⟩ := Option.bind_eq_some_iff.mp readable
  obtain ⟨job, present, rfl⟩ := Option.map_eq_some_iff.mp found
  obtain ⟨stored, valid⟩ := Option.filter_eq_some_iff.mp payload
  exact ⟨job, present, stored, valid⟩

/-- A waiter goes on to read the result of a job that has ended. -/
theorem RQJob.Agrees.ended {job : RQJob} {call : LLMCallJob} {stored : Option RQJob} (agrees : job.Agrees)
    (found : stored = some job) (terminal : (overlayStatus call job.status).status.isTerminal = true)
    (cancelled : call.status = .cancelled → Holds RQJob.Settled stored) : Holds RQJob.Settled stored := by
  cases status : job.status with
  | queued | deferred | scheduled =>
      rw [status] at terminal
      cases terminal
  | started =>
      rw [status] at terminal
      unfold overlayStatus at terminal
      simp only at terminal
      split at terminal
      · rename_i kept
        rcases kept with streaming | ended
        · rw [streaming] at terminal
          cases terminal
        · exact cancelled ended
      · cases terminal
  | finished => exact ⟨job, found, .inl (agrees.finished status)⟩
  | stopped => exact absurd status agrees.running
  | failed => exact ⟨job, found, .inr (.inl status)⟩
  | canceled =>
      obtain ⟨unfinished, _⟩ := agrees.canceled status
      cases returned : job.result with
      | none => exact ⟨job, found, .inr (.inr (unfinished returned))⟩
      | some result => exact ⟨job, found, .inl (Option.isSome_of_eq_some returned)⟩

theorem Verdicts.wait_step {call : Nat} {command : Command} {reply : command.Reply} {after : WaitPhase}
    (inv : Verdicts w p) (move : WaitMoves (p.wait call) command reply after)
    (answered : exec (.wait call) command w = some (reply, w')) :
    Verdicts w' { p with wait := Function.update p.wait call after } := by
  have here := inv.wait call
  have updated := @wait_updated p.wait call after w'.job
  generalize p.wait call = before at move here updated
  cases move with
  | neutral neutral =>
      exact inv.passive (Command.isPassive_of_isNeutral neutral) answered rfl (fun _ => .inl rfl) (updated (.inl rfl))
  | statusUnreadable | resultUnreadable | again =>
      exact inv.passive rfl answered rfl (fun _ => .inl rfl) (updated (.inr trivial))
  | @readStatus _ payload readable =>
      rw [exec_fetchJob answered] at readable
      obtain ⟨job, found, stored, _⟩ := read_job readable
      have same := exec_passive rfl answered
      refine inv.passive rfl answered rfl (fun _ => .inl rfl) (updated (.inr fun cancelled => ?_))
      rw [same.job]
      refine ⟨job, found, ?_⟩
      cases returned : job.result with
      | some result => exact .inl (Option.isSome_of_eq_some returned)
      | none =>
          rw [returned] at stored
          exact .inr (.inr ⟨payload, stored, cancelled⟩)
  | settled terminal =>
      obtain ⟨job, found, rfl⟩ := exec_jobStatus answered
      have same := exec_passive rfl answered
      refine inv.passive rfl answered rfl (fun _ => .inl rfl) (updated (.inr ?_))
      change Holds RQJob.Settled w'.job
      rw [same.job]
      exact (inv.job job found).ended found terminal here
  | readResult readable =>
      rw [exec_fetchJob answered] at readable
      obtain ⟨job, found, stored, valid⟩ := read_job readable
      obtain ⟨other, same, settled⟩ := here
      obtain rfl := Option.some.inj (found.symm.trans same)
      exact inv.passive rfl answered rfl (fun _ => .inl rfl)
        (updated (.inr ((inv.job job found).settled settled stored valid)))

theorem Verdicts.reaper_step {granted : Nat} (inv : Verdicts w p) (booked : Bookkeeping settings w p)
    (failed : w.storedStatus = some .failed) (answered : exec .reaper (.abandon granted) w = some ((), w')) :
    Verdicts w' p := by
  obtain ⟨snapshot, reruns⟩ := snapshot_kept rfl answered
  have record : w'.record = w.record := record_kept (by rintro _ ⟨⟩) (by rintro _ ⟨⟩) (by rintro _ ⟨⟩) answered
  have queued := exec_onQueue (by rintro _ ⟨⟩) (by rintro _ ⟨⟩) answered
  obtain ⟨away, _, rfl⟩ := exec_abandon answered
  obtain ⟨call, recorded, failed⟩ := Option.map_eq_some_iff.mp failed
  have spent : ∀ job, w.job = some job → job.Spent := by
    intro job found
    rw [World.record, found] at recorded
    exact ⟨booked.worker.noResult (inv.worker.running away) found, call, recorded, .inl failed⟩
  refine inv.of_map rfl (fun still => .inl (queued still)) ?_ (fun _ _ => id) (fun _ _ _ => .inr (.inl rfl)) ?_
    (fun _ => .inl rfl) fun _ => .inl rfl
  · exact fun job found => (inv.job job found).gaveUp (spent job found)
  · refine inv.worker.of_map rfl rfl ?_ (fun _ _ => id) (fun _ _ => id) ?_ ?_ (fun _ _ _ => .inr rfl) fun _ => rfl
    · intro running
      cases running
    · rw [snapshot]
      exact inv.worker.pending
    · rw [record]
      exact id

end Steps

/-! ## Runs -/

section Runs

variable {settings : Settings} {new : NewCall} {polls : Nat → Nat} {env : Environment} {d : System}

/-- A failure the worker has saved last is what the record says. -/
def FailureStands (trace : Trace) (w : World) (_ : Phases) : Prop :=
  lastSaved trace = some .failed → w.storedStatus = some .failed

private theorem lastSaved_append {trace : Trace} {label : Label signature Party}
    (noSave : ∀ saved, label ≠ ⟨.worker, .saveMeta saved⟩) : lastSaved (trace ++ [label]) = lastSaved trace := by
  obtain ⟨party, command⟩ := label
  rw [lastSaved, List.foldl_append, List.foldl_cons, List.foldl_nil, ← lastSaved]
  cases party with
  | worker => cases command <;> first | rfl | exact absurd rfl (noSave _)
  | _ => rfl

private theorem failed_kept {saved stored : Option LLMCallJob} (failed : stored.map LLMCallJob.status = some .failed)
    (kept : keepsVerdict stored saved = true) : saved.map LLMCallJob.status = some .failed := by
  rw [keepsVerdict, failed] at kept
  exact of_decide_eq_true kept

/-- A save that keeps the verdict, and any command that saves nothing, leaves a failure. -/
private theorem FailureStands.step {trace : Trace} {w w' : World} {p p' : Phases} {party : Party} {command : Command}
    {reply : command.Reply} (inv : FailureStands trace w p)
    (noSave : ∀ saved, (⟨party, command⟩ : Label signature Party) ≠ ⟨.worker, .saveMeta saved⟩)
    (noPush : ∀ payload, command ≠ .push payload)
    (kept : ∀ saved, command = .saveMeta saved ∨ command = .requeue saved → keepsVerdict w.record saved.llmCall = true)
    (answered : exec party command w = some (reply, w')) : FailureStands (trace ++ [⟨party, command⟩]) w' p' := by
  intro last
  rw [lastSaved_append noSave] at last
  have failed := inv last
  obtain ⟨job, found⟩ : ∃ job, w.snapshot = some job := by
    cases found : w.snapshot with
    | some job => exact ⟨job, rfl⟩
    | none => simp [World.storedStatus, World.record_eq, found] at failed
  by_cases save : ∃ saved, command = .saveMeta saved
  · obtain ⟨saved, rfl⟩ := save
    rw [World.storedStatus, record_saveMeta answered (by rw [found]; rfl)]
    exact failed_kept failed (kept saved (.inl rfl))
  · by_cases requeue : ∃ saved, command = .requeue saved
    · obtain ⟨saved, rfl⟩ := requeue
      rw [World.storedStatus, World.record_eq, (snapshot_requeue answered).1, found]
      exact failed_kept failed (kept saved (.inr rfl))
    · rw [World.storedStatus, record_kept noPush (fun saved same => save ⟨saved, same⟩)
        (fun saved same => requeue ⟨saved, same⟩) answered]
      exact failed

theorem failureStands_preserved : Preserved settings new verdictsKept (Booked settings) FailureStands where
  api := by
    intro trace w p command reply w' after booked inv kept move answered
    have ok := booked.1.api
    generalize p.api = api at move ok
    cases move with
    | push =>
        intro last
        rw [lastSaved_append (by rintro _ ⟨⟩)] at last
        have failed := inv last
        have none : w.snapshot = none := ok
        simp [World.storedStatus, World.record_eq, none] at failed
    | neutral neutral =>
        refine inv.step (by rintro _ ⟨⟩) ?_ ?_ answered
        · rintro _ rfl
          exact absurd neutral Bool.false_ne_true
        · rintro _ (rfl | rfl) <;> exact absurd neutral Bool.false_ne_true
    | save => exact inv.step (by rintro _ ⟨⟩) (by rintro _ ⟨⟩) (by rintro _ (⟨⟨⟩⟩ | ⟨⟨⟩⟩); exact kept) answered
    | announce => exact inv.step (by rintro _ ⟨⟩) (by rintro _ ⟨⟩) (by rintro _ (same | same) <;> cases same) answered
  worker := by
    intro trace w p command reply w' after booked inv kept move answered
    have noPush : ∀ payload, command ≠ .push payload := by
      generalize p.worker = worker at move
      rintro payload rfl
      cases move with
      | attempt move => cases move with | neutral neutral => exact absurd neutral Bool.false_ne_true
    by_cases save : ∃ saved, command = .saveMeta saved
    · obtain ⟨saved, rfl⟩ := save
      have ok := booked.1.worker
      generalize p.worker = worker at move ok
      cases move with
      | attempt move =>
          obtain ⟨_, ⟨job, _, found, _⟩, _⟩ := ok.saves move
          intro last
          rw [World.storedStatus, record_saveMeta answered (by rw [found]; rfl)]
          simpa [lastSaved] using last
    · refine inv.step ?_ noPush ?_ answered
      · rintro saved same
        cases same
        exact save ⟨saved, rfl⟩
      · rintro saved (rfl | rfl)
        · exact absurd ⟨saved, rfl⟩ save
        · exact kept
  cancel := by
    intro trace w p call command reply w' after booked inv kept move answered
    generalize p.cancel call = canceller at move
    refine inv.step (by rintro _ ⟨⟩) ?_ ?_ answered
    · rintro payload rfl
      cases move with | neutral neutral => exact absurd neutral Bool.false_ne_true
    · rintro saved (rfl | rfl)
      · exact (Bool.and_eq_true_iff.mp kept).2
      · cases move with | neutral neutral => exact absurd neutral Bool.false_ne_true
  wait := by
    intro trace w p call command reply w' after _ inv _ move answered
    have keeps := move.keepsRecord
    refine inv.step (by rintro _ ⟨⟩) ?_ ?_ answered
    · rintro payload rfl
      exact absurd keeps Bool.false_ne_true
    · rintro saved (rfl | rfl) <;> exact absurd keeps Bool.false_ne_true
  reaper := by
    intro trace w p w' _ inv _ answered
    exact inv.step (by rintro _ ⟨⟩) (by rintro _ ⟨⟩) (by rintro _ (same | same) <;> cases same) answered

theorem verdicts_preserved :
    Preserved settings new verdictsKept (fun trace w p => Booked settings trace w p ∧ FailureStands trace w p)
      fun _ w p => Verdicts w p where
  api given inv _ move answered := inv.api_step given.1.1 move answered
  worker given inv kept move answered := inv.worker_step given.1.1 kept move answered
  cancel given inv kept move answered := inv.cancel_step given.1.1 kept move answered
  wait _ inv _ move answered := inv.wait_step move answered
  reaper given inv kept answered := inv.reaper_step given.1.1 (given.2 (of_decide_eq_true kept)) answered

/-- Before anything has happened there is nothing to disagree about. -/
theorem boot_verdicts : Verdicts { env := env } (Phases.of (startPhase settings)) where
  job := by rintro _ ⟨⟩
  queued := by rintro ⟨⟩
  worker := by
    refine ⟨trivial, ?_, ?_, fun _ => rfl, ?_, ?_⟩
    · rintro _ ⟨⟩
    · rintro - _ _ ⟨⟩
    · rintro ⟨_, ⟨⟩, _⟩
    · rintro ⟨⟩
  cancel _ := trivial
  wait _ := trivial

/-- In every run in which nobody writes over a record that says failed or cancelled, nor a
    canceller over one that cannot be read, in which an attempt can read its record, RQ is
    told of a cancellation only where it holds no other result, and a worker is lost only
    once it has saved a failure: a status that ends the job is that of the job which is
    read next, and every job a waiter returns has ended. -/
theorem waited_jobs_ended (run : machine.Reach verdictsKept (boot settings new polls env) d) (waiter : Nat) :
    (∀ status shown, ReadsAlone waiter (getJobStatus settings new.jobId) d.world (.ok status) shown →
      status.status.isTerminal = true →
        ∃ result read, ReadsAlone waiter (getJobResult settings new.jobId .resultRecord) shown (.ok result) read ∧
          result.status = status.status) ∧
    ∀ result, d.program (.wait waiter) = .done (.ok result) → result.status.isTerminal = true := by
  obtain ⟨phase, tracked, _, _, inv⟩ := (failureStands_preserved.and verdicts_preserved).reach_booked run
    boot_tracked ⟨boot_bookkeeping, fun _ member => by cases member⟩ ⟨by rintro ⟨⟩, boot_verdicts⟩
  constructor
  · intro status shown returned terminal
    obtain ⟨job, payload, found, readable, overlaid, same⟩ := getJobStatus_returned returned
    obtain ⟨other, present, stored, valid⟩ := read_job readable
    obtain rfl := Option.some.inj (found.symm.trans present)
    rw [overlaid] at terminal ⊢
    have agree := (inv.job job found).overlay stored valid terminal
    rw [← same.snapshot] at readable
    obtain ⟨result, read, reads, copied, _⟩ := @getJobResult_alone settings new.jobId waiter shown .resultRecord payload readable
    refine ⟨result, read, reads, ?_⟩
    obtain ⟨_, _, _, rfl⟩ := copied
    exact agree
  · intro result returned
    have ended := tracked (.wait waiter)
    rw [returned] at ended
    have returned : phase (.wait waiter) = .returned result.status := ended result rfl
    have knows : (phase (.wait waiter)).Knows d.world.job := inv.wait waiter
    rw [returned] at knows
    exact knows

/-- A job that completes, and a waiter that is given it. -/
theorem waited_jobs_ended_demo : ∃ (d : System) (result : LLMCallJob), d.program (.wait 0) = .done (.ok result) ∧
    result.status = .completed ∧ result.status.isTerminal = true := by
  obtain ⟨d, run, seen⟩ := Machine.schedule_observed machine verdictsKept
    (List.replicate 8 .api ++ List.replicate 28 .worker ++ List.replicate 3 (.wait 0))
    (boot demoSettings (demoCall .textGeneration) (fun _ => 0) demoEnvironment)
    (fun d => (returnedBy (.wait 0) d).map LLMCallJob.status) (some .completed) (by decide +kernel)
  obtain ⟨result, returned, completed⟩ := Option.map_eq_some_iff.mp seen
  have done := returnedBy_eq_some.mp returned
  exact ⟨d, result, done, completed, (waited_jobs_ended run 0).2 result done⟩

/-- The worker dies on its only run, having stored that it works on the job: the job is
    shown as failed, and a waiter is given one that is being worked on. -/
theorem lost_worker_disagrees : ∃ d : System,
    machine.Reach Machine.anyStep (boot noRetries (demoCall .textGeneration) (fun _ => 0) demoEnvironment) d ∧
    (∃ status shown result read, ReadsAlone 0 (getJobStatus noRetries "job") d.world (.ok status) shown ∧
      status.status = .failed ∧ ReadsAlone 0 (getJobResult noRetries "job" .resultRecord) shown (.ok result) read ∧
      result.status = .processing) ∧
    ∃ result, d.program (.wait 0) = .done (.ok result) ∧ result.status.isTerminal = false := by
  obtain ⟨d, run, seen⟩ := Machine.schedule_observed machine Machine.anyStep
    (List.replicate 8 .api ++ List.replicate 12 .worker ++ .reaper :: List.replicate 6 (.wait 0))
    (boot noRetries (demoCall .textGeneration) (fun _ => 0) demoEnvironment)
    (fun d => (d.world.rqStatus, (readPayload d.world.snapshot).map LLMCallJob.status,
      (returnedBy (.wait 0) d).map LLMCallJob.status)) (some .failed, some .processing, some .processing) (by decide +kernel)
  obtain ⟨failed, seen⟩ := Prod.mk.inj seen
  obtain ⟨processing, returned⟩ := Prod.mk.inj seen
  obtain ⟨job, found, failed⟩ := Option.map_eq_some_iff.mp failed
  obtain ⟨payload, readable, processing⟩ := Option.map_eq_some_iff.mp processing
  obtain ⟨result, returned, running⟩ := Option.map_eq_some_iff.mp returned
  obtain ⟨status, shown, shows, overlaid, same⟩ := @getJobStatus_alone noRetries "job" 0 d.world payload job found readable
  rw [← same.snapshot] at readable
  obtain ⟨given, read, reads, copied, _⟩ := @getJobResult_alone noRetries "job" 0 shown .resultRecord payload readable
  refine ⟨d, run, ⟨status, shown, given, read, shows, ?_, reads, ?_⟩, result, returnedBy_eq_some.mp returned, ?_⟩
  · rw [overlaid, failed]
    rfl
  · obtain ⟨_, _, _, rfl⟩ := copied
    exact processing
  · rw [running]
    rfl

end Runs

end LanguageAgent.Queue
