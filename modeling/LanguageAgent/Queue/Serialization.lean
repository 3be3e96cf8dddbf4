import LanguageAgent.Queue.Publishing
import LanguageAgent.Queue.RecordConsistency
import LanguageAgent.Queue.Solo

/-! # When enqueueing and execution are serializable

The job is visible to the worker before its record and its event are written. A run comes
to what it would have come to had the enqueue finished first, as long as the API stores the
record before the worker's first check and appends its event before the worker's first.
-/

namespace LanguageAgent.Queue

open Interleaving

/-! ## Serial runs, and runs in order -/

/-- The worker takes the job once `enqueue_llm_call` has returned. -/
def InTurn (settings : Settings) (new : NewCall) (polls : Nat → Nat) (env : Environment) (c : System) : Prop :=
  ∃ start, Enqueued settings new polls env start ∧ machine.Reach workerAlone start c

/-- `enqueue_llm_call` has returned, and the worker is through with the job. -/
structure Finished (c : System) : Prop where
  api : ∃ call, c.program .api = .done (.ok call)
  worker : ∃ out, c.program .worker = .done out

/-- The worker is through, whether it returned or raised. -/
def workerDone (c : System) : Bool :=
  match c.program .worker with
  | .done _ => true
  | .issue _ _ => false

theorem finished_iff {c : System} : Finished c ↔ (returnedBy .api c).isSome = true ∧ workerDone c = true := by
  have worker : (∃ out, c.program .worker = .done out) ↔ workerDone c = true := by
    unfold workerDone
    cases c.program .worker <;> simp
  rw [← worker, Option.isSome_iff_exists]
  simp only [returnedBy_eq_some]
  exact ⟨fun ended => ⟨ended.api, ended.worker⟩, fun ended => ⟨ended.1, ended.2⟩⟩

instance (c : System) : Decidable (Finished c) := decidable_of_iff' _ finished_iff

/-- The runs come to the same: the stored record, the retries, RQ's verdict and the events. -/
structure SameEnd (c d : System) : Prop where
  record : c.world.record = d.world.record
  reruns : c.world.reruns = d.world.reruns
  rqStatus : c.world.rqStatus = d.world.rqStatus
  events : c.world.events = d.world.events

/-- The API and the worker move, in any order. -/
def apiAndWorker : Guard signature Party World := fun _ _ label =>
  label.party = .api ∨ label.party = .worker

instance (trace : Trace) (w : World) (label : Label signature Party) :
    Decidable (apiAndWorker trace w label) := inferInstanceAs (Decidable (_ ∨ _))

/-- The API has stored the record. -/
def recordWritten (trace : Trace) : Bool :=
  trace.any fun label => label.party = .api && label.command.writes.isSome

/-- The API has appended its event. -/
def eventWritten (trace : Trace) : Bool :=
  trace.any fun label => label.party = .api && !label.command.appends.isEmpty

/-- `is_cancel_requested` before processing starts. -/
def Command.looksFirst : Command → Bool
  | .fetchJob .startCheck => true
  | _ => false

/-- The worker makes its first check only when the record is written, and appends to the
    stream of a streaming job only when the event is. -/
def writtenFirst (new : NewCall) : Guard signature Party World := fun trace w label =>
  apiAndWorker trace w label ∧ (label.party = .worker →
    (label.command.looksFirst = true → recordWritten trace = true) ∧
    (label.command.appends ≠ [] → new.callType = .streamingTextGeneration → eventWritten trace = true))

instance (new : NewCall) (trace : Trace) (w : World) (label : Label signature Party) :
    Decidable (writtenFirst new trace w label) := inferInstanceAs (Decidable (_ ∧ _))

section Written

variable {trace : Trace} {label : Label signature Party}

theorem recordWritten_append : recordWritten (trace ++ [label]) =
    (recordWritten trace || label.party = .api && label.command.writes.isSome) := by
  simp [recordWritten]

theorem eventWritten_append : eventWritten (trace ++ [label]) =
    (eventWritten trace || label.party = .api && !label.command.appends.isEmpty) := by
  simp [eventWritten]

end Written

/-! ## RQ's job object in a serial run -/

section HeldRecord

variable {settings : Settings} {new : NewCall} {polls : Nat → Nat} {env : Environment} {w w' : World}
  {command : Command} {reply : command.Reply}

/-- A record that is stored stays stored: the worker and RQ save whole records and push none. -/
private theorem record_stays (recorded : w.record.isSome) (noPush : ∀ payload, command ≠ .push payload)
    (saves : ∀ saved, command = .saveMeta saved ∨ command = .requeue saved → saved.llmCall.isSome)
    (answered : exec .worker command w = some (reply, w')) : w'.record.isSome := by
  obtain ⟨job, found⟩ : ∃ job, w.snapshot = some job := by
    cases found : w.snapshot with
    | none => simp [World.record_eq, found] at recorded
    | some job => exact ⟨job, rfl⟩
  by_cases save : ∃ saved, command = .saveMeta saved
  · obtain ⟨saved, rfl⟩ := save
    rw [record_saveMeta answered (by rw [found]; rfl)]
    exact saves saved (.inl rfl)
  · by_cases requeue : ∃ saved, command = .requeue saved
    · obtain ⟨saved, rfl⟩ := requeue
      rw [World.record_eq, (snapshot_requeue answered).1, found]
      exact saves saved (.inr rfl)
    · rwa [record_kept noPush (fun saved same => save ⟨saved, same⟩)
        (fun saved same => requeue ⟨saved, same⟩) answered]

private theorem worker_pushes_nothing {p q : WorkerPhase} (move : WorkerMoves settings p command reply q) :
    ∀ payload, command ≠ .push payload := by
  rintro payload rfl
  cases move with
  | attempt move =>
      cases move with
      | neutral neutral => exact Bool.false_ne_true neutral

/-- The record is stored, and whatever RQ may write back has one too. -/
structure HeldRecord (w : World) (phase : WorkerPhase) : Prop where
  recorded : w.record.isSome
  held : phase.Pending → ∀ jobMeta, phase.point.held = some jobMeta → jobMeta.llmCall.isSome

private theorem HeldRecord.attempt {left : Nat} {point after : WorkerPoint}
    (inv : HeldRecord w ⟨left, point⟩) (booked : WorkerOk settings w.snapshot w.reruns ⟨left, point⟩)
    (move : AttemptMoves settings point command reply after)
    (answered : exec .worker command w = some (reply, w')) (pending : WorkerPhase.Pending ⟨left, after⟩) :
    ∀ jobMeta, after.held = some jobMeta → jobMeta.llmCall.isSome := by
  intro jobMeta same
  obtain ⟨recorded, held⟩ := inv
  rw [World.record_eq] at recorded
  cases move with
  | neutral | uninterrupted | announceRetry => exact held pending jobMeta same
  | start | startInvalid | startUnreadable => exact held trivial jobMeta same
  | announceFailed => exact absurd booked.point pending
  | missing =>
      rw [← exec_fetchJob answered] at recorded
      cases recorded
  | fetch =>
      rw [← exec_fetchJob answered] at recorded
      cases same
      exact recorded
  | saveRetry | saveFailed =>
      unfold WorkerPoint.whenStreaming at same
      split at same
      all_goals
        cases same
        try rfl
  | saveProcessing | saveCompleted | saveRefused =>
      unfold WorkerPoint.whenStreaming at same
      split at same <;> cases same
  | _ => cases same

private theorem heldRecord_preserved :
    Preserved settings new workerAlone (Booked settings) fun _ w p => HeldRecord w p.worker where
  api _ _ alone := by cases alone
  cancel _ _ alone := by cases alone
  wait _ _ alone := by cases alone
  reaper _ _ alone := by cases alone
  worker := by
    intro trace w p command reply w' after booked inv _ move answered
    have booked := booked.1.worker
    have stays := fun saves => record_stays inv.recorded (worker_pushes_nothing move) saves answered
    generalize p.worker = worker at inv booked move
    cases move with
    | attempt move =>
        refine ⟨stays ?_, inv.attempt booked move answered⟩
        rintro saved (rfl | rfl)
        · obtain ⟨call, stores, _⟩ := move.saveKind
          rw [stores]
          rfl
        · cases move with
          | neutral neutral => exact absurd neutral Bool.false_ne_true
    | @requeue left raised jobMeta =>
        have pending : WorkerPhase.Pending ⟨left + 1, .raised raised jobMeta⟩ := by
          cases raised with
          | none => trivial
          | some => exact Nat.succ_ne_zero left
        refine ⟨stays ?_, by rintro _ _ ⟨⟩⟩
        rintro saved (same | same)
        · cases same
        · cases same
          exact inv.held pending jobMeta rfl
    | giveUp => exact ⟨stays (by rintro _ (same | same) <;> cases same), by rintro _ _ ⟨⟩⟩

/-- What RQ saves as it queues a job again has a record, where the enqueue came first. -/
private theorem requeued_record {start d : System} {saved : JobMeta} {next : Unit → Program signature Outcome}
    (enqueued : Enqueued settings new polls env start) (run : machine.Reach workerAlone start d)
    (issues : d.program .worker = .issue (.requeue saved) next) : saved.llmCall.isSome := by
  obtain ⟨phase, started⟩ := enqueued.started
  have only := started.only
  have recorded : start.world.record.isSome := by
    have done := only.api
    rw [started.finished] at done
    obtain ⟨_, _, _, job, _⟩ := done
    rw [World.record, job]
    rfl
  have atStart : HeldRecord start.world (Phases.of phase).worker :=
    ⟨recorded, by rw [only.worker]; rintro _ _ ⟨⟩⟩
  obtain ⟨phase, tracked, _, inv⟩ := heldRecord_preserved.reach_booked run started.tracked started.booked atStart
  have obeys := tracked .worker
  rw [issues] at obeys
  obtain ⟨after, move, _⟩ := obeys ()
  change WorkerMoves settings (Phases.of phase).worker _ _ _ at move
  generalize (Phases.of phase).worker = worker at inv move
  cases move with
  | attempt move =>
      cases move with
      | neutral neutral => exact absurd neutral Bool.false_ne_true
  | @requeue left raised jobMeta =>
      refine inv.held ?_ saved rfl
      cases raised with
      | none => trivial
      | some => exact Nat.succ_ne_zero left

end HeldRecord

/-! ## The worker ahead -/

section Lags

variable {job : Option RQJob} {p p' : Program signature Outcome} {w w' : World} {command : Command}
  {next : command.Reply → Program signature Outcome} {reply : command.Reply}

/-- The worker of the run ahead is where this one is, or has started from the record of a
    job that this one has read bare, and neither has checked for a cancellation yet. -/
def Lags (job : Option RQJob) (p p' : Program signature Outcome) : Prop :=
  p' = p ∨ ∃ payload jobMeta status, job = some ⟨payload, jobMeta, status, none⟩ ∧ payload.validates = true ∧
    (jobMeta = {} ∨ ∃ elapsed, jobMeta = recordedMeta payload elapsed) ∧ (StartAlike p p' ∨ CheckAlike p p')

/-- Whatever else the worker has come to, both have come to it. -/
theorem Lags.same (lags : Lags job (.issue command next) p') (notStarting : command ≠ .setStatus .started)
    (notChecking : command.looksFirst = false) : p' = .issue command next := by
  rcases lags with same | ⟨_, _, _, _, _, _, ⟨_, _, same, _⟩ | ⟨_, _, same, _⟩⟩
  · exact same
  · cases same
    exact absurd rfl notStarting
  · cases same
    exact absurd notChecking.symm Bool.false_ne_true

theorem Lags.ended {out : Outcome} (lags : Lags job (.done out) p') : p' = .done out := by
  rcases lags with same | ⟨_, _, _, _, _, _, ⟨_, _, same, _⟩ | ⟨_, _, same, _⟩⟩
  · exact same
  · cases same
  · cases same

/-- Both take the same step, and a check that finds the record brings them together. -/
theorem Lags.step (lags : Lags w.job (.issue command next) p')
    (written : command.looksFirst = true → w.record.isSome)
    (answered : exec .worker command w = some (reply, w')) :
    ∃ next', p' = .issue command next' ∧ Lags w'.job (next reply) (next' reply) := by
  rcases lags with same | ⟨payload, jobMeta, status, job, valid, stored, ⟨_, next', same, rfl, alike⟩ |
    ⟨_, next', same, rfl, alike⟩⟩
  · exact ⟨next, same, .inl rfl⟩
  · cases same
    obtain rfl := exec_setStatus answered
    refine ⟨next', rfl, .inr ⟨payload, jobMeta, .started, ?_, valid, stored, .inr alike⟩⟩
    rw [World.mapJob, job]
    rfl
  · cases same
    have found := written rfl
    rw [World.record, job] at found
    obtain rfl | ⟨elapsed, rfl⟩ := stored
    · cases found
    have read : reply = some ⟨payload, recordedMeta payload elapsed, none⟩ := by
      rw [exec_fetchJob answered, World.snapshot, job]
      rfl
    have readable : readPayload reply = some (payload.withElapsed elapsed) := by
      rw [read]
      change (some (payload.withElapsed elapsed)).filter LLMCallJob.validates = _
      exact Option.filter_eq_some_iff.mpr ⟨rfl, valid⟩
    exact ⟨next', rfl, .inl (alike reply (by rw [readable]; rfl))⟩

end Lags

/-! ## The run ahead -/

section Twin

variable {settings : Settings} {new : NewCall} {polls : Nat → Nat} {env : Environment}

/-- What is known of a run while the API still has this to do. -/
def PublishPhase.Reached (settings : Settings) (new : NewCall) (c : System) : PublishPhase → Prop
  | .admitting => c.program .worker = runJob settings (rqRetries settings) ∧ c.world.queued = false ∧
      c.world.events = [] ∧ recordWritten c.trace = false ∧ eventWritten c.trace = false
  | .pushed payload => Unread payload (c.program .worker) ∧ payload.validates = true ∧
      (∃ status, c.world.job = some ⟨payload, {}, status, none⟩) ∧
      c.world.events = [] ∧ recordWritten c.trace = false ∧ eventWritten c.trace = false
  | .saved => c.world.record.isSome ∧ (new.callType = .streamingTextGeneration → c.world.events = []) ∧
      recordWritten c.trace = true ∧ eventWritten c.trace = false
  | .announced => c.world.record.isSome ∧ c.world.events ≠ [] ∧
      recordWritten c.trace = true ∧ eventWritten c.trace = true

/-- The system with the worker at this point of its program. -/
def withWorker (c : System) (p : Program signature Outcome) : System :=
  ⟨c.trace, c.world, Function.update c.program .worker p⟩

/-- `d` is a serial run that is as far as `c`, but for what the API still has to do in `c`. -/
structure Twin (settings : Settings) (new : NewCall) (polls : Nat → Nat) (env : Environment)
    (phase : PublishPhase) (c d : System) : Prop where
  obeys : (c.program .api).Obeys (PublishMoves new) Published phase
  lags : Lags c.world.job (c.program .worker) (d.program .worker)
  ahead : ∃ commands, machine.Ahead .api commands (withWorker c (d.program .worker)) d
  serial : ∃ start out, machine.Reach apiAlone (boot settings new polls env) start ∧
    start.program .api = .done out ∧ machine.Reach workerAlone start d
  reached : phase.Reached settings new c

private theorem api_ne_worker : Party.api ≠ .worker := by decide

private theorem boot_twin : ∃ d, Twin settings new polls env .admitting (boot settings new polls env) d := by
  have obeys : ((boot settings new polls env).program .api).Obeys (PublishMoves new) Published .admitting :=
    enqueueLlmCall_publishes
  obtain ⟨⟨commands, last, out⟩, ends⟩ := publishing_ends obeys (w := (boot settings new polls env).world)
  let d : System := ⟨(boot settings new polls env).trace ++ commands.map (Label.mk .api), last,
    Function.update (boot settings new polls env).program .api (.done out)⟩
  have alone : machine.Reach apiAlone (boot settings new polls env) d :=
    Machine.alone_reach (fun _ _ _ => rfl) rfl ends
  have ended : d.program .api = .done out := by simp only [d, Function.update_self]
  have worker : d.program .worker = (boot settings new polls env).program .worker :=
    Function.update_of_ne api_ne_worker.symm (.done out) _
  refine ⟨d, obeys, .inl worker, ⟨commands, ?_⟩, ⟨d, out, alone, ended, .refl⟩, ?_⟩
  · rw [withWorker, worker, Function.update_eq_self]
    exact ⟨out, ends, rfl⟩
  · exact ⟨rfl, rfl, rfl, rfl, rfl⟩

variable {phase : PublishPhase} {trace : Trace} {w w' : World} {program : Party → Program signature Outcome}
  {d : System} {command : Command} {next : command.Reply → Program signature Outcome} {reply : command.Reply}

private theorem runJob_pops (settings : Settings) (retriesLeft : Nat) :
    ∃ next, runJob settings retriesLeft = .issue .pop next := by
  cases retriesLeft with
  | zero => exact ⟨_, rfl⟩
  | succ retriesLeft => exact ⟨_, rfl⟩

/-- A step of the API leaves the worker as far behind as it was. -/
private theorem Lags.api_step {after : PublishPhase} {p' : Program signature Outcome}
    (lags : Lags w.job (program .worker) p') (reached : phase.Reached settings new ⟨trace, w, program⟩)
    (move : PublishMoves new phase command reply after)
    (answered : exec .api command w = some (reply, w')) : Lags w'.job (program .worker) p' := by
  cases move with
  | ask neutral =>
      rw [(exec_passive (Command.isPassive_of_isNeutral neutral) answered).job]
      exact lags
  | push =>
      obtain ⟨next, pops⟩ := runJob_pops settings (rqRetries settings)
      have worker : program .worker = .issue .pop next := reached.1.trans pops
      rw [worker] at lags ⊢
      exact .inl (lags.same (by rintro ⟨⟩) rfl)
  | stamp | locate =>
      rw [(exec_passive rfl answered).job]
      exact lags
  | @save payload elapsed =>
      obtain ⟨_, valid, ⟨status, job⟩, _⟩ := reached
      change w.job = _ at job
      obtain rfl := exec_saveMeta answered
      rcases lags with same | ⟨payload', _, status', job', _, _, alike⟩
      · exact .inl same
      · cases job.symm.trans job'
        refine .inr ⟨payload, recordedMeta payload elapsed, status, ?_, valid, .inr ⟨elapsed, rfl⟩, alike⟩
        rw [World.mapJob, job]
        rfl
  | announce =>
      obtain rfl := exec_xadd answered
      exact lags

/-- A step of the API is one the run ahead has already taken. -/
private theorem Twin.api_step (twin : Twin settings new polls env phase ⟨trace, w, program⟩ d)
    (issues : program .api = .issue command next) (answered : exec .api command w = some (reply, w')) :
    ∃ after, Twin settings new polls env after
      ⟨trace ++ [⟨.api, command⟩], w', Function.update program .api (next reply)⟩ d := by
  obtain ⟨obeys, lags, ⟨commands, ahead⟩, serial, reached⟩ := twin
  simp only [issues, Program.obeys_issue] at obeys
  obtain ⟨after, move, rest⟩ := obeys reply
  have worker : Function.update program .api (next reply) .worker = program .worker :=
    Function.update_of_ne api_ne_worker.symm _ _
  obtain ⟨remaining, _, stillAhead⟩ := ahead.ownStep (trace ++ [⟨.api, command⟩])
    ((Function.update_of_ne api_ne_worker _ _).trans issues) answered
  rw [Function.update_comm api_ne_worker.symm] at stillAhead
  refine ⟨after, by simpa only [Function.update_self] using rest, ?_, ⟨remaining, stillAhead⟩, serial, ?_⟩
  · simpa only [worker] using lags.api_step reached move answered
  simp only [PublishPhase.Reached, worker, recordWritten_append, eventWritten_append]
  cases move with
  | ask neutral =>
      obtain ⟨idle, queued, events, unsaved, unannounced⟩ := reached
      have silent : command.writes = none ∧ command.appends = [] := by
        cases command <;> first | exact ⟨rfl, rfl⟩ | exact absurd neutral Bool.false_ne_true
      have same := exec_passive (Command.isPassive_of_isNeutral neutral) answered
      refine ⟨idle, same.queued.trans queued, same.events.trans events, ?_, ?_⟩
      · simp [unsaved, silent.1]
      · simp [unannounced, silent.2]
  | push valid =>
      obtain ⟨idle, _, events, unsaved, unannounced⟩ := reached
      obtain rfl := exec_push answered
      refine ⟨?_, valid, ⟨_, rfl⟩, events, by simp [unsaved, Command.writes],
        by simp [unannounced, Command.appends]⟩
      change program .worker = _ at idle
      rw [idle]
      exact runJob_unread valid _
  | stamp =>
      obtain ⟨unread, valid, ⟨status, job⟩, events, unsaved, unannounced⟩ := reached
      have same := exec_passive rfl answered
      exact ⟨unread, valid, ⟨status, same.job.trans job⟩, same.events.trans events,
        by simp [unsaved, Command.writes], by simp [unannounced, Command.appends]⟩
  | save =>
      obtain ⟨_, _, ⟨status, job⟩, events, _, unannounced⟩ := reached
      obtain rfl := exec_saveMeta answered
      refine ⟨?_, fun _ => events, by simp [Command.writes, recordedMeta], by simp [unannounced, Command.appends]⟩
      change w.job = _ at job
      simp [World.record, World.mapJob, job, recordedMeta]
  | locate =>
      obtain ⟨recorded, events, saved, unannounced⟩ := reached
      have same := exec_passive rfl answered
      refine ⟨?_, fun streaming => same.events.trans (events streaming), by simp [saved],
        by simp [unannounced, Command.appends]⟩
      rwa [same.record]
  | announce =>
      obtain ⟨recorded, _, saved, _⟩ := reached
      obtain rfl := exec_xadd answered
      exact ⟨recorded, by simp, by simp [saved], by simp [Command.appends]⟩

/-- A step of the worker that nothing the API still does can tell from an earlier one. -/
private theorem Twin.follow (twin : Twin settings new polls env phase ⟨trace, w, program⟩ d)
    (issues : program .worker = .issue command next) (answered : exec .worker command w = some (reply, w'))
    (written : command.looksFirst = true → w.record.isSome)
    (apart : ∀ own, phase.Allows new own → machine.Independent ⟨.api, own⟩ ⟨.worker, command⟩)
    (reached : phase.Reached settings new
      ⟨trace ++ [⟨.worker, command⟩], w', Function.update program .worker (next reply)⟩) :
    ∃ e, Twin settings new polls env phase
      ⟨trace ++ [⟨.worker, command⟩], w', Function.update program .worker (next reply)⟩ e := by
  obtain ⟨obeys, lags, ⟨commands, ahead⟩, ⟨start, out, alone, ended, serial⟩, _⟩ := twin
  change Lags w.job (program .worker) _ at lags
  rw [issues] at lags
  obtain ⟨next', issued, lags⟩ := lags.step written answered
  have allowed : ∀ own ∈ commands, phase.Allows new own := by
    obtain ⟨value, ends, _⟩ := ahead
    simp only [withWorker, Function.update_of_ne api_ne_worker] at ends
    exact publishing_commands obeys ends
  obtain ⟨last, taken, stillAhead⟩ :=
    ahead.otherStep next' api_ne_worker.symm (fun own member => apart own (allowed own member)) answered
  refine ⟨_, ?_, ?_, ⟨commands, ?_⟩, ⟨start, out, alone, ended, serial.tail (.issue issued rfl taken)⟩, reached⟩
  · simpa only [Function.update_of_ne api_ne_worker] using obeys
  · simpa only [Function.update_self] using lags
  · simpa only [withWorker, Function.update_self, Function.update_idem] using stillAhead

/-- RQ reads the job for an attempt: what it finds differs, and the attempt goes on alike. -/
private theorem Twin.dequeue {payload : LLMCallJob} {next : Option Snapshot → Program signature Outcome}
    {reply : Option Snapshot} (twin : Twin settings new polls env (.pushed payload) ⟨trace, w, program⟩ d)
    (issues : program .worker = .issue (.fetchJob .dequeue) next)
    (answered : exec .worker (.fetchJob .dequeue) w = some (reply, w')) :
    ∃ e, Twin settings new polls env (.pushed payload)
      ⟨trace ++ [⟨.worker, .fetchJob .dequeue⟩], w', Function.update program .worker (next reply)⟩ e := by
  obtain ⟨obeys, lags, ⟨commands, value, ends, programs⟩, ⟨start, out, alone, ended, serial⟩,
    unread, valid, ⟨status, job⟩, events, unsaved, unannounced⟩ := twin
  change program .worker = _ at issues
  change Lags w.job (program .worker) _ at lags
  simp only [issues] at unread
  rw [issues] at lags
  have issued : d.program .worker = .issue (.fetchJob .dequeue) next := lags.same (by rintro ⟨⟩) rfl
  obtain ⟨goesOn, alike⟩ := unread
  simp only [withWorker, Function.update_of_ne api_ne_worker] at ends
  have same : w' = w := by
    unfold exec at answered
    split at answered <;> cases answered
    rfl
  have read : reply = some ⟨payload, {}, none⟩ := by
    change w.job = _ at job
    rw [exec_fetchJob answered, World.snapshot, job]
    rfl
  have present := exec_worker_present answered
  subst same read
  obtain ⟨lost, elapsed, stored⟩ := publishing_stores obeys ends job
  have taken : machine.exec .worker (.fetchJob .dequeue) d.world =
      some (some ⟨payload, recordedMeta payload elapsed, none⟩, d.world) := by
    change d.world.workerLost = w'.workerLost at lost
    change d.world.job = _ at stored
    simp [machine, exec, lost, present, stored]
  refine ⟨⟨d.trace ++ [⟨.worker, .fetchJob .dequeue⟩], d.world,
    Function.update d.program .worker (next (some ⟨payload, recordedMeta payload elapsed, none⟩))⟩, ?_, ?_,
    ⟨commands, value, ?_, ?_⟩, ⟨start, out, alone, ended, serial.tail (.issue issued rfl taken)⟩, ?_⟩
  · simpa only [Function.update_of_ne api_ne_worker] using obeys
  · simp only [Function.update_self]
    exact .inr ⟨payload, {}, status, job, valid, .inl rfl, .inl (alike elapsed)⟩
  · simpa only [withWorker, Function.update_of_ne api_ne_worker] using ends
  · simp only [withWorker, Function.update_self, Function.update_idem]
    rw [programs, Function.update_comm api_ne_worker]
    simp only [withWorker, Function.update_idem]
  · refine ⟨?_, valid, ⟨status, job⟩, events, ?_, ?_⟩
    · simpa only [Function.update_self] using goesOn
    · simpa [recordWritten_append] using unsaved
    · simpa [eventWritten_append] using unannounced

/-- Short of its first check and of RQ's read, the worker only moves the job about. -/
private theorem unread_moves {payload : LLMCallJob} (unread : Unread payload (.issue command next))
    (notRead : command ≠ .fetchJob .dequeue) (notChecked : command.looksFirst = false) :
    command.movesJob ∧ ∀ reply, Unread payload (next reply) := by
  cases command with
  | fetchJob site =>
      cases site with
      | dequeue => exact absurd rfl notRead
      | startCheck => exact absurd notChecked.symm Bool.false_ne_true
      | _ => exact absurd unread.1 Bool.false_ne_true
  | _ => exact unread

private theorem exec_moves {payload : LLMCallJob} {jobMeta : JobMeta} (moves : command.movesJob)
    (answered : exec .worker command w = some (reply, w'))
    (job : ∃ status, w.job = some ⟨payload, jobMeta, status, none⟩) :
    ∃ status, w'.job = some ⟨payload, jobMeta, status, none⟩ := by
  obtain ⟨status, job⟩ := job
  cases command with
  | pop =>
      obtain ⟨_, rfl⟩ := exec_pop answered
      exact ⟨status, job⟩
  | setStatus next =>
      obtain rfl := exec_setStatus answered
      exact ⟨next, by simp [World.mapJob, job]⟩
  | _ => exact absurd moves Bool.false_ne_true

/-- With the record written the enqueue returns, so what RQ queues again has a record. -/
private theorem Twin.saves (twin : Twin settings new polls env phase ⟨trace, w, program⟩ d)
    (past : phase = .saved ∨ phase = .announced) (issues : program .worker = .issue command next)
    (sound : command.Sound) :
    ∀ saved, command = .saveMeta saved ∨ command = .requeue saved → saved.llmCall.isSome := by
  rintro saved (rfl | rfl)
  · obtain ⟨call, stores, _⟩ := sound
    rw [stores]
    rfl
  · obtain ⟨obeys, lags, ⟨commands, value, ends, programs⟩, ⟨start, out, alone, ended, serial⟩, _⟩ := twin
    change Lags w.job (program .worker) _ at lags
    rw [issues] at lags
    have issued := lags.same (by rintro ⟨⟩) rfl
    simp only [withWorker, Function.update_of_ne api_ne_worker] at ends
    obtain ⟨call, rfl⟩ : ∃ call, value = .ok call := publishing_returns obeys past ends
    obtain ⟨_, _, kept⟩ := serial.history
    have returned := (kept .api out ended).1
    rw [programs, Function.update_self] at returned
    cases returned
    exact requeued_record ⟨alone, call, ended⟩ serial issued

private theorem Twin.worker_step (twin : Twin settings new polls env phase ⟨trace, w, program⟩ d)
    (issues : program .worker = .issue command next) (allowed : writtenFirst new trace w ⟨.worker, command⟩)
    (noPush : ∀ payload, command ≠ .push payload) (sound : command.Sound)
    (answered : exec .worker command w = some (reply, w')) :
    ∃ e, Twin settings new polls env phase
      ⟨trace ++ [⟨.worker, command⟩], w', Function.update program .worker (next reply)⟩ e := by
  obtain ⟨looks, appends⟩ := allowed.2 rfl
  have reached := twin.reached
  cases phase with
  | admitting =>
      obtain ⟨idle, queued, _⟩ := reached
      obtain ⟨next', pops⟩ := runJob_pops settings (rqRetries settings)
      cases issues.symm.trans (idle.trans pops)
      exact absurd ((exec_pop answered).1.symm.trans queued) Bool.false_ne_true.symm
  | pushed payload =>
      obtain ⟨unread, valid, job, events, unsaved, unannounced⟩ := reached
      simp only [issues] at unread
      by_cases reads : command = .fetchJob .dequeue
      · subst reads
        exact twin.dequeue issues answered
      · have notChecked : command.looksFirst = false :=
          Bool.eq_false_iff.mpr fun checks => by cases unsaved.symm.trans (looks checks)
        obtain ⟨moves, goesOn⟩ := unread_moves unread reads notChecked
        have silent : ∀ event, command ≠ .xadd event := by
          rintro event rfl
          exact Bool.false_ne_true moves
        refine twin.follow issues answered (fun checks => absurd (notChecked.symm.trans checks) Bool.false_ne_true)
          (fun own => moving_independent moves)
          ⟨?_, valid, exec_moves moves answered job, (exec_events silent answered).trans events, ?_, ?_⟩
        · simpa only [Function.update_self] using goesOn reply
        · simpa [recordWritten_append] using unsaved
        · simpa [eventWritten_append] using unannounced
  | saved =>
      obtain ⟨recorded, events, saved, unannounced⟩ := reached
      have silent : new.callType = .streamingTextGeneration → ∀ event, command ≠ .xadd event := by
        rintro streaming event rfl
        exact Bool.false_ne_true (unannounced.symm.trans (appends (List.cons_ne_nil _ _) streaming))
      refine twin.follow issues answered (fun _ => recorded) (fun own allowed => announcing_independent allowed silent)
        ⟨record_stays recorded noPush (twin.saves (.inl rfl) issues sound) answered, ?_, ?_, ?_⟩
      · exact fun streaming => (exec_events (silent streaming) answered).trans (events streaming)
      · simpa [recordWritten_append] using saved
      · simpa [eventWritten_append] using unannounced
  | announced =>
      obtain ⟨recorded, events, saved, announced⟩ := reached
      refine twin.follow issues answered (fun _ => recorded) (fun own => False.elim)
        ⟨record_stays recorded noPush (twin.saves (.inr rfl) issues sound) answered, ?_, ?_, ?_⟩
      · rw [exec_appends answered]
        exact List.append_ne_nil_of_left_ne_nil events _
      · simpa [recordWritten_append] using saved
      · simpa [eventWritten_append] using announced

/-- Every run in order has its serial run, as far as itself. -/
private theorem reached_twin {c : System} (run : machine.Reach (writtenFirst new) (boot settings new polls env) c) :
    ∃ phase d, Twin settings new polls env phase c d := by
  induction run with
  | refl => exact ⟨_, boot_twin⟩
  | tail run step ih =>
      obtain ⟨phase, d, twin⟩ := ih
      have grown : machine.Reach (writtenFirst new) (boot settings new polls env) _ := run.tail step
      cases step with
      | @issue trace w program party command next reply w' issues allowed answered =>
          rcases allowed.1 with rfl | rfl
          · obtain ⟨after, followed⟩ := twin.api_step issues answered
            exact ⟨after, d, followed⟩
          · obtain ⟨_, tracked⟩ := reached_tracked run
            have obeys := tracked .worker
            simp only [issues, Program.obeys_issue] at obeys
            obtain ⟨_, move, _⟩ := obeys reply
            obtain ⟨_, _, _, logged⟩ := reached_bookkeeping grown
            have sound := logged ⟨.worker, command⟩ (by simp)
            exact ⟨phase, twin.worker_step issues allowed (worker_pushes_nothing move) sound answered⟩

end Twin

section Serial

variable {settings : Settings} {new : NewCall} {polls : Nat → Nat} {env : Environment} {c d : System}

/-- All serial runs that end leave the same world. -/
private theorem inTurn_unique (first : InTurn settings new polls env c) (second : InTurn settings new polls env d)
    (firstEnds : Finished c) (secondEnds : Finished d) : d.world = c.world := by
  obtain ⟨start, ⟨enqueues, call, returned⟩, runs⟩ := first
  obtain ⟨start', ⟨enqueues', call', returned'⟩, runs'⟩ := second
  obtain ⟨out, ended⟩ := firstEnds.worker
  obtain ⟨out', ended'⟩ := secondEnds.worker
  obtain ⟨_, ahead⟩ := enqueues.ahead (fun _ _ _ => id) returned
  obtain ⟨_, ahead'⟩ := enqueues'.ahead (fun _ _ _ => id) returned'
  obtain ⟨world, program⟩ := ahead.unique rfl rfl ahead'
  obtain ⟨_, further⟩ := runs.ahead (fun _ _ _ => id) ended
  obtain ⟨_, further'⟩ := runs'.ahead (fun _ _ _ => id) ended'
  exact (further.unique world program further').1

/-- A run in order that ends does so in the world of a serial run. -/
private theorem Twin.finished {phase : PublishPhase} (twin : Twin settings new polls env phase c d) (ends : Finished c) :
    InTurn settings new polls env d ∧ Finished d ∧ d.world = c.world := by
  obtain ⟨_, lags, ⟨_, ahead⟩, ⟨start, out, alone, returned, serial⟩, _⟩ := twin
  obtain ⟨⟨call, api⟩, finished, worker⟩ := ends
  rw [worker] at lags
  have done : (withWorker c (d.program .worker)).program .api = .done (.ok call) :=
    (Function.update_of_ne api_ne_worker (d.program .worker) _).trans api
  obtain ⟨_, world, program⟩ := ahead.same done
  have ended : d.program .api = .done (.ok call) := by rw [program, done]
  obtain ⟨_, _, kept⟩ := serial.history
  cases ended.symm.trans (kept .api out returned).1
  exact ⟨⟨start, ⟨alone, call, returned⟩, serial⟩, ⟨⟨call, ended⟩, finished, lags.ended⟩, world⟩

/-- The worker's next check finds its payload exactly if the record is written. -/
private theorem Twin.check {phase : PublishPhase} {next : Option Snapshot → Program signature Outcome}
    (twin : Twin settings new polls env phase c d)
    (checks : c.program .worker = .issue (.fetchJob .startCheck) next) :
    c.world.record.isSome ↔ recordWritten c.trace = true := by
  have reached := twin.reached
  cases phase with
  | admitting =>
      obtain ⟨_, pops⟩ := runJob_pops settings (rqRetries settings)
      cases checks.symm.trans (reached.1.trans pops)
  | pushed payload =>
      obtain ⟨_, _, ⟨status, job⟩, _, unsaved, _⟩ := reached
      simp [World.record, job, unsaved]
  | saved => exact iff_of_true reached.1 reached.2.2.1
  | announced => exact iff_of_true reached.1 reached.2.2.1

/-- The stream of a streaming job has its first event exactly if the API has appended it. -/
private theorem Twin.stream {phase : PublishPhase} (twin : Twin settings new polls env phase c d)
    (streaming : new.callType = .streamingTextGeneration) : c.world.events ≠ [] ↔ eventWritten c.trace = true := by
  have reached := twin.reached
  cases phase with
  | admitting => simp [reached.2.2.1, reached.2.2.2.2]
  | pushed payload => simp [reached.2.2.2.1, reached.2.2.2.2.2]
  | saved => simp [reached.2.1 streaming, reached.2.2.2]
  | announced => exact iff_of_true reached.2.1 reached.2.2.2

private theorem Twin.save {phase : PublishPhase} {saved : JobMeta} {next : Unit → Program signature Outcome}
    (twin : Twin settings new polls env phase c d) (issues : c.program .api = .issue (.saveMeta saved) next) :
    c.world.record = none := by
  have obeys := twin.obeys
  simp only [issues, Program.obeys_issue] at obeys
  obtain ⟨_, move, _⟩ := obeys ()
  have reached := twin.reached
  cases move with
  | ask neutral => exact absurd neutral Bool.false_ne_true
  | save =>
      obtain ⟨_, _, ⟨status, job⟩, _⟩ := reached
      rw [World.record, job]
      rfl

/-- Where a run of the API and the worker has led in which the record is written before the
    worker's first check and the event before the worker's first: the next check finds its
    payload exactly if the record is written, the stream of a streaming job has begun exactly
    if the API has begun it, and the API overwrites no record. If the run has ended, it came to
    what the enqueue and the attempts come to one after the other. -/
theorem enqueue_serializable (run : machine.Reach (writtenFirst new) (boot settings new polls env) d) :
    (∀ next, d.program .worker = .issue (.fetchJob .startCheck) next →
      (d.world.record.isSome ↔ recordWritten d.trace = true)) ∧
    (new.callType = .streamingTextGeneration → (d.world.events ≠ [] ↔ eventWritten d.trace = true)) ∧
    (∀ saved next, d.program .api = .issue (.saveMeta saved) next → d.world.record = none) ∧
    (Finished d → (∃ s, InTurn settings new polls env s ∧ Finished s) ∧
      ∀ s, InTurn settings new polls env s → Finished s → SameEnd s d) := by
  obtain ⟨phase, serial, twin⟩ := reached_twin run
  refine ⟨fun next => twin.check, twin.stream, fun saved next => twin.save, fun ends => ?_⟩
  obtain ⟨inTurn, finished, world⟩ := twin.finished ends
  refine ⟨⟨serial, inTurn, finished⟩, fun s runs ended => ?_⟩
  have same : s.world = d.world := (inTurn_unique inTurn runs finished ended).trans world
  exact ⟨by rw [same], by rw [same], by rw [same], by rw [same]⟩

/-- The worker takes a streaming job right after the push and reads it before the record is
    written, and the API writes it, and then its event, each just in time. -/
theorem enqueue_serializable_demo : ∃ d s : System, Finished d ∧ d.world.storedStatus = some .completed ∧
    InTurn demoSettings (demoCall .streamingTextGeneration) (fun _ => 0) demoEnvironment s ∧ SameEnd s d := by
  obtain ⟨d, run, seen⟩ := Machine.schedule_observed machine (writtenFirst (demoCall .streamingTextGeneration))
    (List.replicate 6 .api ++ List.replicate 3 .worker ++ List.replicate 2 .api ++ List.replicate 8 .worker ++
      List.replicate 2 .api ++ List.replicate 39 .worker)
    (boot demoSettings (demoCall .streamingTextGeneration) (fun _ => 0) demoEnvironment)
    (fun d => (decide (Finished d), d.world.storedStatus)) (true, some .completed) (by decide +kernel)
  obtain ⟨ends, completed⟩ := Prod.mk.inj seen
  have finished := of_decide_eq_true ends
  obtain ⟨⟨s, inTurn, ended⟩, same⟩ := (enqueue_serializable run).2.2.2 finished
  exact ⟨d, s, finished, completed, inTurn, same s inTurn ended⟩

/-- The worker checks for a cancellation before the record is written: the attempt raises, RQ
    gives the job up, and the API then stores it as queued. In turn the job completes. -/
theorem enqueue_overtaken : ∃ d s : System,
    machine.Reach apiAndWorker (boot noRetries (demoCall .textGeneration) (fun _ => 0) demoEnvironment) d ∧
      Finished d ∧ d.world.rqStatus = some .failed ∧ d.world.storedStatus = some .queued ∧
      InTurn noRetries (demoCall .textGeneration) (fun _ => 0) demoEnvironment s ∧
      Finished s ∧ s.world.rqStatus = some .finished ∧ s.world.storedStatus = some .completed ∧
      ¬SameEnd s d := by
  obtain ⟨d, run, seen⟩ := Machine.schedule_observed machine apiAndWorker
    (List.replicate 6 .api ++ List.replicate 5 .worker ++ List.replicate 2 .api)
    (boot noRetries (demoCall .textGeneration) (fun _ => 0) demoEnvironment)
    (fun d => (decide (Finished d), d.world.rqStatus, d.world.storedStatus))
    (true, some .failed, some .queued) (by decide +kernel)
  obtain ⟨ends, verdict⟩ := Prod.mk.inj seen
  obtain ⟨failed, queued⟩ := Prod.mk.inj verdict
  obtain ⟨c, enqueued, later⟩ := enqueued_observed noRetries (demoCall .textGeneration)
    (fun _ => 0) demoEnvironment (List.replicate 8 .api)
    (fun c => (machine.schedule workerAlone (List.replicate 28 .worker) c).map fun s =>
      (decide (Finished s), s.world.rqStatus, s.world.storedStatus))
    (true, some .finished, some .completed) (by decide +kernel) (by decide +kernel)
  obtain ⟨s, scheduled, seen⟩ := Option.map_eq_some_iff.mp later
  obtain ⟨serialEnds, verdict⟩ := Prod.mk.inj seen
  obtain ⟨finished, completed⟩ := Prod.mk.inj verdict
  refine ⟨d, s, run, of_decide_eq_true ends, failed, queued,
    ⟨c, enqueued, Machine.schedule_reach scheduled⟩, of_decide_eq_true serialEnds, finished, completed, ?_⟩
  intro same
  cases failed.symm.trans (same.rqStatus.symm.trans finished)

end Serial

end LanguageAgent.Queue
