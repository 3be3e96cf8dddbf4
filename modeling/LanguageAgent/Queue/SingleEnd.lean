import LanguageAgent.Queue.Enqueueing
import LanguageAgent.Queue.EventLog

/-! # One end to a job's stream

Canceller and worker append to the stream without looking at it. It ends once where
every canceller that cancels a queued job has really taken it off the queue, and where
nobody who runs late appends after the end.
-/

namespace LanguageAgent.Queue

open Interleaving

/-- The stream holds an event that ends the job. -/
def World.over (w : World) : Bool := w.events.any isTerminalEvent

/-- A canceller removes the job only while it is on the queue, announces a request only
    while the stream is open, and no exception strikes the worker once it is not. -/
def endsOnce (w : World) (label : Label signature Party) : Bool :=
  match label.party, label.command with
  | .cancel _, .remove => w.queued
  | .cancel _, .xadd event => isTerminalEvent event || !w.over
  | .worker, .interrupt => !w.over || (w.env.interrupts w.interruptChecks).isNone
  | _, _ => true

def streamEndsOnce : Guard signature Party World := fun _ w label => endsOnce w label = true

instance (trace : Trace) (w : World) (label : Label signature Party) :
    Decidable (streamEndsOnce trace w label) := inferInstanceAs (Decidable (_ = true))

/-! ## The invariant -/

/-- The canceller has taken the job off the queue and has not yet announced it. -/
def CancelPhase.holdsJob : CancelPhase → Bool
  | .removed _ _ | .saved | .marked => true
  | _ => false

/-- The request a canceller announces is for a job that had not ended. -/
def CancelPhase.LiveRequest : CancelPhase → Prop
  | .requesting _ call => call.status.isTerminal = false
  | .requested status => status.isTerminal = false
  | _ => True

/-- What the copy says at the points where its status is announced. -/
def WorkerPhase.Announces (phase : WorkerPhase) : Prop :=
  match phase.point with
  | .announcing copy => copy.call.status = .processing
  | .streamSaved copy | .opening copy | .reading copy _ _ _ | .publishing copy _ _ _ _
  | .checking copy _ _ _ => copy.call.status = .streaming
  | .retryDue copy => copy.call.status = .queued
  | _ => True

/-- The worker appends nothing more. -/
def WorkerPhase.Over (queued : Bool) (phase : WorkerPhase) : Prop :=
  match phase.point with
  | .idle => queued = false
  | .returning _ _ | .ended => True
  | .raised _ _ => phase.left = 0
  | _ => False

structure SingleEnd (w : World) (p : Phases) : Prop where
  api : p.api = .finished
  waiting : w.queued = true → p.worker.point = .idle
  announces : p.worker.Announces
  live : ∀ call, (p.cancel call).LiveRequest
  removing : ∀ call, (p.cancel call).holdsJob = true → w.queued = false ∧ p.worker.point = .idle ∧
    OpenStream w.events ∧ ∀ other, (p.cancel other).holdsJob = true → other = call
  stream : OpenStream w.events ∨ (∃ before final, w.events = before ++ [final] ∧
    OpenStream before ∧ isTerminalEvent final = true) ∧ p.worker.Over w.queued

section Streams

variable {w : World}

theorem World.over_of_ended {before : List Dict} {final : Dict} (split : w.events = before ++ [final])
    (terminal : isTerminalEvent final = true) : w.over = true := by
  rw [World.over, split, List.any_append, List.any_cons, terminal, Bool.true_or, Bool.or_true]

theorem World.open_of_over (isOpen : w.over = false) : OpenStream w.events :=
  fun event member => Bool.eq_false_iff.mpr (List.any_eq_false.mp isOpen event member)

end Streams

section Worker

variable {settings : Settings} {w w' : World} {p : Phases} {left : Nat} {point after : WorkerPoint}
  {command : Command} {reply : command.Reply}

/-- A worker that has not taken the job appends nothing, and only takes it. -/
theorem AttemptMoves.from_idle (move : AttemptMoves settings point command reply after)
    (idle : point = .idle) : command = .pop ∨ after = .idle ∧ command.appends = [] ∧
      command.keepsQueue = true := by
  subst idle
  cases move with
  | neutral neutral =>
      refine .inr ⟨rfl, Command.appends_neutral neutral, ?_⟩
      cases command <;> first | rfl | exact absurd neutral Bool.false_ne_true
  | uninterrupted => exact .inr ⟨rfl, rfl, rfl⟩
  | interrupted held | interruptedLoop held => cases held
  | pop => exact .inl rfl

theorem AttemptMoves.keepsQueue (move : AttemptMoves settings point command reply after)
    (notPop : command ≠ .pop) : command.keepsQueue = true := by
  cases move with
  | neutral neutral => cases command <;> first | rfl | exact absurd neutral Bool.false_ne_true
  | pop => exact absurd rfl notPop
  | _ => rfl

theorem AttemptMoves.announces (move : AttemptMoves settings point command reply after)
    (announces : WorkerPhase.Announces ⟨left, point⟩) : WorkerPhase.Announces ⟨left, after⟩ := by
  cases move with
  | saveProcessing | saveRetry =>
      exact WorkerPoint.whenStreaming_cases (motive := fun after => WorkerPhase.Announces ⟨left, after⟩)
        rfl trivial
  | saveCompleted | saveRefused | saveFailed =>
      exact WorkerPoint.whenStreaming_cases (motive := fun after => WorkerPhase.Announces ⟨left, after⟩)
        trivial trivial
  | saveStreaming => rfl
  | neutral | uninterrupted | announceStreaming | openStream | nextToken | nextBlank | publish
  | checkClear => exact announces
  | _ => trivial

/-- An attempt appends an event that leaves the stream open, or its last. -/
theorem AttemptMoves.appends_cases (move : AttemptMoves settings point command reply after)
    (announces : WorkerPhase.Announces ⟨left, point⟩) (spent : ∀ copy, point = .failDue copy → left = 0) :
    (∀ event ∈ command.appends, isTerminalEvent event = false) ∨
      ∃ final, command.appends = [final] ∧ isTerminalEvent final = true ∧
        WorkerPhase.Over false ⟨left, after⟩ ∧ after ≠ .idle := by
  have live : ∀ {call : LLMCallJob} {extra : Dict} {status : CallStatus}, call.status = status →
      status.isTerminal = false → (∀ entry ∈ extra, entry.1 ≠ "status") →
      (buildStreamEvent call extra).isTrue "done" = false →
      ∀ event ∈ [buildStreamEvent call extra], isTerminalEvent event = false := by
    rintro call extra _ rfl isLive absent notDone event member
    obtain rfl := List.mem_singleton.mp member
    exact not_terminal isLive (buildStreamEvent_status absent) notDone
  cases move with
  | neutral neutral =>
      rw [Command.appends_neutral neutral]
      exact .inl (List.forall_mem_nil _)
  | announceProcessing | announceStreaming =>
      exact .inl (live announces rfl (List.forall_mem_nil _) rfl)
  | publish => exact .inl (live announces rfl (by simp) rfl)
  | announceRetry => exact .inl (live announces rfl (by simp) rfl)
  | announceDone | announceCancelled | announceRefused =>
      exact .inr ⟨_, rfl, Bool.or_eq_true_iff.mpr (.inl rfl), trivial, by rintro ⟨⟩⟩
  | announceFailed =>
      exact .inr ⟨_, rfl, Bool.or_eq_true_iff.mpr (.inl rfl), spent _ rfl, by rintro ⟨⟩⟩
  | _ => exact .inl (List.forall_mem_nil _)

theorem WorkerPhase.Over.of_taken {queued : Bool} (past : WorkerPhase.Over false ⟨left, point⟩)
    (taken : point ≠ .idle) : WorkerPhase.Over queued ⟨left, point⟩ := by
  cases point with
  | idle => exact absurd rfl taken
  | _ => exact past

/-- Once the stream is over the worker appends nothing and stays that way. -/
private theorem AttemptMoves.over_step {queued : Bool}
    (move : AttemptMoves settings point command reply after)
    (past : WorkerPhase.Over queued ⟨left, point⟩) (notPop : command ≠ .pop)
    (uninterrupted : command = .interrupt → w.env.interrupts w.interruptChecks = none)
    (answered : exec .worker command w = some (reply, w')) :
    command.appends = [] ∧ WorkerPhase.Over queued ⟨left, after⟩ := by
  cases move with
  | neutral neutral => exact ⟨Command.appends_neutral neutral, past⟩
  | uninterrupted => exact ⟨rfl, past⟩
  | interrupted | interruptedLoop =>
      cases (exec_interrupt answered).trans (uninterrupted rfl)
  | pop => exact absurd rfl notPop
  | finish => exact ⟨rfl, trivial⟩
  | _ => exact past.elim

private theorem SingleEnd.attempt {api : ApiPhase} {cancel : Nat → CancelPhase}
    {wait : Nat → WaitPhase} (inv : SingleEnd w ⟨api, ⟨left, point⟩, cancel, wait⟩)
    (booked : point.Ok left w.reruns) (kept : endsOnce w ⟨.worker, command⟩ = true)
    (move : AttemptMoves settings point command reply after)
    (answered : exec .worker command w = some (reply, w')) :
    SingleEnd w' ⟨api, ⟨left, after⟩, cancel, wait⟩ := by
  have events := exec_appends answered
  have popped : command = .pop → w.queued = true ∧ w'.queued = false := by
    rintro rfl
    obtain ⟨queued, rfl⟩ := exec_pop answered
    exact ⟨queued, rfl⟩
  have unpopped : command ≠ .pop → w'.queued = w.queued := fun notPop =>
    exec_queued (move.keepsQueue notPop) answered
  refine ⟨inv.api, ?_, move.announces inv.announces, inv.live, ?_, ?_⟩
  · intro queued
    by_cases pop : command = .pop
    · exact absurd ((popped pop).2.symm.trans queued) Bool.false_ne_true
    · rw [unpopped pop] at queued
      exact ((move.from_idle (inv.waiting queued)).resolve_left pop).1
  · intro call holds
    obtain ⟨away, idle, isOpen, only⟩ := inv.removing call holds
    have notPop : command ≠ .pop := fun pop =>
      absurd (away.symm.trans (popped pop).1) Bool.false_ne_true
    obtain ⟨stays, silent, _⟩ := (move.from_idle idle).resolve_left notPop
    refine ⟨(unpopped notPop).trans away, stays, ?_, only⟩
    rw [events, silent, List.append_nil]
    exact isOpen
  · rcases inv.stream with isOpen | ⟨⟨before, final, split, isOpen, terminal⟩, past⟩
    · have announces : WorkerPhase.Announces ⟨left, point⟩ := inv.announces
      rcases move.appends_cases announces (by rintro copy rfl; exact booked) with
        fine | ⟨final, appends, terminal, past, taken⟩
      · exact .inl (by rw [events]; exact isOpen.append fine)
      · exact .inr ⟨⟨w.events, final, by rw [events, appends], isOpen, terminal⟩, past.of_taken taken⟩
    · have notPop : command ≠ .pop := by
        intro pop
        have idle := inv.waiting (popped pop).1
        have idle : point = .idle := idle
        subst idle
        exact absurd (past.symm.trans (popped pop).1) Bool.false_ne_true
      have uninterrupted : command = .interrupt → w.env.interrupts w.interruptChecks = none := by
        rintro rfl
        have ended := World.over_of_ended split terminal
        simpa only [endsOnce, ended, Bool.not_true, Bool.false_or, Option.isNone_iff_eq_none] using kept
      obtain ⟨silent, still⟩ := move.over_step past notPop uninterrupted answered
      refine .inr ⟨⟨before, final, ?_, isOpen, terminal⟩, ?_⟩
      · rw [events, silent, List.append_nil, split]
      · rw [unpopped notPop]
        exact still

end Worker

section Cancellers

variable {settings : Settings} {new : NewCall} {w w' : World} {p : Phases} {call : Nat}
  {command : Command} {reply : command.Reply} {after : CancelPhase}

private theorem liveRequest_update (live : ∀ other, (p.cancel other).LiveRequest)
    (fine : after.LiveRequest) : ∀ other, (Function.update p.cancel call after other).LiveRequest := by
  intro other
  by_cases same : other = call
  · subst same
    rw [Function.update_self]
    exact fine
  · rw [Function.update_of_ne same]
    exact live other

/-- Where the canceller does not hold the job, another that does is one that did. -/
private theorem holds_update (frees : after.holdsJob = false) {other : Nat}
    (holds : (Function.update p.cancel call after other).holdsJob = true) :
    (p.cancel other).holdsJob = true ∧ other ≠ call := by
  by_cases same : other = call
  · subst same
    rw [Function.update_self, frees] at holds
    exact absurd holds Bool.false_ne_true
  · rw [Function.update_of_ne same] at holds
    exact ⟨holds, same⟩

/-- A canceller that appends nothing and takes nothing. -/
private theorem SingleEnd.canceller (inv : SingleEnd w p) (events : w'.events = w.events)
    (queued : w'.queued = w.queued) (live : after.LiveRequest)
    (same : after.holdsJob = true → (p.cancel call).holdsJob = true) :
    SingleEnd w' { p with cancel := Function.update p.cancel call after } := by
  have held : ∀ other, (Function.update p.cancel call after other).holdsJob = true →
      (p.cancel other).holdsJob = true := by
    intro other holds
    by_cases own : other = call
    · subst own
      rw [Function.update_self] at holds
      exact same holds
    · rwa [Function.update_of_ne own] at holds
  refine ⟨inv.api, ?_, inv.announces, liveRequest_update inv.live live, fun other holds => ?_, ?_⟩
  · rw [queued]
    exact inv.waiting
  · obtain ⟨away, idle, isOpen, only⟩ := inv.removing other (held other holds)
    rw [events, queued]
    exact ⟨away, idle, isOpen, fun third holds => only third (held third holds)⟩
  · rw [events, queued]
    exact inv.stream

private theorem SingleEnd.cancel_step (inv : SingleEnd w p)
    (kept : endsOnce w ⟨.cancel call, command⟩ = true)
    (move : CancelMoves new.jobId (p.cancel call) command reply after)
    (answered : exec (.cancel call) command w = some (reply, w')) :
    SingleEnd w' { p with cancel := Function.update p.cancel call after } := by
  have events := exec_appends answered
  have quiet : command.isPassive = true → w'.events = w.events ∧ w'.queued = w.queued := fun passive =>
    ⟨(exec_passive passive answered).events, (exec_passive passive answered).queued⟩
  have live := inv.live call
  have held := inv.removing call
  have same := @SingleEnd.canceller w w' p call after inv
  generalize p.cancel call = phase at move live held same
  cases move with
  | neutral neutral =>
      obtain ⟨events, queued⟩ := quiet (Command.isPassive_of_isNeutral neutral)
      exact same events queued live id
  | fetch | missing | read | unreadable | late | pending =>
      obtain ⟨events, queued⟩ := quiet rfl
      exact same events queued trivial id
  | running isLive =>
      obtain ⟨events, queued⟩ := quiet rfl
      exact same events queued isLive id
  | saveCancelled | mark =>
      exact same (events.trans (List.append_nil _)) (exec_queued rfl answered) trivial fun _ => rfl
  | saveRequest =>
      exact same (events.trans (List.append_nil _)) (exec_queued rfl answered) live id
  | @remove job record =>
      obtain rfl := exec_remove answered
      have queued : w.queued = true := kept
      have idle := inv.waiting queued
      have isOpen : OpenStream w.events := by
        refine inv.stream.resolve_right fun past => ?_
        have past := past.2
        rw [WorkerPhase.Over, idle] at past
        exact absurd (past.symm.trans queued) Bool.false_ne_true
      have noneHolds : ∀ other, (p.cancel other).holdsJob ≠ true := fun other holds =>
        absurd ((inv.removing other holds).1.symm.trans queued) Bool.false_ne_true
      have alone : ∀ other, (Function.update p.cancel call (.removed job record) other).holdsJob = true →
          other = call := by
        intro other holds
        by_contra different
        rw [Function.update_of_ne different] at holds
        exact noneHolds other holds
      refine ⟨inv.api, ?_, inv.announces, liveRequest_update inv.live trivial, ?_, .inl isOpen⟩
      · exact fun away => absurd away Bool.false_ne_true
      · intro other holds
        obtain rfl := alone other holds
        exact ⟨rfl, idle, isOpen, fun third holds => alone third holds⟩
  | announceCancelled =>
      obtain ⟨away, idle, isOpen, only⟩ := held rfl
      have queued := exec_queued rfl answered
      refine ⟨inv.api, ?_, inv.announces, liveRequest_update inv.live trivial, ?_, .inr ⟨?_, ?_⟩⟩
      · rw [queued]
        exact inv.waiting
      · intro other holds
        obtain ⟨holds, different⟩ := holds_update rfl holds
        exact absurd (only other holds) different
      · exact ⟨w.events, _, events, isOpen, rfl⟩
      · rw [WorkerPhase.Over, idle]
        exact queued.trans away
  | @announceRequest status =>
      have queued := exec_queued rfl answered
      have fine : isTerminalEvent (cancelRequestedEvent new.jobId status) = false :=
        not_terminal live rfl rfl
      have isOpen : OpenStream w.events := by
        refine World.open_of_over ?_
        simpa only [endsOnce, fine, Bool.false_or, Bool.not_eq_true'] using kept
      have stillOpen : OpenStream w'.events := by
        rw [events]
        exact isOpen.append (List.forall_mem_singleton.mpr fine)
      refine ⟨inv.api, ?_, inv.announces, liveRequest_update inv.live trivial, ?_, .inl stillOpen⟩
      · rw [queued]
        exact inv.waiting
      · intro other holds
        obtain ⟨holds, _⟩ := holds_update rfl holds
        obtain ⟨away, idle, _, only⟩ := inv.removing other holds
        exact ⟨queued.trans away, idle, stillOpen,
          fun third holds => only third (holds_update rfl holds).1⟩

end Cancellers

/-! ## Runs -/

section Runs

variable {settings : Settings} {new : NewCall} {polls : Nat → Nat} {env : Environment}

/-- A step that leaves the stream, the queue and all but the waiters. -/
private theorem SingleEnd.elsewhere {w w' : World} {p : Phases} (inv : SingleEnd w p)
    (events : w'.events = w.events) (queued : w'.queued = w.queued) (wait : Nat → WaitPhase) :
    SingleEnd w' { p with wait := wait } := by
  refine ⟨inv.api, ?_, inv.announces, inv.live, ?_, ?_⟩
  · rw [queued]
    exact inv.waiting
  · rw [events, queued]
    exact inv.removing
  · rw [events, queued]
    exact inv.stream

theorem singleEnd_preserved :
    Preserved settings new streamEndsOnce (Booked settings) fun _ w p => SingleEnd w p where
  api := by
    intro trace w p command reply w' after _ inv _ move answered
    have api := inv.api
    obtain ⟨phase, worker, cancel, wait⟩ := p
    cases move with
    | neutral neutral =>
        have same := exec_passive (Command.isPassive_of_isNeutral neutral) answered
        exact inv.elsewhere same.events same.queued wait
    | _ => cases api
  worker := by
    intro trace w p command reply w' after booked inv kept move answered
    have ok := booked.1.worker.point
    obtain ⟨api, worker, cancel, wait⟩ := p
    have notIdle : ∀ {saved : Option LLMCallJob} {jobMeta : JobMeta}, worker.point = .raised saved jobMeta →
        ∀ call, (cancel call).holdsJob ≠ true := by
      intro saved jobMeta raised call holds
      cases raised.symm.trans (inv.removing call holds).2.1
    cases move with
    | attempt move => exact inv.attempt ok kept move answered
    | requeue =>
        obtain rfl := exec_requeue answered
        refine ⟨inv.api, fun _ => rfl, trivial, inv.live, fun call holds => ?_, ?_⟩
        · exact absurd holds (notIdle rfl call)
        · refine .inl (inv.stream.resolve_right fun past => ?_)
          cases past.2
    | giveUp =>
        obtain rfl := exec_giveUp answered
        refine ⟨inv.api, fun queued => ?_, trivial, inv.live, fun call holds => ?_, ?_⟩
        · cases inv.waiting queued
        · exact absurd holds (notIdle rfl call)
        · exact inv.stream.imp id fun past => ⟨past.1, trivial⟩
  cancel _ inv kept move answered := inv.cancel_step kept move answered
  wait := by
    intro trace w p call command reply w' after _ inv _ move answered
    have passive : command.isPassive = true := by
      generalize p.wait call = phase at move
      cases move with
      | neutral neutral => exact Command.isPassive_of_isNeutral neutral
      | _ => rfl
    have same := exec_passive passive answered
    exact inv.elsewhere same.events same.queued _
  reaper := by
    intro trace w p w' _ inv _ answered
    have events := exec_events (fun event => by rintro ⟨⟩) answered
    exact inv.elsewhere events (exec_queued rfl answered) p.wait

private theorem Started.singleEnd {c : System} {phase : ∀ party, Phase party}
    (started : Started settings new env c phase) : SingleEnd c.world (Phases.of phase) := by
  have only := started.only
  have done := only.api
  rw [started.finished] at done
  obtain ⟨_, _, position, _, _, events⟩ := done
  have noneHolds : ∀ call, ((Phases.of phase).cancel call).holdsJob = false := by
    intro call
    rw [only.cancel call]
    rfl
  refine ⟨started.finished, fun _ => by rw [only.worker], ?_, fun call => ?_, fun call holds => ?_, .inl ?_⟩
  · rw [only.worker]
    trivial
  · rw [only.cancel call]
    trivial
  · exact absurd ((noneHolds call).symm.trans holds) Bool.false_ne_true
  · rw [events, announced]
    split
    · exact List.forall_mem_singleton.mpr rfl
    · exact List.forall_mem_nil _

/-- Once a job is enqueued, in every run in which cancellers take a job off the queue only
    while it is there and announce requests only while the stream is open, and in which no
    exception strikes the worker after the end: nothing is appended after an event that
    ends the job. -/
theorem stream_ends_once {c d : System} (enqueued : Enqueued settings new polls env c)
    (run : machine.Reach streamEndsOnce c d) : AtMostOneEnd d.world.events := by
  obtain ⟨start, started⟩ := enqueued.started
  obtain ⟨_, _, _, inv⟩ := singleEnd_preserved.reach_booked run started.tracked started.booked
    started.singleEnd
  rcases inv.stream with isOpen | ⟨⟨before, final, split, isOpen, _⟩, _⟩
  · exact isOpen.atMostOneEnd
  · rw [split]
    exact atMostOneEnd_of_final isOpen

/-- A job tried twice ends its stream once. -/
theorem stream_ends_once_demo : ∃ d : System, d.world.storedStatus = some .completed ∧
    d.world.events.countP isTerminalEvent = 1 ∧ AtMostOneEnd d.world.events := by
  obtain ⟨c, enqueued, run⟩ := enqueued_observed demoSettings (demoCall .streamingTextGeneration)
    (fun _ => 0) brokenStream (List.replicate 10 .api)
    (fun c => (machine.schedule streamEndsOnce (List.replicate 86 .worker) c).map fun d =>
      (d.world.storedStatus, d.world.events.countP isTerminalEvent))
    (some .completed, 1) (by decide +kernel) (by decide +kernel)
  obtain ⟨d, scheduled, seen⟩ := Option.map_eq_some_iff.mp run
  obtain ⟨completed, ends⟩ := Prod.mk.inj seen
  exact ⟨d, completed, ends, stream_ends_once enqueued (Machine.schedule_reach scheduled)⟩

/-- The worker takes the job before a canceller tries to remove it: both of them end the
    stream. -/
theorem stream_ends_twice : ∃ c d : System, demoEnvironment.Calm ∧
    Enqueued demoSettings (demoCall .streamingTextGeneration) (fun _ => 0) demoEnvironment c ∧
      machine.Reach Machine.anyStep c d ∧ 2 ≤ d.world.events.countP isTerminalEvent ∧
      ¬AtMostOneEnd d.world.events := by
  obtain ⟨c, enqueued, run⟩ := enqueued_observed demoSettings (demoCall .streamingTextGeneration)
    (fun _ => 0) demoEnvironment (List.replicate 10 .api)
    (fun c => (machine.schedule Machine.anyStep (List.replicate 5 (.cancel 0) ++
      List.replicate 6 .worker ++ List.replicate 5 (.cancel 0) ++ List.replicate 44 .worker) c).map
        fun d => d.world.events.map isTerminalEvent)
    [false, true, false, false, false, true] (by decide +kernel) (by decide +kernel)
  obtain ⟨d, scheduled, seen⟩ := Option.map_eq_some_iff.mp run
  have twice : d.world.events.countP isTerminalEvent = 2 := by
    have count := List.countP_map (p := id) (f := isTerminalEvent) (l := d.world.events)
    rw [seen] at count
    exact count.symm
  refine ⟨c, d, demoEnvironment_calm, enqueued, Machine.schedule_reach scheduled, twice.ge, ?_⟩
  intro once
  have := once.countP_le
  omega

end Runs

end LanguageAgent.Queue
