import LanguageAgent.Interleaving.Ahead
import LanguageAgent.Queue.BareStart
import LanguageAgent.Queue.Runs

/-! # What is left of an enqueue after the push

The API still has to store the record and, for a streaming job, to append its event. Which
commands of the worker may come in between without either of them noticing.
-/

namespace LanguageAgent.Queue

open Interleaving

/-! ## The steps of the API -/

inductive PublishPhase where
  | admitting
  | pushed (payload : LLMCallJob)
  | saved
  | announced

inductive PublishMoves (new : NewCall) : Protocol signature PublishPhase where
  | ask {command reply} (neutral : command.isNeutral) :
      PublishMoves new .admitting command reply .admitting
  | push {payload} (valid : LLMCallJob.validates payload) :
      PublishMoves new .admitting (.push payload) () (.pushed payload)
  | stamp {payload now} : PublishMoves new (.pushed payload) .utcnow now (.pushed payload)
  | save {payload elapsed} :
      PublishMoves new (.pushed payload) (.saveMeta (recordedMeta payload elapsed)) () .saved
  | locate {position} : PublishMoves new .saved .jobPosition position .saved
  | announce {event} (streaming : new.callType = .streamingTextGeneration) :
      PublishMoves new .saved (.xadd event) () .announced

/-- The API may raise before the push, and afterwards returns with the record saved. -/
def Published (out : Outcome) : PublishPhase → Prop
  | .admitting => True
  | .pushed _ => False
  | .saved | .announced => ∃ call, out = .ok call

section Conformance

variable {settings : Settings} {new : NewCall}

private theorem publishRecord_publishes {payload : LLMCallJob} (type : payload.callType = new.callType)
    {post : Except QueueError LLMCallJob → Unit → PublishPhase → Prop}
    (saved : ∀ call, post (.ok call) () .saved) (announced : ∀ call, post (.ok call) () .announced) :
    (publishRecord payload).Obeys (PublishMoves new) post () (.pushed payload) := by
  simp only [publishRecord, Routine.obeys_bind]
  refine saveJobPayload_stamped (fun _ => .stamp) fun elapsed => ⟨.saved, .save, ?_⟩
  by_cases streaming : payload.callType = .streamingTextGeneration
  · simp only [streaming, if_true, Routine.resume_ok, Routine.obeys_bind, jobPosition, xadd]
    refine issue_obeys fun position => ⟨.saved, .locate, ?_⟩
    simp only [Routine.resume_ok, Routine.obeys_bind]
    exact issue_obeys fun _ => ⟨.announced, .announce (type.symm.trans streaming), announced _⟩
  · simp only [streaming, if_false, Routine.resume_ok, Routine.obeys_pure]
    exact saved _

theorem enqueueLlmCall_publishes :
    (outcomeOf (enqueueLlmCall settings new.toCall)).Obeys (PublishMoves new) Published .admitting := by
  have obeys : (enqueueLlmCall settings new.toCall).Obeys (PublishMoves new)
      (fun out _ phase => Published out phase) () .admitting := by
    simp only [enqueueLlmCall, Routine.obeys_bind]
    refine estimateWaitTimeSeconds_obeys (fun _ _ => .ask) fun estimate => ?_
    simp only [Routine.resume_ok, Routine.obeys_bind]
    refine checkBackpressure_obeys fun depth =>
      ⟨.admitting, .ask rfl, fun _ => ?_, fun error => trivial⟩
    simp only [Routine.resume_ok, Routine.obeys_bind]
    refine serializeLlmCall_stamped (fun _ => .ask rfl) fun elapsed => ?_
    simp only [Routine.resume_ok, Routine.obeys_bind]
    refine issue_obeys fun _ => ⟨_, .push rfl, ?_⟩
    simp only [Routine.resume_ok]
    exact publishRecord_publishes rfl (fun call => ⟨call, rfl⟩) fun call => ⟨call, rfl⟩
  exact Program.obeys_bind.mpr obeys

end Conformance

/-! ## The rest of the enqueue, with nothing in between -/

section Rest

variable {new : NewCall} {phase : PublishPhase} {p : Program signature Outcome} {w : World}
  {ending : Ending signature World Outcome}

theorem publishing_ends (obeys : p.Obeys (PublishMoves new) Published phase) :
    ∃ ending, machine.alone .api p w = some ending := by
  refine obeys.ends fun phase command world ready => ?_
  obtain ⟨reply⟩ := Command.reply_nonempty command
  obtain ⟨after, move⟩ := ready reply
  cases move with
  | ask neutral => cases command <;> first | rfl | exact absurd neutral Bool.false_ne_true
  | _ => rfl

/-- Commands the API may still issue. -/
def PublishPhase.Allows (new : NewCall) : PublishPhase → Command → Prop
  | .admitting, _ => True
  | .pushed _, command => command = .utcnow ∨ (∃ saved, command = .saveMeta saved) ∨
      command = .jobPosition ∨ ∃ event, command = .xadd event
  | .saved, command => command = .jobPosition ∨
      new.callType = .streamingTextGeneration ∧ ∃ event, command = .xadd event
  | .announced, _ => False

theorem publishing_commands (obeys : p.Obeys (PublishMoves new) Published phase)
    (ends : machine.alone .api p w = some ending) : ∀ own ∈ ending.commands, phase.Allows new own := by
  refine obeys.alone_commands (fun phase command reply after move => ?_) ends
  cases move with
  | ask | push => exact ⟨trivial, fun _ _ => trivial⟩
  | stamp => exact ⟨.inl rfl, fun _ => id⟩
  | save =>
      refine ⟨.inr (.inl ⟨_, rfl⟩), fun later allowed => ?_⟩
      rcases allowed with located | ⟨_, announced⟩
      · exact .inr (.inr (.inl located))
      · exact .inr (.inr (.inr announced))
  | locate => exact ⟨.inl rfl, fun _ => id⟩
  | announce streaming => exact ⟨.inr ⟨streaming, _, rfl⟩, fun _ => False.elim⟩

/-- The job before its record is stored, and after. -/
private def PublishPhase.Holding (payload : LLMCallJob) (status : JobStatus) : PublishPhase → World → Prop
  | .admitting, _ => False
  | .pushed other, w => other = payload ∧ w.job = some ⟨payload, {}, status, none⟩
  | .saved, w | .announced, w => ∃ elapsed, w.job = some ⟨payload, recordedMeta payload elapsed, status, none⟩

private theorem PublishPhase.Holding.step {payload : LLMCallJob} {status : JobStatus} {after : PublishPhase}
    {command : Command} {reply : command.Reply} {w' : World} (holding : phase.Holding payload status w)
    (move : PublishMoves new phase command reply after) (answered : exec .api command w = some (reply, w')) :
    after.Holding payload status w' := by
  cases move with
  | ask | push => exact holding.elim
  | stamp => exact ⟨holding.1, (exec_passive rfl answered).job.trans holding.2⟩
  | @save pushed elapsed =>
      obtain ⟨rfl, job⟩ := holding
      obtain rfl := exec_saveMeta answered
      exact ⟨elapsed, by rw [World.mapJob, job]; rfl⟩
  | locate =>
      obtain ⟨elapsed, job⟩ := holding
      exact ⟨elapsed, (exec_passive rfl answered).job.trans job⟩
  | announce =>
      obtain rfl := exec_xadd answered
      exact holding

private theorem PublishMoves.notReaping {after : PublishPhase} {command : Command} {reply : command.Reply}
    (move : PublishMoves new phase command reply after) (granted : Nat) : command ≠ .abandon granted := by
  rintro rfl
  cases move with
  | ask neutral => exact absurd neutral Bool.false_ne_true

/-- Once the API has returned the record is there, and the rest of the job is as it was. -/
theorem publishing_stores {payload : LLMCallJob} {status : JobStatus}
    (obeys : p.Obeys (PublishMoves new) Published (.pushed payload))
    (ends : machine.alone .api p w = some ending) (job : w.job = some ⟨payload, {}, status, none⟩) :
    ending.world.workerLost = w.workerLost ∧
      ∃ elapsed, ending.world.job = some ⟨payload, recordedMeta payload elapsed, status, none⟩ := by
  have kept : ∀ phase current command reply current' after,
      current.workerLost = w.workerLost ∧ phase.Holding payload status current →
      PublishMoves new phase command reply after → exec .api command current = some (reply, current') →
      current'.workerLost = w.workerLost ∧ after.Holding payload status current' :=
    fun _ _ _ _ _ _ inv move answered =>
      ⟨(exec_workerLost move.notReaping answered).trans inv.1, inv.2.step move answered⟩
  obtain ⟨after, published, lost, holding⟩ := obeys.alone_invariant _ kept ends ⟨rfl, rfl, job⟩
  refine ⟨lost, ?_⟩
  cases after with
  | admitting => exact holding.elim
  | pushed => exact published.elim
  | saved => exact holding
  | announced => exact holding

/-- With the record saved the API returns. -/
theorem publishing_returns (obeys : p.Obeys (PublishMoves new) Published phase)
    (past : phase = .saved ∨ phase = .announced) (ends : machine.alone .api p w = some ending) :
    ∃ call, ending.value = .ok call := by
  have kept : ∀ phase current command reply current' after,
      phase = .saved ∨ phase = .announced → PublishMoves new phase command reply after →
      exec .api command current = some (reply, current') → after = .saved ∨ after = .announced := by
    rintro phase current command reply current' after past move -
    cases move with
    | locate => exact .inl rfl
    | announce => exact .inr rfl
    | _ => rcases past with past | past <;> cases past
  obtain ⟨after, published, past⟩ := obeys.alone_invariant (fun phase _ => phase = .saved ∨ phase = .announced)
    (fun phase current command reply current' after => kept phase current command reply current' after) ends past
  rcases past with rfl | rfl <;> exact published

end Rest

/-! ## What may come in between -/

section Between

variable {command own : Command}

/-- The API's command always answers; the worker's leaves the answer and commutes with its effect. -/
private theorem independent_of_effect (effect : World → World) (answer : World → own.Reply)
    (api : ∀ w, exec .api own w = some (answer w, effect w))
    (steady : ∀ w reply w', exec .worker command w = some (reply, w') → answer w' = answer w)
    (commutes : ∀ w, exec .worker command (effect w) = (exec .worker command w).map (Prod.map id effect)) :
    machine.Independent ⟨.api, own⟩ ⟨.worker, command⟩ := by
  intro w reply₁ w₁ reply₂ w₂ first second
  cases (api w).symm.trans first
  refine ⟨effect w₂, ?_, ?_⟩
  · change exec .worker command (effect w) = _
    rw [commutes]
    change Option.map _ (machine.exec .worker command w) = _
    rw [second]
    rfl
  · change exec .api own w₂ = _
    rw [api, steady w _ _ second]

private theorem exec_asked {w w' : World} {reply : command.Reply}
    (answered : exec .worker command w = some (reply, w')) : w'.asked .api = w.asked .api := by
  cases command with
  | jobStatus =>
      unfold exec at answered
      split at answered
      · cases answered
      · obtain ⟨job, _, same⟩ := Option.map_eq_some_iff.mp answered
        cases same
        rfl
  | pop =>
      obtain ⟨_, rfl⟩ := exec_pop answered
      rfl
  | abandon =>
      obtain ⟨_, _, rfl⟩ := exec_abandon answered
      rfl
  | _ =>
      unfold exec at answered
      split at answered <;> cases answered
      rfl

private theorem exec_ask (w : World) :
    exec .worker command (w.ask .api) = (exec .worker command w).map (Prod.map id fun w => w.ask .api) := by
  unfold exec
  by_cases lost : w.workerLost
  · simp [World.ask, lost]
  · cases command with
    | jobStatus => cases job : w.job <;> simp [World.ask, lost, job]
    | _ => simp [World.ask, lost, World.mapJob, World.release, World.incrMetric, Function.update_comm]

/-- A reading of the API alone makes no difference to the worker, nor the worker to it. -/
private theorem reading_independent (answer : World → own.Reply)
    (api : ∀ w, exec .api own w = some (answer w, w.ask .api))
    (steady : ∀ w w' : World, w'.env = w.env → w'.asked .api = w.asked .api → answer w' = answer w) :
    machine.Independent ⟨.api, own⟩ ⟨.worker, command⟩ :=
  independent_of_effect _ answer api
    (fun w _ w' answered => steady w w' (exec_env answered) (exec_asked answered)) exec_ask

private theorem stamp_independent : machine.Independent ⟨.api, .utcnow⟩ ⟨.worker, command⟩ :=
  reading_independent (fun w => w.env.clock .api (w.asked .api)) (fun _ => rfl)
    fun _ _ env asked => by rw [env, asked]

private theorem locate_independent : machine.Independent ⟨.api, .jobPosition⟩ ⟨.worker, command⟩ :=
  reading_independent (fun w => w.env.position .api (w.asked .api)) (fun _ => rfl)
    fun _ _ env asked => by rw [env, asked]

private theorem append_independent {event : Dict} (silent : ∀ other, command ≠ .xadd other) :
    machine.Independent ⟨.api, .xadd event⟩ ⟨.worker, command⟩ := by
  refine independent_of_effect _ (fun _ => ()) (fun _ => rfl) (fun _ _ _ _ => rfl) fun w => ?_
  unfold exec
  by_cases lost : w.workerLost
  · simp [lost]
  · cases command with
    | jobStatus => cases job : w.job <;> simp [lost, job]
    | xadd other => exact absurd rfl (silent other)
    | _ => simp [World.ask, lost, World.mapJob, World.release, World.incrMetric]

private theorem save_independent {saved : JobMeta} (moves : command.movesJob) :
    machine.Independent ⟨.api, .saveMeta saved⟩ ⟨.worker, command⟩ := by
  refine independent_of_effect _ (fun _ => ()) (fun _ => rfl) (fun _ _ _ _ => rfl) fun w => ?_
  unfold exec
  by_cases lost : w.workerLost
  · simp [lost, World.mapJob]
  · cases command with
    | pop => by_cases waiting : w.queued <;> simp [lost, World.mapJob, waiting]
    | setStatus => cases job : w.job <;> simp [lost, World.mapJob, job]
    | _ => exact absurd moves Bool.false_ne_true

/-- The job may change its state while the API still has its record to store. -/
theorem moving_independent {payload : LLMCallJob} {new : NewCall} (moves : command.movesJob)
    (allowed : PublishPhase.Allows new (.pushed payload) own) :
    machine.Independent ⟨.api, own⟩ ⟨.worker, command⟩ := by
  obtain rfl | ⟨saved, rfl⟩ | rfl | ⟨event, rfl⟩ := allowed
  · exact stamp_independent
  · exact save_independent moves
  · exact locate_independent
  · refine append_independent fun other same => ?_
    rw [same] at moves
    exact absurd moves Bool.false_ne_true

/-- With the record stored only an event of the worker's own can be told from the API's. -/
theorem announcing_independent {new : NewCall} (allowed : PublishPhase.saved.Allows new own)
    (silent : new.callType = .streamingTextGeneration → ∀ other, command ≠ .xadd other) :
    machine.Independent ⟨.api, own⟩ ⟨.worker, command⟩ := by
  obtain rfl | ⟨streaming, event, rfl⟩ := allowed
  · exact locate_independent
  · exact append_independent (silent streaming)

end Between

end LanguageAgent.Queue
