import LanguageAgent.Queue.RecordConsistency

/-! # The store when the API has returned -/

namespace LanguageAgent.Queue

open Interleaving

/-- The events of a job that has just been enqueued. -/
def announced (new : NewCall) (position : Option Nat) : List Dict :=
  if new.callType = .streamingTextGeneration then [queuedEvent new.jobId position] else []

/-- The world around the job while only the API has moved. -/
structure World.Untouched (env : Environment) (w : World) : Prop where
  env : w.env = env
  running : w.running = false
  workerLost : w.workerLost = false
  reruns : w.reruns = 0
  modelCalls : w.modelCalls = 0
  interruptChecks : w.interruptChecks = 0

/-- The job as RQ and the API leave it before a worker takes it. -/
def waitingJob (args : LLMCallJob) (jobMeta : JobMeta) : RQJob := ⟨args, jobMeta, .queued, none⟩

/-- What the API has done to the store by each of its phases. -/
def ApiPhase.Done (settings : Settings) (new : NewCall) (w : World) : ApiPhase → Prop
  | .start => w.job = none ∧ w.queued = false ∧ w.events = []
  | .pushed payload => ∃ elapsed, payload = enqueued settings new elapsed ∧
      w.job = some (waitingJob payload {}) ∧ w.queued = true ∧ w.events = []
  | .recorded saved => new.callType = .streamingTextGeneration ∧ ∃ pushed elapsed,
      saved = enqueued settings new elapsed ∧
      w.job = some (waitingJob (enqueued settings new pushed) { llmCall := some saved }) ∧
      w.queued = true ∧ w.events = []
  | .finished => ∃ pushed elapsed position,
      w.job = some (waitingJob (enqueued settings new pushed)
        { llmCall := some (enqueued settings new elapsed) }) ∧
      w.queued = true ∧ w.events = announced new position

/-- Only the API has moved, and no other party has left its first phase. -/
structure ApiOnly (settings : Settings) (new : NewCall) (env : Environment) (trace : Trace)
    (w : World) (p : Phases) : Prop where
  untouched : w.Untouched env
  api : p.api.Done settings new w
  worker : p.worker = ⟨rqRetries settings, .idle⟩
  cancel : ∀ call, p.cancel call = .start
  wait : ∀ call, p.wait call = .polling
  trace : ∀ label ∈ trace, label.party = .api ∧
    ∀ call, label.command.writes = some call → call.status = .queued

variable {settings : Settings} {new : NewCall} {polls : Nat → Nat} {env : Environment}

private theorem ApiPhase.Done.keep {w w' : World} {phase : ApiPhase} (done : phase.Done settings new w)
    (same : w.SameStore w') : phase.Done settings new w' := by
  cases phase <;> simpa only [ApiPhase.Done, same.job, same.queued, same.events] using done

private theorem apiOnly_api {w w' : World} {phase after : ApiPhase} {command : Command}
    {reply : command.Reply} (untouched : w.Untouched env) (done : phase.Done settings new w)
    (move : ApiMoves settings new phase command reply after)
    (answered : exec .api command w = some (reply, w')) :
    w'.Untouched env ∧ after.Done settings new w' ∧
      ∀ call, command.writes = some call → call.status = .queued := by
  obtain ⟨sameEnv, running, lost, reruns, calls, checks⟩ := untouched
  cases move with
  | neutral neutral =>
      have same := exec_passive (Command.isPassive_of_isNeutral neutral) answered
      obtain ⟨modelCalls, interruptChecks, _⟩ := exec_neutral neutral answered
      refine ⟨⟨?_, ?_, ?_, ?_, ?_, ?_⟩, done.keep same, ?_⟩
      · rw [same.env, sameEnv]
      · rw [same.running, running]
      · rw [same.workerLost, lost]
      · rw [same.reruns, reruns]
      · rw [modelCalls, calls]
      · rw [interruptChecks, checks]
      · intro call writes
        cases command <;> first | exact absurd neutral Bool.false_ne_true | cases writes
  | push =>
      obtain rfl := exec_push answered
      exact ⟨⟨sameEnv, running, lost, reruns, calls, checks⟩, ⟨_, rfl, rfl, rfl, done.2.2⟩,
        fun call writes => by cases writes⟩
  | save =>
      obtain rfl := exec_saveMeta answered
      obtain ⟨pushed, rfl, job, queued, events⟩ := done
      refine ⟨⟨sameEnv, running, lost, reruns, calls, checks⟩, ?_, fun call writes => by cases writes; rfl⟩
      by_cases streaming : new.callType = .streamingTextGeneration
      · simp only [streaming, if_true]
        exact ⟨streaming, pushed, _, rfl, by simp only [World.mapJob, job]; rfl, queued, events⟩
      · simp only [streaming, if_false]
        refine ⟨pushed, _, none, by simp only [World.mapJob, job]; rfl, queued, ?_⟩
        rw [announced, if_neg streaming]
        exact events
  | @announce saved position =>
      obtain rfl := exec_xadd answered
      obtain ⟨streaming, pushed, elapsed, rfl, job, queued, events⟩ := done
      refine ⟨⟨sameEnv, running, lost, reruns, calls, checks⟩,
        ⟨pushed, elapsed, position, job, queued, ?_⟩, fun call writes => by cases writes⟩
      simp only [announced, streaming, if_true, events, List.nil_append]

private theorem apiOnly_preserved :
    Preserved settings new apiAlone Unconditionally (ApiOnly settings new env) where
  api := by
    intro trace w p command reply w' after _ only _ move answered
    obtain ⟨untouched, done, queued⟩ := apiOnly_api only.untouched only.api move answered
    refine ⟨untouched, done, only.worker, only.cancel, only.wait, fun label member => ?_⟩
    rcases List.mem_append.mp member with earlier | last
    · exact only.trace label earlier
    · obtain rfl := List.mem_singleton.mp last
      exact ⟨rfl, queued⟩
  worker _ _ alone := by cases alone
  cancel _ _ alone := by cases alone
  wait _ _ alone := by cases alone
  reaper _ _ alone := by cases alone

/-- What every run after an enqueue starts from. -/
structure Started (settings : Settings) (new : NewCall) (env : Environment) (c : System)
    (phase : ∀ party, Phase party) : Prop where
  tracked : Tracked settings new c phase
  only : ApiOnly settings new env c.trace c.world (Phases.of phase)
  finished : (Phases.of phase).api = .finished
  booked : Booked settings c.trace c.world (Phases.of phase)

theorem Enqueued.started {c : System} (enqueued : Enqueued settings new polls env c) :
    ∃ phase, Started settings new env c phase := by
  obtain ⟨run, call, returned⟩ := enqueued
  obtain ⟨phase, tracked, only, booked⟩ :=
    (apiOnly_preserved.and booked_preserved).reach run boot_tracked
      ⟨⟨⟨rfl, rfl, rfl, rfl, rfl, rfl⟩, ⟨rfl, rfl, rfl⟩, rfl, fun _ => rfl, fun _ => rfl,
        fun _ member => by cases member⟩, boot_bookkeeping, fun _ member => by cases member⟩
  have ended := tracked .api
  rw [returned] at ended
  exact ⟨phase, tracked, only, ended call rfl, booked⟩

end LanguageAgent.Queue
