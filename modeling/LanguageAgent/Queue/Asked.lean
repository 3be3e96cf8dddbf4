import LanguageAgent.Queue.Runs

/-! # What the model is asked

A job is read, saved and run again by several parties at once. However they interleave, the
fields the gateway has filled in stay as they were, and so does what the model is asked.
-/

namespace LanguageAgent

/-- The fields that the gateway fills in. -/
def LLMCallJob.asked (call : LLMCallJob) : Queue.NewCall where
  jobId := call.jobId
  callType := call.callType
  prompt := call.prompt
  messages := call.messages
  mode := call.mode
  generationParameters := call.generationParameters
  responseSchema := call.responseSchema
  createdAt := call.createdAt

namespace Queue

open Interleaving

/-! ## Records of one job -/

section Records

variable (new : NewCall)

def JobMeta.Of (jobMeta : JobMeta) : Prop := ∀ call, jobMeta.llmCall = some call → call.asked = new

structure Snapshot.Of (job : Snapshot) : Prop where
  args : job.args.asked = new
  jobMeta : job.jobMeta.Of new
  result : ∀ call, job.result = some call → call.asked = new

structure Copy.Of (copy : Copy) : Prop where
  jobMeta : copy.jobMeta.Of new
  call : copy.call.asked = new

/-- A command writes records of the job only, and asks the model as its call type says. -/
def Command.Of : Command → Prop
  | .push payload | .finish payload => payload.asked = new
  | .saveMeta saved | .requeue saved => saved.Of new
  | .xadd event => event.str? "job_id" = some new.jobId
  | .askModel request schema =>
      new.callType = .structuredJson ∧ request = modelRequest new.toCall ∧ schema = new.responseSchema.getD []
  | .generateText request => new.callType = .textGeneration ∧ request = modelRequest new.toCall
  | .openStream request => new.callType = .streamingTextGeneration ∧ request = modelRequest new.toCall
  | _ => True

def ApiPhase.Of : ApiPhase → Prop
  | .pushed payload | .recorded payload => payload.asked = new
  | .start | .finished => True

def CancelPhase.Of : CancelPhase → Prop
  | .fetched job => job.Of new
  | .read job call | .removing job call | .removed job call | .requesting job call => job.Of new ∧ call.asked = new
  | _ => True

def WorkerPoint.Of : WorkerPoint → Prop
  | .fetched job => job.Of new
  | .started copy | .starting copy | .announcing copy | .ready copy | .serving copy | .answered copy | .deciding copy
  | .doneDue copy | .stopping copy _ _ | .cancelDue copy _ _ | .faulted copy | .refused copy _ | .refusalDue copy _
  | .retryDue copy | .failDue copy | .returning copy _ => copy.Of new
  | .streamSaved copy | .opening copy => copy.Of new ∧ new.callType = .streamingTextGeneration
  | .reading copy _ _ _ | .publishing copy _ _ _ _ | .checking copy _ _ _ | .closing copy _ => copy.Of new
  | .raised _ jobMeta => jobMeta.Of new
  | .idle | .popped | .ended => True

/-- What is stored for the job. -/
def Stored (w : World) : Prop := ∀ job, w.snapshot = some job → job.Of new

end Records

section Steps

variable {settings : Settings} {new : NewCall} {point after : WorkerPoint} {command : Command}
  {reply : command.Reply} {job : Snapshot} {copy other : Copy} {call : LLMCallJob} {elapsed : Option Rat} {w w' : World} {party : Party}

theorem jobMeta_empty : JobMeta.Of new {} := fun _ found => by cases found

theorem request_of (asked : call.asked = new) : modelRequest call = modelRequest new.toCall := by
  subst asked
  rfl

/-- Whatever `get_job_result` finds is of the job. -/
theorem Stored.read (stored : Stored new w) {reply : Option Snapshot} (served : reply = w.snapshot) {payload : LLMCallJob}
    (readable : readPayload reply = some payload) : payload.asked = new := by
  obtain ⟨job, present, kept⟩ := Option.bind_eq_some_iff.mp readable
  obtain ⟨found, -⟩ := Option.filter_eq_some_iff.mp kept
  have held := stored job (served ▸ present)
  unfold Snapshot.payload at found
  cases result : job.result with
  | some returned =>
      rw [result] at found
      exact Option.some.inj found ▸ held.result returned result
  | none =>
      rw [result] at found
      exact held.jobMeta payload found

theorem Copy.Of.altered (held : copy.Of new) (altered : copy.Altered other) : other.Of new := by
  obtain ⟨_, _, _, _, _, _, _, rfl⟩ := altered
  exact ⟨held.jobMeta, held.call⟩

theorem Copy.Of.mapCall (held : copy.Of new) {f : LLMCallJob → LLMCallJob} (keeps : (f copy.call).asked = copy.call.asked) :
    (copy.mapCall f).Of new := ⟨held.jobMeta, keeps.trans held.call⟩

/-- A record that is saved is that of the copy. -/
theorem put_jobMeta (asked : call.asked = new) : (copy.put call elapsed).jobMeta.Of new := by
  rintro _ ⟨⟩
  exact asked

theorem putFailure_jobMeta (asked : call.asked = new) : (copy.putFailure call elapsed).jobMeta.Of new := by
  rintro _ ⟨⟩
  exact asked

theorem Copy.Of.put (asked : call.asked = new) : (copy.put call elapsed).Of new := ⟨put_jobMeta asked, asked⟩

theorem Copy.Of.putFailure (asked : call.asked = new) : (copy.putFailure call elapsed).Of new :=
  ⟨putFailure_jobMeta asked, asked⟩

theorem Snapshot.Of.put (asked : call.asked = new) : (job.put call).Of new := by
  rintro _ ⟨⟩
  exact asked

/-- An attempt starts from a record of the job. -/
theorem Snapshot.Of.loaded (stored : job.Of new) : (⟨job.jobMeta, Queue.loaded job.jobMeta job.args⟩ : Copy).Of new := by
  refine ⟨stored.jobMeta, ?_⟩
  cases record : job.jobMeta.llmCall with
  | none => simpa [Queue.loaded, record, LLMCallJob.asked] using stored.args
  | some call => simpa [Queue.loaded, record, LLMCallJob.asked] using stored.jobMeta call record

theorem jobId_event {extra : Dict} (absent : ∀ entry ∈ extra, entry.1 ≠ "job_id") (asked : call.asked = new) :
    (buildStreamEvent call extra).str? "job_id" = some new.jobId := by
  subst asked
  rw [Dict.str?, buildStreamEvent, Dict.get?_update absent]
  rfl

/-! ## Steps -/

theorem ApiMoves.of {before next : ApiPhase} (move : ApiMoves settings new before command reply next)
    (held : before.Of new) : next.Of new ∧ command.Of new := by
  cases move with
  | neutral neutral =>
      refine ⟨held, ?_⟩
      cases command <;> trivial
  | push => exact ⟨rfl, rfl⟩
  | save =>
      refine ⟨?_, ?_⟩
      · split_ifs
        · exact held
        · trivial
      · rintro _ ⟨⟩
        exact held
  | announce => exact ⟨trivial, rfl⟩

theorem CancelMoves.of {before next : CancelPhase} (move : CancelMoves new.jobId before command reply next)
    (stored : Stored new w) (answered : exec party command w = some (reply, w')) (held : before.Of new) :
    next.Of new ∧ command.Of new := by
  cases move with
  | neutral neutral =>
      refine ⟨held, ?_⟩
      cases command <;> trivial
  | fetch => exact ⟨stored _ (exec_fetchJob answered).symm, trivial⟩
  | read readable => exact ⟨⟨held, stored.read (exec_fetchJob answered) readable⟩, trivial⟩
  | pending | running | remove => exact ⟨held, trivial⟩
  | saveCancelled same | saveRequest same =>
      obtain ⟨_, _, _, rfl⟩ := same
      exact ⟨trivial, Snapshot.Of.put held.2⟩
  | announceCancelled | announceRequest => exact ⟨trivial, rfl⟩
  | missing | unreadable | late | mark => exact ⟨trivial, trivial⟩

theorem WaitMoves.of {before next : WaitPhase} (move : WaitMoves before command reply next) : command.Of new := by
  cases move with
  | neutral neutral => cases command <;> trivial
  | _ => trivial

theorem WorkerPoint.Of.guarded (held : point.Of new) (guarded : point.guardedCopy = some copy) : copy.Of new := by
  cases point with
  | stopping _ _ inTry | cancelDue _ _ inTry | returning _ inTry =>
      cases inTry with
      | true => exact Option.some.inj guarded ▸ held
      | false => cases guarded
  | streamSaved | opening => exact Option.some.inj guarded ▸ held.1
  | serving | reading | publishing | checking | closing | answered | deciding | doneDue | faulted =>
      exact Option.some.inj guarded ▸ held
  | _ => cases guarded

/-- A record that is saved, and announced if the job is streaming. -/
theorem saves_of {saved : JobMeta} {announce otherwise : WorkerPoint} (written : saved.Of new) (announced : announce.Of new)
    (silent : otherwise.Of new) : (WorkerPoint.whenStreaming copy announce otherwise).Of new ∧ (Command.saveMeta saved).Of new :=
  ⟨WorkerPoint.whenStreaming_cases announced silent, written⟩

theorem AttemptMoves.of (move : AttemptMoves settings point command reply after) (stored : Stored new w)
    (answered : exec party command w = some (reply, w')) (held : point.Of new) : after.Of new ∧ command.Of new := by
  cases move with
  | neutral neutral =>
      refine ⟨held, ?_⟩
      cases command <;> trivial
  | interrupted guarded altered | interruptedLoop guarded altered => exact ⟨(held.guarded guarded).altered altered, trivial⟩
  | fetch => exact ⟨stored _ (exec_fetchJob answered).symm, trivial⟩
  | start => exact ⟨Snapshot.Of.loaded held, trivial⟩
  | startCancelled | checkCancelled | finalCancelled => exact ⟨held.mapCall rfl, trivial⟩
  | saveProcessing | saveCompleted =>
      exact saves_of (put_jobMeta held.call) (Copy.Of.put held.call) (Copy.Of.put held.call)
  | saveRefused =>
      exact saves_of (putFailure_jobMeta held.call) (Copy.Of.putFailure held.call) (Copy.Of.putFailure held.call)
  | saveRetry | saveFailed =>
      exact saves_of (putFailure_jobMeta held.call) (Copy.Of.putFailure held.call) (putFailure_jobMeta held.call)
  | saveCancelled => exact ⟨Copy.Of.put held.call, put_jobMeta held.call⟩
  | saveStreaming streaming =>
      exact ⟨⟨Copy.Of.put held.call, held.call ▸ streaming⟩, put_jobMeta held.call⟩
  | announceStreaming => exact ⟨held, jobId_event (by simp) held.1.call⟩
  | announceProcessing => exact ⟨held, jobId_event (by simp) held.call⟩
  | publish | announceDone | announceCancelled | announceRefused => exact ⟨held, jobId_event (by simp) held.call⟩
  | announceRetry | announceFailed => exact ⟨held.jobMeta, jobId_event (by simp) held.call⟩
  | missing => exact ⟨jobMeta_empty, trivial⟩
  | startInvalid | startUnreadable => exact ⟨held.jobMeta, trivial⟩
  | ask structured => exact ⟨held.mapCall rfl, held.call ▸ structured, request_of held.call, held.call ▸ rfl⟩
  | askRefused structured | askFailed structured => exact ⟨held, held.call ▸ structured, request_of held.call, held.call ▸ rfl⟩
  | generate plain => exact ⟨held.mapCall rfl, held.call ▸ plain, request_of held.call⟩
  | generateFailed plain => exact ⟨held, held.call ▸ plain, request_of held.call⟩
  | openStream => exact ⟨held.1, held.2, request_of held.1.call⟩
  | closeAnswered => exact ⟨held.mapCall rfl, trivial⟩
  | finish => exact ⟨trivial, held.call⟩
  | _ => exact ⟨held, trivial⟩

/-- A record that is stored is one that a command has written. -/
theorem Stored.step (stored : Stored new w) (issued : command.Of new) (answered : exec party command w = some (reply, w')) :
    Stored new w' := by
  intro job found
  cases keeps : command.keepsRecord with
  | true =>
      rw [(snapshot_kept keeps answered).1] at found
      exact stored job found
  | false =>
      cases command with
      | push payload =>
          obtain rfl := exec_push answered
          obtain rfl := Option.some.inj found
          exact ⟨issued, jobMeta_empty, fun _ returned => by cases returned⟩
      | saveMeta saved =>
          rw [(snapshot_saveMeta answered).1] at found
          obtain ⟨before, was, rfl⟩ := Option.map_eq_some_iff.mp found
          have held := stored before was
          exact ⟨held.args, issued, held.result⟩
      | finish result =>
          rw [(snapshot_finish answered).1] at found
          obtain ⟨before, was, rfl⟩ := Option.map_eq_some_iff.mp found
          have held := stored before was
          exact ⟨held.args, held.jobMeta, fun _ returned => Option.some.inj returned ▸ issued⟩
      | requeue saved =>
          rw [(snapshot_requeue answered).1] at found
          obtain ⟨before, was, rfl⟩ := Option.map_eq_some_iff.mp found
          have held := stored before was
          exact ⟨held.args, issued, held.result⟩
      | _ => cases keeps

end Steps

/-! ## Runs -/

/-- All that is stored, held and written is of the job. -/
structure AllOf (new : NewCall) (trace : Trace) (w : World) (p : Phases) : Prop where
  stored : Stored new w
  api : p.api.Of new
  worker : p.worker.point.Of new
  cancel : ∀ call, (p.cancel call).Of new
  commands : ∀ label ∈ trace, label.command.Of new

section Runs

variable {settings : Settings} {new : NewCall} {polls : Nat → Nat} {env : Environment} {d : System}

theorem commands_append {trace : Trace} {party : Party} {command : Command}
    (commands : ∀ label ∈ trace, label.command.Of new) (issued : command.Of new) :
    ∀ label ∈ trace ++ [(⟨party, command⟩ : Label signature Party)], label.command.Of new := by
  intro label member
  rcases List.mem_append.mp member with earlier | last
  · exact commands label earlier
  · obtain rfl := List.mem_singleton.mp last
    exact issued

theorem allOf_preserved : Preserved settings new Machine.anyStep Unconditionally (AllOf new) where
  api _ all _ move answered := by
    obtain ⟨next, issued⟩ := move.of all.api
    exact ⟨all.stored.step issued answered, next, all.worker, all.cancel, commands_append all.commands issued⟩
  worker {_ _ p _ _ _ _} _ all _ move answered := by
    obtain ⟨api, worker, cancel, wait⟩ := p
    cases move with
    | attempt move =>
        obtain ⟨next, issued⟩ := move.of all.stored answered all.worker
        exact ⟨all.stored.step issued answered, all.api, next, all.cancel, commands_append all.commands issued⟩
    | @requeue _ _ jobMeta =>
        have issued : (Command.requeue jobMeta).Of new := all.worker
        exact ⟨all.stored.step issued answered, all.api, trivial, all.cancel, commands_append all.commands issued⟩
    | giveUp =>
        refine ⟨Stored.step all.stored ?_ answered, all.api, trivial, all.cancel, commands_append all.commands ?_⟩
        all_goals trivial
  cancel {_ _ p call _ _ _ after} _ all _ move answered := by
    obtain ⟨next, issued⟩ := move.of all.stored answered (all.cancel call)
    refine ⟨all.stored.step issued answered, all.api, all.worker, fun other => ?_, commands_append all.commands issued⟩
    by_cases same : other = call
    · subst same
      simpa using next
    · simpa [Function.update_of_ne same] using all.cancel other
  wait _ all _ move answered :=
    ⟨all.stored.step move.of answered, all.api, all.worker, all.cancel, commands_append all.commands move.of⟩
  reaper _ all _ answered := by
    refine ⟨Stored.step all.stored ?_ answered, all.api, all.worker, all.cancel, commands_append all.commands ?_⟩
    all_goals trivial

theorem reached_of (run : machine.Reach Machine.anyStep (boot settings new polls env) d) :
    ∀ label ∈ d.trace, label.command.Of new := by
  have start : AllOf new [] (boot settings new polls env).world (Phases.of (startPhase settings)) :=
    ⟨fun _ found => (by cases found), trivial, trivial, fun _ => trivial, fun _ member => (by cases member)⟩
  obtain ⟨_, _, all⟩ := allOf_preserved.reach run boot_tracked start
  exact all.commands

/-- However the parties interleave and wherever in its `try` block an exception strikes an
    attempt, every record of a run keeps the fields that the gateway has filled in, every event
    names the job, and the model is asked what was enqueued, in the way of its call type. -/
theorem asked_as_enqueued (run : machine.Reach Machine.anyStep (boot settings new polls env) d)
    {label : Label signature Party} (issued : label ∈ d.trace) : label.command.Of new :=
  reached_of run label issued

/-- The model raises at every call. -/
def raisingModel : Environment := { demoEnvironment with ask := fun _ _ _ => .error demoError }

/-- A job that has been run again asks twice. -/
theorem asked_as_enqueued_rerun : ∃ d : System, d.world.reruns = 1 ∧ d.world.modelCalls = 2 ∧
    ∀ label ∈ d.trace, label.command.Of (demoCall .structuredJson) := by
  obtain ⟨d, run, seen⟩ := Machine.schedule_observed machine Machine.anyStep
    (List.replicate 8 .api ++ List.replicate 29 .worker)
    (boot demoSettings (demoCall .structuredJson) (fun _ => 0) raisingModel)
    (fun d => (d.world.reruns, d.world.modelCalls)) (1, 2) (by decide +kernel)
  obtain ⟨reruns, calls⟩ := Prod.mk.inj seen
  exact ⟨d, reruns, calls, fun label issued => asked_as_enqueued run issued⟩

end Runs

end Queue

end LanguageAgent
