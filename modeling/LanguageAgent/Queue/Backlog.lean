import LanguageAgent.Queue.Conformance

/-! # The backlog of the queue

Many jobs at once: one API process enqueues call after call, one worker takes jobs and lets
go of them, and cancellers take jobs off the queue. What `enqueue_llm_call` reads elsewhere
is answered in any way.
-/

namespace LanguageAgent.Queue

open Interleaving

/-- The API process handles its calls one after the other, saturated or not. -/
def enqueueAll (settings : Settings) : List NewCall → Program signature Unit
  | [] => .done ()
  | new :: rest => (enqueueLlmCall settings new.toCall ()).bind fun _ => enqueueAll settings rest

structure Backlog where
  queue : List String := []
  running : Option String := none
  api : Program signature Unit

/-- Jobs that wait and the job that runs. -/
def Backlog.size (b : Backlog) : Nat := b.queue.length + b.running.toList.length

inductive BacklogAction where
  /-- The API issues its next command; the replies that do not depend on the queue are given. -/
  | api (answers : (command : Command) → command.Reply)
  | pop
  | finish
  /-- The job failed and is queued again. -/
  | requeue
  /-- The job failed for good. -/
  | giveUp
  /-- `remove` of a canceller. -/
  | remove (jobId : String)

namespace Backlog

/-- The next command of the API: it reads the depth, pushes a job, or does something else. -/
def issue (b : Backlog) (answers : (command : Command) → command.Reply) : Option Backlog :=
  match b.api with
  | .done _ => none
  | .issue .queueDepth next => some { b with api := next b.queue.length }
  | .issue (.push payload) next => some { b with queue := b.queue ++ [payload.jobId], api := next () }
  | .issue command next => some { b with api := next (answers command) }

def perform (b : Backlog) : BacklogAction → Option Backlog
  | .api answers => b.issue answers
  | .pop => match b.queue, b.running with
      | jobId :: rest, none => some { b with queue := rest, running := some jobId }
      | _, _ => none
  | .finish | .giveUp => match b.running with
      | some _ => some { b with running := none }
      | none => none
  | .requeue => match b.running with
      | some jobId => some { b with queue := b.queue ++ [jobId], running := none }
      | none => none
  | .remove jobId => some { b with queue := b.queue.erase jobId }

/-- Backlogs some order of steps leads to. -/
abbrev Reach : Backlog → Backlog → Prop :=
  Relation.ReflTransGen fun b d => ∃ action, b.perform action = some d

/-- Nothing is queued and nothing runs. -/
def empty (settings : Settings) (calls : List NewCall) : Backlog := { api := enqueueAll settings calls }

end Backlog

/-! ## What the API may do -/

/-- The API pushes a job only after a depth below the limit, with no push in between. -/
inductive AdmissionMoves (settings : Settings) : Protocol signature (Option Nat) where
  | neutral {phase command reply} (neutral : command.isNeutral) :
      AdmissionMoves settings phase command reply phase
  | depth {phase depth} : AdmissionMoves settings phase .queueDepth depth (some depth)
  | push {depth payload} (room : depth < settings.llmMaxQueueSize) :
      AdmissionMoves settings (some depth) (.push payload) () none
  | save {saved} : AdmissionMoves settings none (.saveMeta saved) () none
  | announce {event} : AdmissionMoves settings none (.xadd event) () none

section Admission

variable {settings : Settings}

theorem admissionMoves_free : ReadsFreely (AdmissionMoves settings) := fun _ _ _ neutral => .neutral neutral

private theorem publishRecord_admits {payload : LLMCallJob}
    {post : Except QueueError LLMCallJob → Unit → Option Nat → Prop} (next : ∀ out, post out () none) :
    (publishRecord payload).Obeys (AdmissionMoves settings) post () none := by
  simp only [publishRecord, Routine.obeys_bind]
  refine saveJobPayload_obeys admissionMoves_free fun elapsed => ⟨none, .save, ?_⟩
  simp only [Routine.resume_ok, Routine.obeys_ite, Routine.obeys_bind, Routine.obeys_pure]
  constructor
  · intro _
    refine jobPosition_obeys admissionMoves_free fun position => ?_
    simp only [Routine.resume_ok, Routine.obeys_bind]
    exact issue_obeys fun _ => ⟨none, .announce, next _⟩
  · exact fun _ => next _

theorem enqueueLlmCall_admits {job : LLMCallJob} {phase : Option Nat} :
    (enqueueLlmCall settings job).Obeys (AdmissionMoves settings) (fun _ _ _ => True) () phase := by
  simp only [enqueueLlmCall, Routine.obeys_bind]
  refine estimateWaitTimeSeconds_obeys (fun _ _ => .neutral) fun estimate => ?_
  simp only [Routine.resume_ok, Routine.obeys_bind]
  refine checkBackpressure_obeys fun depth => ⟨some depth, .depth, fun room => ?_, fun error => trivial⟩
  simp only [Routine.resume_ok, Routine.obeys_bind]
  refine serializeLlmCall_obeys admissionMoves_free fun elapsed => ?_
  simp only [Routine.resume_ok, Routine.obeys_bind]
  refine issue_obeys fun _ => ⟨none, .push room, ?_⟩
  simp only [Routine.resume_ok]
  exact publishRecord_admits fun _ => trivial

theorem enqueueAll_admits (calls : List NewCall) {phase : Option Nat} :
    (enqueueAll settings calls).Obeys (AdmissionMoves settings) (fun _ _ => True) phase := by
  induction calls generalizing phase with
  | nil => trivial
  | cons new rest ih =>
      apply Program.obeys_bind.mpr
      exact Program.Obeys.mono enqueueLlmCall_admits fun _ _ _ => ih

end Admission

/-! ## The bound -/

/-- The jobs there are: one more than the limit at most, and one more than the depth the API
    has read since its last push. -/
structure Backlog.Bounded (settings : Settings) (b : Backlog) (read : Option Nat) : Prop where
  obeys : b.api.Obeys (AdmissionMoves settings) (fun _ _ => True) read
  size : b.size ≤ settings.llmMaxQueueSize + 1
  seen : ∀ depth, read = some depth → b.size ≤ depth + 1

section Bound

variable {settings : Settings} {b d : Backlog} {read : Option Nat}

/-- A step that lets no job in. -/
private theorem Backlog.Bounded.shrink (inv : b.Bounded settings read) {queue : List String}
    {running : Option String} (size : queue.length + running.toList.length ≤ b.size) :
    Backlog.Bounded settings ⟨queue, running, b.api⟩ read :=
  ⟨inv.obeys, size.trans inv.size, fun depth same => size.trans (inv.seen depth same)⟩

private theorem Backlog.Bounded.issue (inv : b.Bounded settings read)
    {answers : (command : Command) → command.Reply} (issued : b.issue answers = some d) :
    ∃ read', d.Bounded settings read' := by
  obtain ⟨queue, running, api⟩ := b
  have obeys := inv.obeys
  cases api with
  | done out => cases issued
  | issue command next =>
      have other : command ≠ .queueDepth → d = ⟨queue, running, next (answers command)⟩ →
          ∃ read', d.Bounded settings read' := by
        rintro elsewhere rfl
        obtain ⟨after, move, rest⟩ := obeys (answers command)
        refine ⟨after, rest, inv.size, fun depth same => ?_⟩
        cases move with
        | neutral => exact inv.seen depth same
        | depth => exact absurd rfl elsewhere
        | push => cases same
        | save => cases same
        | announce => cases same
      cases command with
      | queueDepth =>
          cases issued
          obtain ⟨after, move, rest⟩ := obeys queue.length
          refine ⟨after, rest, inv.size, fun depth same => ?_⟩
          cases move with
          | neutral => exact inv.seen depth same
          | depth =>
              cases same
              cases running with
              | none => exact Nat.le_succ _
              | some jobId => exact le_rfl
      | push payload =>
          cases issued
          obtain ⟨after, move, rest⟩ := obeys ()
          cases move with
          | neutral neutral => exact absurd neutral Bool.false_ne_true
          | push room =>
              refine ⟨none, rest, ?_, fun depth same => (by cases same)⟩
              have seen := inv.seen _ rfl
              simp only [Backlog.size, List.length_append, List.length_singleton] at seen ⊢
              omega
      | _ => exact other Command.noConfusion (Option.some.inj issued).symm

private theorem Backlog.Bounded.step (inv : b.Bounded settings read) {action : BacklogAction}
    (performed : b.perform action = some d) : ∃ read', d.Bounded settings read' := by
  obtain ⟨queue, running, api⟩ := b
  cases action with
  | api answers => exact inv.issue performed
  | pop =>
      cases queue with
      | nil => cases performed
      | cons jobId rest =>
          cases running with
          | some busy => cases performed
          | none =>
              cases performed
              exact ⟨read, inv.shrink le_rfl⟩
  | finish | giveUp =>
      cases running with
      | none => cases performed
      | some jobId =>
          cases performed
          exact ⟨read, inv.shrink (Nat.le_succ _)⟩
  | requeue =>
      cases running with
      | none => cases performed
      | some jobId =>
          cases performed
          refine ⟨read, inv.shrink ?_⟩
          rw [List.length_append]
          exact le_rfl
  | remove jobId =>
      cases performed
      exact ⟨read, inv.shrink (Nat.add_le_add_right List.length_erase_le _)⟩

/-- Starting empty, with one API process, one worker and any cancellations, in every order of
    their steps, the jobs queued and running exceed the limit by one at most. -/
theorem backlog_bounded {calls : List NewCall} (run : (Backlog.empty settings calls).Reach b) :
    b.queue.length + b.running.toList.length ≤ settings.llmMaxQueueSize + 1 := by
  have bounded : ∃ read, b.Bounded settings read := by
    induction run with
    | refl => exact ⟨none, enqueueAll_admits calls, Nat.zero_le _, fun _ same => by cases same⟩
    | tail _ step ih =>
        obtain ⟨_, inv⟩ := ih
        obtain ⟨_, performed⟩ := step
        exact inv.step performed
  obtain ⟨_, inv⟩ := bounded
  exact inv.size

/-- Replies of an idle deployment. -/
def idleAnswers : (command : Command) → command.Reply
  | .utcnow => (0 : Int)
  | .readMetrics => fun _ => none
  | .queueDepth | .activeJobCount => (0 : Nat)
  | .jobPosition => none
  | .fetchJob _ => none
  | .jobStatus => JobStatus.queued
  | .interrupt | .loadService => none
  | .askModel _ _ => .ok .null
  | .generateText _ => .ok ""
  | .openStream _ => ⟨[], none⟩
  | .incrMetric _ _ | .push _ | .remove | .saveMeta _ | .setStatus _ | .xadd _ | .pop | .nextChunk
  | .closeStream | .finish _ | .requeue _ | .giveUp | .abandon _ => ()

def Backlog.performAll (b : Backlog) : List BacklogAction → Option Backlog
  | [] => some b
  | action :: rest => (b.perform action).bind fun b => b.performAll rest

theorem Backlog.performAll_reach {actions : List BacklogAction} (performed : b.performAll actions = some d) :
    b.Reach d := by
  induction actions generalizing b with
  | nil => cases performed; exact .refl
  | cons action rest ih =>
      obtain ⟨middle, first, remaining⟩ := Option.bind_eq_some_iff.mp performed
      exact .head ⟨action, first⟩ (ih remaining)

/-- Two requests, and room for one job. -/
def twoRequests : Backlog :=
  .empty { demoSettings with llmMaxQueueSize := 1 } [demoCall .textGeneration, demoCall .textGeneration]

/-- With room for one job, one runs while a second is queued. -/
theorem backlog_bounded_demo : ∃ b : Backlog, twoRequests.Reach b ∧
    b.queue.length + b.running.toList.length = 2 ∧ b.queue.length + b.running.toList.length ≤ 1 + 1 := by
  have run : ∃ b, twoRequests.performAll
        (List.replicate 8 (.api idleAnswers) ++ [.pop] ++ List.replicate 8 (.api idleAnswers)) = some b ∧
      b.queue.length + b.running.toList.length = 2 := by
    apply Option.map_eq_some_iff.mp
    decide +kernel
  obtain ⟨b, performed, size⟩ := run
  have run := Backlog.performAll_reach performed
  exact ⟨b, run, size, backlog_bounded run⟩

end Bound

end LanguageAgent.Queue
