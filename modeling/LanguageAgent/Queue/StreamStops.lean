import LanguageAgent.Interleaving.Evaluation
import LanguageAgent.Queue.System

/-! # Where a streaming attempt stops

One attempt of `process_llm_call` on a streaming job. What each `is_cancel_requested`
reads is given beforehand, and so is the stream of the model.
-/

namespace LanguageAgent.Queue

open Interleaving

/-- What the attempt meets. No store operation raises, and the service is there. -/
structure Script where
  clock : Nat → Timestamp
  position : Nat → Option Nat
  /-- What the next checks read, one after the other. -/
  snapshots : Nat → Snapshot
  readable : ∀ n, ∃ payload, (snapshots n).payload = some payload ∧ payload.validates = true
  stream : ModelStream

/-- What the attempt has done, and how much of its script it has used. -/
structure Performance where
  ticks : Nat := 0
  checks : Nat := 0
  events : List Dict := []
  saved : Option JobMeta := none
  closed : Nat := 0

/-- Commands that this attempt does not issue have no answer. -/
def perform (script : Script) (command : Command) (w : Performance) : Option (command.Reply × Performance) :=
  match command with
  | .utcnow => some (script.clock w.ticks, { w with ticks := w.ticks + 1 })
  | .fetchJob _ => some (some (script.snapshots w.checks), { w with checks := w.checks + 1 })
  | .jobPosition => some (script.position w.checks, w)
  | .saveMeta saved => some ((), { w with saved := some saved })
  | .xadd event => some ((), { w with events := w.events ++ [event] })
  | .openStream _ => some (script.stream, w)
  | .closeStream => some ((), { w with closed := w.closed + 1 })
  | .interrupt | .loadService => some (none, w)
  | .nextChunk => some ((), w)
  | .incrMetric _ _ => some ((), w)
  | _ => none

def performance (script : Script) : Machine signature Unit Performance := ⟨fun _ => perform script⟩

/-- The answer of a check. -/
def Script.answer (script : Script) (check : Nat) : Bool :=
  match (script.snapshots check).payload with
  | some payload => payload.cancelRequested
  | none => false

/-- The tokens among some events. -/
def publishedTokens (events : List Dict) : List String := events.filterMap fun event => event.str? "token"

/-- The chunks up to the first whose check says yes. -/
def takenChunks (answer : Nat → Bool) (check : Nat) : List (Option String) → List (Option String)
  | [] => []
  | content :: rest => content :: if answer check then [] else takenChunks answer (check + 1) rest

/-- The check of one of the chunks says yes. -/
def stopsAt (answer : Nat → Bool) (check : Nat) : List (Option String) → Bool
  | [] => false
  | _ :: rest => answer check || stopsAt answer (check + 1) rest

section Steps

variable {script : Script} {settings : Settings} {s : WorkerLocals} {w : Performance}

/-- The attempt, or a part of it, under its script. -/
abbrev Performs (script : Script) {α : Type} (m : WorkerM α) (s : WorkerLocals) (w : Performance)
    (out : Except QueueError α) (s' : WorkerLocals) (w' : Performance) : Prop :=
  m.Evaluates (performance script) () s w out s' w'

/-! ## Store operations -/

theorem currentCall_performs : Performs script currentCall s w (.ok s.call) s w := Routine.Evaluates.get.bind .pure

theorem interruptible_performs : Performs script interruptible s w (.ok ()) s w := by
  apply Routine.Evaluates.get.bind
  cases s.guarded with
  | false => exact .pure
  | true => exact (Routine.Evaluates.issue rfl).bind .pure

theorem interruptibly_performs {α : Type} {operation : WorkerM α} {a : α} {s' : WorkerLocals} {w' : Performance}
    (operates : Performs script operation s w (.ok a) s' w') :
    Performs script (interruptibly operation) s w (.ok a) s' w' :=
  interruptible_performs.bind (operates.bind (interruptible_performs.bind .pure))

theorem utcnow_performs :
    Performs script utcnow s w (.ok (script.clock w.ticks)) s { w with ticks := w.ticks + 1 } :=
  .issue rfl

theorem computeElapsedSeconds_performs (call : LLMCallJob) : ∃ elapsed ticks,
    Performs script (computeElapsedSeconds call) s w (.ok elapsed) s { w with ticks := ticks } := by
  unfold computeElapsedSeconds
  cases call.completedAt with
  | none => exact ⟨_, _, utcnow_performs.bind .pure⟩
  | some endTime => exact ⟨_, _, .pure⟩

theorem serializeLlmCall_performs (call : LLMCallJob) : ∃ elapsed ticks,
    Performs script (serializeLlmCall call) s w (.ok { call with elapsedSeconds := elapsed }) s
      { w with ticks := ticks } := by
  obtain ⟨elapsed, ticks, computes⟩ := @computeElapsedSeconds_performs script s w call
  exact ⟨elapsed, ticks, computes.bind .pure⟩

theorem setJobPayload_performs : ∃ elapsed ticks, ∃ saved : JobMeta,
    saved.llmCall = some { s.call with elapsedSeconds := elapsed } ∧
    Performs script setJobPayload s w (.ok ())
      { s with call := { s.call with elapsedSeconds := elapsed }, jobMeta := saved }
      { w with ticks := ticks, saved := some saved } := by
  obtain ⟨elapsed, ticks, serializes⟩ := @serializeLlmCall_performs script s w s.call
  exact ⟨elapsed, ticks, _, rfl, interruptibly_performs (Routine.Evaluates.get.bind (serializes.bind
    (Routine.Evaluates.modify.bind (.issue rfl))))⟩

theorem publish_performs (extra : Dict) : Performs script (publish extra) s w (.ok ()) s
    { w with events := w.events ++ [buildStreamEvent s.call extra] } :=
  currentCall_performs.bind (interruptibly_performs (.issue rfl))

theorem publishIfStreaming_performs (extra : Dict) (streaming : s.call.callType = .streamingTextGeneration) :
    Performs script (publishIfStreaming extra) s w (.ok ()) s
      { w with events := w.events ++ [buildStreamEvent s.call extra] } := by
  apply currentCall_performs.bind
  simp only [streaming, if_true]
  exact publish_performs extra

theorem returnCall_performs : ∃ elapsed ticks,
    Performs script returnCall s w (.ok { s.call with elapsedSeconds := elapsed }) s { w with ticks := ticks } := by
  obtain ⟨elapsed, ticks, serializes⟩ := @serializeLlmCall_performs script s w s.call
  exact ⟨elapsed, ticks, currentCall_performs.bind serializes⟩

/-! ## Checks -/

theorem getJobResult_performs (jobId : String) (site : FetchSite) : ∃ ticks, ∃ call : LLMCallJob,
    call.cancelRequested = script.answer w.checks ∧ Performs script (getJobResult settings jobId site) s w (.ok call) s
      { w with ticks := ticks, checks := w.checks + 1 } := by
  obtain ⟨payload, found, valid⟩ := script.readable w.checks
  have answer : script.answer w.checks = payload.cancelRequested := by simp [Script.answer, found]
  have fetches : Performs script (getJob site) s w (.ok (script.snapshots w.checks)) s
      { w with checks := w.checks + 1 } := (Routine.Evaluates.issue rfl).bind .pure
  have validates : Performs script (modelValidate payload) s { w with checks := w.checks + 1 } (.ok payload) s
      { w with checks := w.checks + 1 } := by
    rw [modelValidate, if_pos valid]
    exact .pure
  rw [answer, getJobResult]
  by_cases queued : payload.status = .queued
  · obtain ⟨elapsed, ticks, computes⟩ :=
      @computeElapsedSeconds_performs script s { w with checks := w.checks + 1 } { payload with
        streamChannel := some (payload.streamChannel.getD (getStreamChannel settings jobId))
        queuePosition := script.position (w.checks + 1) }
    refine ⟨ticks, { payload with
      streamChannel := some (payload.streamChannel.getD (getStreamChannel settings jobId))
      queuePosition := script.position (w.checks + 1)
      elapsedSeconds := elapsed }, rfl, fetches.bind ?_⟩
    simp only [found]
    apply validates.bind
    simp only [queued, if_true]
    exact (Routine.Evaluates.issue rfl).bind (Routine.Evaluates.pure.bind (computes.bind .pure))
  · obtain ⟨elapsed, ticks, computes⟩ :=
      @computeElapsedSeconds_performs script s { w with checks := w.checks + 1 } { payload with
        streamChannel := some (payload.streamChannel.getD (getStreamChannel settings jobId)) }
    refine ⟨ticks, { payload with
      streamChannel := some (payload.streamChannel.getD (getStreamChannel settings jobId))
      elapsedSeconds := elapsed }, rfl, fetches.bind ?_⟩
    simp only [found]
    apply validates.bind
    simp only [queued, if_false]
    exact Routine.Evaluates.pure.bind (computes.bind .pure)

theorem isCancelRequested_performs (jobId : String) (site : FetchSite) : ∃ ticks,
    Performs script (isCancelRequested settings jobId site) s w (.ok (script.answer w.checks)) s
      { w with ticks := ticks, checks := w.checks + 1 } := by
  obtain ⟨ticks, call, answer, reads⟩ := @getJobResult_performs script settings s w
    jobId site
  rw [← answer]
  exact ⟨ticks, reads.bind .pure⟩

theorem checkCancelRequested_performs (site : FetchSite) : ∃ ticks,
    Performs script (checkCancelRequested settings site) s w (.ok (script.answer w.checks)) s
      { w with ticks := ticks, checks := w.checks + 1 } := by
  obtain ⟨ticks, reads⟩ := @isCancelRequested_performs script settings s w
    s.call.jobId site
  exact ⟨ticks, interruptibly_performs (currentCall_performs.bind reads)⟩

/-! ## The loop -/

/-- The locals in which a request to cancel has been seen. -/
def WorkerLocals.flagged (s : WorkerLocals) : WorkerLocals := { s with call := { s.call with cancelRequested := true } }

theorem checkChunk_performs (parts : List String) : ∃ ticks,
    Performs script (checkChunk settings parts) s w
      (if script.answer w.checks then .error (.cancelled cancelledDuringGeneration) else .ok parts)
      (if script.answer w.checks then s.flagged else s) { w with ticks := ticks, checks := w.checks + 1 } := by
  obtain ⟨ticks, checks⟩ := @checkCancelRequested_performs script settings s w
    .chunkCheck
  refine ⟨ticks, checks.bind ?_⟩
  cases script.answer w.checks with
  | false => exact .pure
  | true => exact Routine.Evaluates.modify.bind .throw

/-- One chunk. -/
theorem handleChunk_performs (parts : List String) (content : Option String) : ∃ ticks events,
    publishedTokens events = (visibleToken content).toList ∧
    Performs script (handleChunk settings parts content) s w
      (if script.answer w.checks then .error (.cancelled cancelledDuringGeneration)
        else .ok (parts ++ (visibleToken content).toList))
      (if script.answer w.checks then s.flagged else s)
      { w with ticks := ticks, checks := w.checks + 1, events := w.events ++ events } := by
  unfold handleChunk
  cases visible : visibleToken content with
  | none =>
      obtain ⟨ticks, checks⟩ := @checkChunk_performs script settings s w parts
      refine ⟨ticks, [], rfl, (Routine.Evaluates.issue rfl).bind ?_⟩
      simpa using checks
  | some token =>
      obtain ⟨ticks, checks⟩ :=
        @checkChunk_performs script settings s
          { w with events := w.events ++ [buildStreamEvent s.call [("token", .str token)]] } (parts ++ [token])
      exact ⟨ticks, [buildStreamEvent s.call [("token", .str token)]], rfl,
        (Routine.Evaluates.issue rfl).bind ((publish_performs _).bind checks)⟩

theorem publishedTokens_append (earlier later : List Dict) :
    publishedTokens (earlier ++ later) = publishedTokens earlier ++ publishedTokens later := by
  simp [publishedTokens]

theorem handleChunks_performs (ending : Option PyError) (parts : List String) (chunks : List (Option String)) :
    ∃ ticks checks events,
    publishedTokens events = (takenChunks script.answer w.checks chunks).filterMap visibleToken ∧
    (stopsAt script.answer w.checks chunks = false → checks = w.checks + chunks.length) ∧
    Performs script (handleChunks settings ending parts chunks) s w
      (if stopsAt script.answer w.checks chunks then .error (.cancelled cancelledDuringGeneration)
        else match ending with
          | some error => .error (.other error)
          | none => .ok (parts ++ (takenChunks script.answer w.checks chunks).filterMap visibleToken))
      (if stopsAt script.answer w.checks chunks then s.flagged else s)
      { w with ticks := ticks, checks := checks, events := w.events ++ events } := by
  induction chunks generalizing parts w with
  | nil =>
      refine ⟨w.ticks, w.checks, [], rfl, fun _ => rfl, ?_⟩
      simp only [List.append_nil, takenChunks, List.filterMap_nil]
      cases ending with
      | none => exact .pure
      | some error => exact .throw
  | cons content rest ih =>
      obtain ⟨ticks, events, tokens, handles⟩ := @handleChunk_performs script settings s w parts content
      have shown : ∀ more : List (Option String), (content :: more).filterMap visibleToken =
          (visibleToken content).toList ++ more.filterMap visibleToken := by
        intro more
        cases visible : visibleToken content <;> simp [visible]
      cases asked : script.answer w.checks with
      | true =>
          simp only [asked, if_true] at handles
          refine ⟨ticks, w.checks + 1, events, ?_, ?_, ?_⟩
          · rw [tokens, takenChunks, asked, if_pos rfl, shown, List.filterMap_nil, List.append_nil]
          · intro going
            simp [stopsAt, asked] at going
          · simp only [stopsAt, asked, Bool.true_or, if_true]
            exact handles.bind_raised
      | false =>
          simp only [asked, Bool.false_eq_true, if_false] at handles
          obtain ⟨ticks', checks, later, laterTokens, counted, runs⟩ := ih (w := { w with
            ticks := ticks, checks := w.checks + 1, events := w.events ++ events }) (parts ++ (visibleToken content).toList)
          refine ⟨ticks', checks, events ++ later, ?_, ?_, ?_⟩
          · rw [publishedTokens_append, tokens, laterTokens, takenChunks, asked, if_neg Bool.false_ne_true, shown]
          · intro going
            simp only [stopsAt, asked, Bool.false_or] at going
            rw [counted going, List.length_cons, Nat.add_assoc, Nat.add_comm 1]
          · simp only [stopsAt, asked, Bool.false_or, takenChunks, Bool.false_eq_true, if_false, shown]
            simp only [List.append_assoc] at runs
            exact handles.bind runs

/-! ## The model call -/

theorem closeStreamIterator_performs :
    Performs script closeStreamIterator s w (.ok ()) s { w with closed := w.closed + 1 } :=
  interruptibly_performs (.issue rfl)

/-- The tokens of the chunks up to the first whose check says yes. -/
def Script.tokens (script : Script) (check : Nat) : List String :=
  (takenChunks script.answer check script.stream.chunks).filterMap visibleToken

def Script.stops (script : Script) (check : Nat) : Bool := stopsAt script.answer check script.stream.chunks

/-- How the loop over the stream is left. -/
def Script.loopOutcome (script : Script) (check : Nat) : Except QueueError Unit :=
  if script.stops check then .error (.cancelled cancelledDuringGeneration)
  else match script.stream.ending with
    | some error => .error (.other error)
    | none => .ok ()

/-- What the streaming of the reply leaves behind, however its loop is left. -/
structure Streamed (script : Script) (s : WorkerLocals) (w : Performance) (s' : WorkerLocals) (w' : Performance) :
    Prop where
  tokens : publishedTokens w'.events = publishedTokens w.events ++ script.tokens w.checks
  closed : w'.closed = w.closed + 1
  checks : script.stops w.checks = false → w'.checks = w.checks + script.stream.chunks.length
  callType : s'.call.callType = s.call.callType
  result : script.loopOutcome w.checks = .ok () → s'.call.result = .str (String.join (script.tokens w.checks))

theorem streamTokens_performs (call : LLMCallJob) : ∃ s' w',
    Performs script (streamTokens settings call) s w (script.loopOutcome w.checks) s' w' ∧ Streamed script s w s' w' := by
  obtain ⟨elapsed, ticks, saved, _, saves⟩ :=
    @setJobPayload_performs script { s with call := { s.call with status := .streaming } } w
  let asking : LLMCallJob := { s.call with status := .streaming, elapsedSeconds := elapsed }
  obtain ⟨ticks', checks, events, tokens, counted, loops⟩ :=
    @handleChunks_performs script settings { s with call := asking, jobMeta := saved }
      { w with ticks := ticks, saved := some saved, events := w.events ++ [buildStreamEvent asking []] }
    script.stream.ending [] script.stream.chunks
  have shown : publishedTokens (w.events ++ [buildStreamEvent asking []] ++ events) =
      publishedTokens w.events ++ script.tokens w.checks := by
    rw [publishedTokens_append, publishedTokens_append, tokens, List.append_assoc]
    rfl
  have closes := loops.ensuring closeStreamIterator_performs
  have opens : ∀ {out s' w'}, _ → Performs script (streamTokens settings call) s w out s' w' :=
    fun rest => Routine.Evaluates.modify.bind (saves.bind ((publish_performs []).bind
      ((Routine.Evaluates.issue rfl).bind rest)))
  unfold Script.loopOutcome
  cases stops : script.stops w.checks with
  | true =>
      have stopped : stopsAt script.answer w.checks script.stream.chunks = true := stops
      simp only [stopped, if_true] at closes ⊢
      refine ⟨_, _, opens closes.bind_raised, ?_⟩
      refine ⟨shown, rfl, fun going => ?_, rfl, fun ok => ?_⟩
      · cases stops.symm.trans going
      · simp [Script.loopOutcome, stops] at ok
  | false =>
      have going : stopsAt script.answer w.checks script.stream.chunks = false := stops
      simp only [going, Bool.false_eq_true, if_false] at closes ⊢
      cases ends : script.stream.ending with
      | some error =>
          simp only [ends] at closes opens
          refine ⟨_, _, opens closes.bind_raised, ?_⟩
          refine ⟨shown, rfl, fun _ => counted going, rfl, fun ok => ?_⟩
          simp [Script.loopOutcome, stops, ends] at ok
      | none =>
          simp only [ends] at closes opens
          refine ⟨_, _, opens (closes.bind .modify), ?_⟩
          exact ⟨shown, rfl, fun _ => counted going, rfl, fun _ => rfl⟩

theorem loadService_performs : Performs script loadService s w (.ok ()) s w := Routine.Evaluates.bind (.issue rfl) .pure

theorem callModel_performs (streaming : s.call.callType = .streamingTextGeneration) : ∃ s' w',
    Performs script (callModel settings) s w (script.loopOutcome w.checks) s' w' ∧ Streamed script s w s' w' := by
  obtain ⟨s', w', streams, streamed⟩ := @streamTokens_performs script settings s w
    s.call
  refine ⟨s', w', loadService_performs.bind (currentCall_performs.bind ?_), streamed⟩
  simp only [streaming]
  exact streams

/-! ## The end -/

/-- The job is stored and returned with this status. -/
structure RecordedAs (status : CallStatus) (call : LLMCallJob) (w : Performance) : Prop where
  returned : call.status = status
  stored : ∃ saved record, w.saved = some saved ∧ saved.llmCall = some record ∧ record.status = status

/-- One more event, and the stream has not been closed again. -/
structure Announced (event : Dict) (w w' : Performance) : Prop where
  silent : event.str? "token" = none
  events : w'.events = w.events ++ [event]
  closed : w'.closed = w.closed

theorem Announced.tokens {event : Dict} {w w' : Performance} (announced : Announced event w w') :
    publishedTokens w'.events = publishedTokens w.events := by
  rw [announced.events, publishedTokens_append]
  simp [publishedTokens, announced.silent]

theorem Announced.last {event : Dict} {w w' : Performance} (announced : Announced event w w') :
    w'.events.getLast? = some event := by
  rw [announced.events]
  simp

/-- A terminal event that says the job has been cancelled. -/
def IsCancelledEvent (event : Dict) : Prop :=
  isTerminalEvent event = true ∧ event.isTrue "cancelled" = true ∧ event.str? "status" = some "cancelled"

theorem finalizeCancelledJob_performs (message : String) : ∃ s' w' call event, IsCancelledEvent event ∧
    Performs script (finalizeCancelledJob message) s w (.ok call) s' w' ∧ RecordedAs .cancelled call w' ∧
    Announced event w w' := by
  obtain ⟨elapsed, ticks, saved, record, saves⟩ := @setJobPayload_performs script { s with call := { s.call with
      status := .cancelled, completedAt := some (script.clock w.ticks), error := some message } }
      { w with ticks := w.ticks + 1 }
  let ended : LLMCallJob := { s.call with
    status := .cancelled, completedAt := some (script.clock w.ticks), error := some message, elapsedSeconds := elapsed }
  let event := buildStreamEvent ended [("message", .str message), ("cancelled", .bool true), ("done", .bool true)]
  obtain ⟨elapsed', ticks', returns⟩ :=
    @returnCall_performs script { s with call := ended, jobMeta := saved }
      { w with ticks := ticks, saved := some saved, events := w.events ++ [event] }
  refine ⟨_, _, _, event, ⟨rfl, rfl, rfl⟩, Routine.Evaluates.modify.bind (interruptible_performs.bind
    (utcnow_performs.bind (Routine.Evaluates.modify.bind (interruptible_performs.bind (Routine.Evaluates.modify.bind
      (saves.bind ((publish_performs _).bind returns))))))), ?_⟩
  exact ⟨⟨rfl, saved, _, rfl, record, rfl⟩, rfl, rfl, rfl⟩

theorem recordCompletionMetrics_performs {call : LLMCallJob} :
    Performs script (recordCompletionMetrics call) s w (.ok ()) s w := by
  have counts : ∀ field amount, Performs script (incrMetric field amount) s w (.ok ()) s w := fun _ _ => .issue rfl
  unfold recordCompletionMetrics
  split
  · exact (counts _ _).bind (counts _ _)
  · exact Routine.Evaluates.pure.bind (counts _ _)

theorem completeCall_performs (streaming : s.call.callType = .streamingTextGeneration) : ∃ s' w' call event,
    Performs script (completeCall settings) s w (.ok call) s' w' ∧ Announced event w w' ∧
    if script.answer w.checks then IsCancelledEvent event ∧ RecordedAs .cancelled call w'
    else RecordedAs .completed call w' ∧ call.result = s.call.result := by
  obtain ⟨ticks, checks⟩ := @checkCancelRequested_performs script settings s w
    .finalCheck
  cases asked : script.answer w.checks with
  | true =>
      rw [asked] at checks
      obtain ⟨s', w', call, event, cancelled, finalizes, recorded, announced⟩ :=
        @finalizeCancelledJob_performs script s.flagged { w with ticks := ticks, checks := w.checks + 1 }
        "LLM job was cancelled before the result was returned."
      exact ⟨s', w', call, event, checks.bind (Routine.Evaluates.modify.bind finalizes),
        ⟨announced.silent, announced.events, announced.closed⟩, cancelled, recorded⟩
  | false =>
      rw [asked] at checks
      obtain ⟨elapsed, ticks', saved, record, saves⟩ :=
        @setJobPayload_performs script { s with call := { s.call with
          status := .completed, completedAt := some (script.clock ticks), lastError := none } }
          { w with ticks := ticks + 1, checks := w.checks + 1 }
      let ended : LLMCallJob := { s.call with
        status := .completed, completedAt := some (script.clock ticks), lastError := none, elapsedSeconds := elapsed }
      let event := buildStreamEvent ended [("done", .bool true)]
      obtain ⟨elapsed', ticks'', returns⟩ :=
        @returnCall_performs script { s with call := ended, jobMeta := saved }
          { w with ticks := ticks', checks := w.checks + 1, saved := some saved, events := w.events ++ [event] }
      have announces :=
        @publishIfStreaming_performs script { s with call := ended, jobMeta := saved }
          { w with ticks := ticks', checks := w.checks + 1, saved := some saved } [("done", .bool true)] streaming
      refine ⟨_, _, _, event, checks.bind (Routine.Evaluates.modify.bind (interruptible_performs.bind
        (utcnow_performs.bind (Routine.Evaluates.modify.bind (interruptible_performs.bind (Routine.Evaluates.modify.bind
          (saves.bind ((interruptibly_performs (currentCall_performs.bind recordCompletionMetrics_performs)).bind
            (announces.bind returns))))))))), ?_⟩
      exact ⟨⟨rfl, rfl, rfl⟩, ⟨rfl, saved, _, rfl, record, rfl⟩, rfl⟩

/-- The record of a failure is saved and announced. -/
theorem saveFailure_performs (extra : Dict) (streaming : s.call.callType = .streamingTextGeneration)
    (absent : ∀ entry ∈ extra, entry.1 ≠ "token") : ∃ s' middle w' event,
    Performs script saveFailure s w (.ok ()) s' middle ∧
    Performs script (publishIfStreaming extra) s' middle (.ok ()) s' w' ∧ Announced event w w' := by
  obtain ⟨elapsed, ticks, saved, _, saves⟩ := @setJobPayload_performs script { s with jobMeta := { s.jobMeta with
      retryCount := some s.call.retryCount, lastError := some s.call.lastError } } w
  have announces :=
    @publishIfStreaming_performs script { s with call :=
      { s.call with elapsedSeconds := elapsed }, jobMeta := saved }
      { w with ticks := ticks, saved := some saved } extra streaming
  refine ⟨_, _, _, _, Routine.Evaluates.modify.bind saves, announces, ?_, rfl, rfl⟩
  rw [Dict.str?, buildStreamEvent, Dict.get?_update absent]
  rfl

/-- An exception ends the attempt with an event that has no token. -/
theorem handleException_performs (error : PyError) (streaming : s.call.callType = .streamingTextGeneration) :
    ∃ out s' w' event, Performs script (handleException settings error) s w out s' w' ∧ Announced event w w' := by
  let noted : LLMCallJob :=
    { s.call with retryCount := s.call.retryCount + 1, lastError := some (safeErrorMessage error) }
  unfold handleException
  by_cases retries : noted.retryCount ≤ settings.llmJobMaxRetries
  · obtain ⟨s', middle, w', event, saves, announces, announced⟩ :=
      @saveFailure_performs script { s with call :=
        { noted with completedAt := none, status := .queued, error := none } } w
      [("message", .str "Retrying after a transient worker failure."), ("error", .null), ("done", .bool false)]
      streaming (by simp)
    refine ⟨.error (.other error), s', w', event, Routine.Evaluates.modify.bind (currentCall_performs.bind ?_), ?_⟩
    · rw [if_pos retries]
      exact Routine.Evaluates.modify.bind (saves.bind (announces.bind .throw))
    · exact ⟨announced.silent, announced.events, announced.closed⟩
  · obtain ⟨s', middle, w', event, saves, announces, announced⟩ :=
      @saveFailure_performs script { s with call := { noted with
        completedAt := some (script.clock w.ticks), status := .failed, error := noted.lastError } }
        { w with ticks := w.ticks + 1 }
      [("message", .optStr noted.lastError), ("error", .str "llm_service_error"), ("done", .bool true)] streaming (by simp)
    refine ⟨.error (.other error), s', w', event, Routine.Evaluates.modify.bind (currentCall_performs.bind ?_), ?_⟩
    · rw [if_neg retries]
      exact utcnow_performs.bind (Routine.Evaluates.modify.bind (saves.bind (announces.bind .throw)))
    · exact ⟨announced.silent, announced.events, announced.closed⟩

theorem recordWaitTime_performs (seconds : Rat) : Performs script (recordWaitTime seconds) s w (.ok ()) s w :=
  Routine.Evaluates.bind (.issue rfl) (.issue rfl)

/-- What comes before the model call of a streaming job. -/
theorem markProcessing_performs (streaming : s.call.callType = .streamingTextGeneration) : ∃ s' w' event,
    Performs script markProcessing s w (.ok ()) s' w' ∧ s'.call.callType = .streamingTextGeneration ∧
    w'.checks = w.checks ∧ Announced event w w' := by
  let started : LLMCallJob := { s.call with status := .processing, startedAt := some (script.clock w.ticks) }
  obtain ⟨elapsed, ticks, saved, _, saves⟩ :=
    @setJobPayload_performs script { s with call := started } { w with ticks := w.ticks + 1 }
  have announces :=
    @publishIfStreaming_performs script { s with call :=
      { started with elapsedSeconds := elapsed }, jobMeta := saved }
      { w with ticks := ticks, saved := some saved } [] streaming
  exact ⟨_, _, _, Routine.Evaluates.modify.bind (utcnow_performs.bind (Routine.Evaluates.modify.bind
    (currentCall_performs.bind ((recordWaitTime_performs _).bind (saves.bind announces))))), streaming, rfl, rfl, rfl, rfl⟩

theorem loadCall_performs {payload : LLMCallJob} (valid : (s.jobMeta.llmCall.getD payload).validates = true) : ∃ s',
    Performs script (loadCall payload) s w (.ok ()) s' w ∧ s'.guarded = s.guarded ∧
    s'.call.callType = (s.jobMeta.llmCall.getD payload).callType := by
  have validates : Performs script (modelValidate (s.jobMeta.llmCall.getD payload)) s w
      (.ok (s.jobMeta.llmCall.getD payload)) s w := by
    rw [modelValidate, if_pos valid]
    exact .pure
  exact ⟨_, Routine.Evaluates.get.bind (validates.bind .modify), rfl, rfl⟩

end Steps

/-- One attempt on a streaming job that is not cancelled when it starts. It publishes the
    tokens up to the first chunk whose check says yes, and closes the stream once. It ends
    cancelled when that or the last check says yes, and completed when the stream and the
    checks let it. -/
theorem streaming_attempt {script : Script} {settings : Settings} {payload : LLMCallJob} {s : WorkerLocals}
    (valid : (s.jobMeta.llmCall.getD payload).validates = true)
    (streaming : (s.jobMeta.llmCall.getD payload).callType = .streamingTextGeneration)
    (unrequested : script.answer 0 = false) :
    ∃ ending, (processLlmCall settings payload).alone (performance script) () s {} = some ending ∧
      publishedTokens ending.world.events = script.tokens 1 ∧ ending.world.closed = 1 ∧
      ((script.stops 1 = true ∨
          script.stream.ending = none ∧ script.answer (1 + script.stream.chunks.length) = true) →
        ∃ call event, ending.value.1 = .ok call ∧ RecordedAs .cancelled call ending.world ∧
          ending.world.events.getLast? = some event ∧ IsCancelledEvent event) ∧
      (script.stops 1 = false → script.stream.ending = none →
        script.answer (1 + script.stream.chunks.length) = false →
        ∃ call, ending.value.1 = .ok call ∧ RecordedAs .completed call ending.world ∧
          call.result = .str (String.join (script.tokens 1))) := by
  obtain ⟨loaded, loads, unguarded, loadedStreaming⟩ := @loadCall_performs script s {} payload valid
  obtain ⟨ticks, checks⟩ := @checkCancelRequested_performs script settings loaded {}
    .startCheck
  obtain ⟨marked, begun, first, marks, markedStreaming, counted, announced⟩ :=
    @markProcessing_performs script loaded { ticks := ticks, checks := 1 } (loadedStreaming.trans streaming)
  obtain ⟨asked, streamed, calls, tells⟩ :=
    @callModel_performs script settings { marked with guarded := true } begun markedStreaming
  have started : begun.checks = 1 := counted
  obtain ⟨told, closed, used, kind, result⟩ := tells
  rw [started] at told used result calls
  rw [announced.tokens] at told
  rw [announced.closed] at closed
  have opens : ∀ {out s' w'}, _ → ∃ ending,
      (processLlmCall settings payload).alone (performance script) () s {} = some ending ∧
        ending.value.1 = out ∧ ending.world = w' := fun {out s' w'} body => by
    have attempt : Performs script (processLlmCall settings payload) s {} out s' w' := by
      refine loads.bind ((unrequested ▸ checks).bind ?_)
      exact marks.bind body
    obtain ⟨commands, runs⟩ := attempt
    exact ⟨_, runs, rfl, rfl⟩
  unfold Script.loopOutcome at calls
  cases stops : script.stops 1 with
  | true =>
      simp only [stops, if_true] at calls
      obtain ⟨last, w', call, event, cancelled, finalizes, recorded, ends⟩ :=
        @finalizeCancelledJob_performs script { asked with guarded := false } streamed cancelledDuringGeneration
      obtain ⟨ending, runs, out, world⟩ := opens (Routine.Evaluates.tryCatch_raised
        (Routine.Evaluates.modify.bind calls.bind_raised) (Routine.Evaluates.modify.bind finalizes))
      refine ⟨ending, runs, ?_⟩
      rw [world, ends.tokens, ends.closed]
      refine ⟨told, closed, fun _ => ⟨call, event, out, recorded, ends.last, cancelled⟩, fun going => ?_⟩
      cases going
  | false =>
      simp only [stops, Bool.false_eq_true, if_false] at calls
      cases broken : script.stream.ending with
      | some error =>
          simp only [broken] at calls
          obtain ⟨out, last, w', event, handles, ends⟩ :=
            @handleException_performs script settings { asked with guarded := false } streamed error
              (kind.trans markedStreaming)
          obtain ⟨ending, runs, out, world⟩ := opens (Routine.Evaluates.tryCatch_raised
            (Routine.Evaluates.modify.bind calls.bind_raised) (Routine.Evaluates.modify.bind handles))
          refine ⟨ending, runs, ?_⟩
          rw [world, ends.tokens, ends.closed]
          exact ⟨told, closed, by simp, by simp⟩
      | none =>
          simp only [broken] at calls
          obtain ⟨last, w', call, event, completes, ends, outcome⟩ :=
            @completeCall_performs script settings asked streamed (kind.trans markedStreaming)
          obtain ⟨ending, runs, out, world⟩ := opens (Routine.Evaluates.tryCatch
            (Routine.Evaluates.modify.bind (calls.bind completes)))
          refine ⟨ending, runs, ?_⟩
          rw [world, ends.tokens, ends.closed]
          rw [used stops] at outcome
          refine ⟨told, closed, fun requested => ?_, fun _ _ unrequested => ?_⟩
          · rcases requested with impossible | ⟨_, requested⟩
            · cases impossible
            · rw [if_pos requested] at outcome
              exact ⟨call, event, out, outcome.2, ends.last, outcome.1⟩
          · rw [unrequested, if_neg Bool.false_ne_true] at outcome
            refine ⟨call, out, outcome.1, outcome.2.trans (result ?_)⟩
            simp [Script.loopOutcome, stops, broken]

/-! ## A reply cancelled at its second chunk -/

def streamedCall : LLMCallJob := (demoCall .streamingTextGeneration).toCall

/-- The third check, that of the second chunk, says yes. -/
def cancelledScript : Script where
  clock tick := tick
  position _ := none
  snapshots check := ⟨streamedCall, { llmCall := some { streamedCall with cancelRequested := check = 2 } }, none⟩
  readable check := ⟨{ streamedCall with cancelRequested := check = 2 }, rfl, rfl⟩
  stream := ⟨[some "a", some "b", some "c"], none⟩

theorem streaming_attempt_demo :
    ∃ ending, (processLlmCall demoSettings streamedCall).alone (performance cancelledScript) ()
        ⟨{}, streamedCall, false⟩ {} = some ending ∧ publishedTokens ending.world.events = ["a", "b"] ∧
      ending.world.closed = 1 ∧ ∃ call, ending.value.1 = .ok call ∧ RecordedAs .cancelled call ending.world := by
  obtain ⟨ending, runs, tokens, closed, cancelled, -⟩ := @streaming_attempt cancelledScript demoSettings streamedCall
    ⟨{}, streamedCall, false⟩ rfl rfl rfl
  obtain ⟨call, _, returned, recorded, _⟩ := cancelled (.inl rfl)
  exact ⟨ending, runs, tokens, closed, call, returned, recorded⟩

end LanguageAgent.Queue
