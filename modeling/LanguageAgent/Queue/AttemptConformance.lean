import LanguageAgent.Queue.StoreSpecs

/-! # An attempt obeys its protocol

Every routine of the worker keeps its locals and the copy in its phase the same;
inside the `try` block the two may differ by the assignments an exception can
come between.
-/

namespace LanguageAgent.Queue

open Interleaving

variable {settings : Settings}

theorem attemptMoves_free : ReadsFreely (AttemptMoves settings) := fun _ _ _ neutral => .neutral neutral

def WorkerLocals.copy (locals : WorkerLocals) : Copy := ⟨locals.jobMeta, locals.call⟩

/-! ## Exceptions inside the `try` block -/

/-- An exception raised here leads to the given phase of the locals' copy. -/
def Leaves (settings : Settings) (leave : Copy → WorkerPoint) (point : WorkerPoint)
    (locals : WorkerLocals) : Prop :=
  locals.guarded = true → ∀ error,
    AttemptMoves settings point .interrupt (some error) (leave locals.copy)

/-- The exception is dealt with in the phase it leads to. -/
def Catches {α : Type} (leave : Copy → WorkerPoint)
    (post : Except QueueError α → WorkerLocals → WorkerPoint → Prop) (guarded : Bool) : Prop :=
  guarded = true → ∀ locals error, locals.guarded = true →
    post (.error (.other error)) locals (leave locals.copy)

theorem leaves_unguarded (leave : Copy → WorkerPoint) {point : WorkerPoint} {m : JobMeta}
    {c : LLMCallJob} : Leaves settings leave point ⟨m, c, false⟩ := nofun

theorem catches_unguarded {α : Type} {leave : Copy → WorkerPoint}
    {post : Except QueueError α → WorkerLocals → WorkerPoint → Prop} : Catches leave post false :=
  nofun

theorem leaves_faulted {point : WorkerPoint} {copy : Copy} {locals : WorkerLocals}
    (held : point.guardedCopy = some copy) (altered : copy.Altered locals.copy) :
    Leaves settings .faulted point locals := fun _ _ => .interrupted held altered

theorem leaves_loop {point : WorkerPoint} {locals : WorkerLocals}
    (held : point.guardedCopy = some locals.copy) (inLoop : point.inLoop) :
    Leaves settings (.closing · none) point locals :=
  fun _ _ => .interruptedLoop held .refl inLoop

section Operations

variable {leave : Copy → WorkerPoint} {point : WorkerPoint} {m : JobMeta} {c : LLMCallJob} {g : Bool}

theorem interruptible_obeys {post : Except QueueError Unit → WorkerLocals → WorkerPoint → Prop}
    (leaves : Leaves settings leave point ⟨m, c, g⟩) (caught : Catches leave post g)
    (next : post (.ok ()) ⟨m, c, g⟩ point) :
    interruptible.Obeys (AttemptMoves settings) post ⟨m, c, g⟩ point := by
  simp only [interruptible, Routine.obeys_bind, Routine.obeys_get, Routine.resume_ok,
    Routine.obeys_ite, Routine.obeys_pure]
  refine ⟨fun guarded => ?_, fun _ => next⟩
  refine issue_obeys fun reply => ?_
  cases reply with
  | none => exact ⟨point, .uninterrupted, next⟩
  | some error => exact ⟨_, leaves guarded error, caught guarded _ error guarded⟩

theorem interruptibly_obeys {α : Type} {operation : WorkerM α}
    {post : Except QueueError α → WorkerLocals → WorkerPoint → Prop}
    (leaves : Leaves settings leave point ⟨m, c, g⟩) (caught : Catches leave post g)
    (runs : operation.Obeys (AttemptMoves settings) (fun out locals after => post out locals after ∧
      ∀ a, out = .ok a → locals.guarded = g ∧ Leaves settings leave after locals) ⟨m, c, g⟩ point) :
    (interruptibly operation).Obeys (AttemptMoves settings) post ⟨m, c, g⟩ point := by
  simp only [interruptibly, Routine.obeys_bind]
  refine interruptible_obeys leaves (fun guarded locals error => caught guarded locals error) ?_
  simp only [Routine.resume_ok, Routine.obeys_bind]
  refine runs.mono fun out locals after ended => ?_
  cases out with
  | error error => exact ended.1
  | ok a =>
      obtain ⟨rfl, afterLeaves⟩ := ended.2 a rfl
      simp only [Routine.resume_ok, Routine.obeys_bind]
      refine interruptible_obeys afterLeaves (fun guarded locals error => caught guarded locals error) ?_
      simp only [Routine.resume_ok, Routine.obeys_pure]
      exact ended.1

theorem setJobPayload_obeys {post : Except QueueError Unit → WorkerLocals → WorkerPoint → Prop}
    (leaves : Leaves settings leave point ⟨m, c, g⟩) (caught : Catches leave post g)
    (saves : ∀ elapsed, ∃ after,
      AttemptMoves settings point (.saveMeta (Copy.put ⟨m, c⟩ c elapsed).jobMeta) () after ∧
        Leaves settings leave after ⟨(Copy.put ⟨m, c⟩ c elapsed).jobMeta, c.withElapsed elapsed, g⟩ ∧
          post (.ok ()) ⟨(Copy.put ⟨m, c⟩ c elapsed).jobMeta, c.withElapsed elapsed, g⟩ after) :
    setJobPayload.Obeys (AttemptMoves settings) post ⟨m, c, g⟩ point := by
  refine interruptibly_obeys leaves caught ?_
  simp only [Routine.obeys_bind, Routine.obeys_get, Routine.resume_ok]
  refine serializeLlmCall_obeys attemptMoves_free fun elapsed => ?_
  simp only [Routine.resume_ok, Routine.obeys_bind, Routine.obeys_modify]
  obtain ⟨after, move, afterLeaves, next⟩ := saves elapsed
  exact issue_obeys fun _ => ⟨after, move, next, fun _ _ => ⟨rfl, afterLeaves⟩⟩

theorem publish_obeys {extra : Dict}
    {post : Except QueueError Unit → WorkerLocals → WorkerPoint → Prop}
    (leaves : Leaves settings leave point ⟨m, c, g⟩) (caught : Catches leave post g)
    (appends : ∃ after, AttemptMoves settings point (.xadd (buildStreamEvent c extra)) () after ∧
      Leaves settings leave after ⟨m, c, g⟩ ∧ post (.ok ()) ⟨m, c, g⟩ after) :
    (publish extra).Obeys (AttemptMoves settings) post ⟨m, c, g⟩ point := by
  simp only [publish, currentCall, Routine.obeys_bind, Routine.obeys_get, Routine.resume_ok,
    Routine.obeys_pure]
  refine interruptibly_obeys leaves caught ?_
  obtain ⟨after, move, afterLeaves, next⟩ := appends
  exact issue_obeys fun _ => ⟨after, move, next, fun _ _ => ⟨rfl, afterLeaves⟩⟩

theorem publishIfStreaming_obeys {extra : Dict}
    {post : Except QueueError Unit → WorkerLocals → WorkerPoint → Prop}
    (leaves : Leaves settings leave point ⟨m, c, g⟩) (caught : Catches leave post g)
    (appends : c.callType = .streamingTextGeneration → ∃ after,
      AttemptMoves settings point (.xadd (buildStreamEvent c extra)) () after ∧
        Leaves settings leave after ⟨m, c, g⟩ ∧ post (.ok ()) ⟨m, c, g⟩ after)
    (silent : c.callType ≠ .streamingTextGeneration → post (.ok ()) ⟨m, c, g⟩ point) :
    (publishIfStreaming extra).Obeys (AttemptMoves settings) post ⟨m, c, g⟩ point := by
  simp only [publishIfStreaming, currentCall, Routine.obeys_bind, Routine.obeys_get,
    Routine.resume_ok, Routine.obeys_pure, Routine.obeys_ite]
  exact ⟨fun streaming => publish_obeys leaves caught (appends streaming), silent⟩

theorem checkCancelRequested_obeys {site : FetchSite}
    {post : Except QueueError Bool → WorkerLocals → WorkerPoint → Prop}
    (leaves : Leaves settings leave point ⟨m, c, g⟩) (caught : Catches leave post g)
    (unreadable : ∀ reply, readPayload reply = none → ∃ after,
      AttemptMoves settings point (.fetchJob site) reply after ∧
        ∀ error, post (.error (.other error)) ⟨m, c, g⟩ after)
    (readable : ∀ reply payload, readPayload reply = some payload → ∃ after,
      AttemptMoves settings point (.fetchJob site) reply after ∧
        Leaves settings leave after ⟨m, c, g⟩ ∧
          post (.ok payload.cancelRequested) ⟨m, c, g⟩ after) :
    (checkCancelRequested settings site).Obeys (AttemptMoves settings) post ⟨m, c, g⟩ point := by
  refine interruptibly_obeys leaves caught ?_
  simp only [currentCall, Routine.obeys_bind, Routine.obeys_get, Routine.resume_ok,
    Routine.obeys_pure]
  refine isCancelRequested_obeys attemptMoves_free ?_ ?_
  · intro reply none
    obtain ⟨after, move, next⟩ := unreadable reply none
    exact ⟨after, move, fun error => ⟨next error, fun _ raised => by cases raised⟩⟩
  · intro reply payload read
    obtain ⟨after, move, afterLeaves, next⟩ := readable reply payload read
    exact ⟨after, move, next, fun _ _ => ⟨rfl, afterLeaves⟩⟩

end Operations

/-! ## Cancellation and failure -/

/-- An attempt returns the record it holds, or raises. -/
def AttemptEnded (out : Outcome × JobMeta) (point : WorkerPoint) : Prop :=
  match out with
  | (.ok call, _) => ∃ copy inTry elapsed,
      point = .returning copy inTry ∧ call = copy.call.withElapsed elapsed
  | (.error _, jobMeta) => ∃ saved, point = .raised saved jobMeta

section Endings

variable {m : JobMeta} {c : LLMCallJob} {g : Bool}

private theorem returnCall_obeys {point : WorkerPoint}
    {post : Except QueueError LLMCallJob → WorkerLocals → WorkerPoint → Prop}
    (returns : ∀ elapsed, post (.ok (c.withElapsed elapsed)) ⟨m, c, g⟩ point) :
    returnCall.Obeys (AttemptMoves settings) post ⟨m, c, g⟩ point := by
  simp only [returnCall, currentCall, Routine.obeys_bind, Routine.obeys_get, Routine.resume_ok,
    Routine.obeys_pure]
  exact serializeLlmCall_obeys attemptMoves_free returns

theorem finalizeCancelledJob_obeys {message : String} {inTry : Bool} (within : g = true → inTry = true)
    {post : Except QueueError LLMCallJob → WorkerLocals → WorkerPoint → Prop}
    (caught : Catches .faulted post g)
    (returns : ∀ locals copy elapsed,
      post (.ok (copy.call.withElapsed elapsed)) locals (.returning copy inTry)) :
    (finalizeCancelledJob message).Obeys (AttemptMoves settings) post ⟨m, c, g⟩
      (.stopping ⟨m, c⟩ message inTry) := by
  have leaves : ∀ locals : WorkerLocals, locals.guarded = g → Copy.Altered ⟨m, c⟩ locals.copy →
      Leaves settings .faulted (.stopping ⟨m, c⟩ message inTry) locals := by
    intro locals same altered guarded error
    obtain rfl := within (same.symm.trans guarded)
    exact .interrupted rfl altered
  simp only [finalizeCancelledJob, Routine.obeys_bind, modifyCall, Routine.obeys_modify,
    Routine.resume_ok]
  refine interruptible_obeys (leaves _ rfl ⟨_, _, _, _, _, _, _, rfl⟩)
    (fun guarded locals error => caught guarded locals error) ?_
  simp only [Routine.resume_ok, Routine.obeys_bind]
  refine utcnow_obeys attemptMoves_free fun now => ?_
  simp only [Routine.resume_ok, Routine.obeys_bind, Routine.obeys_modify]
  refine interruptible_obeys (leaves _ rfl ⟨_, _, _, _, _, _, _, rfl⟩)
    (fun guarded locals error => caught guarded locals error) ?_
  simp only [Routine.resume_ok, Routine.obeys_bind, Routine.obeys_modify]
  refine setJobPayload_obeys (leaves _ rfl ⟨_, _, _, _, _, _, _, rfl⟩)
    (fun guarded locals error => caught guarded locals error)
    fun elapsed => ⟨_, .saveCancelled now, ?_, ?_⟩
  · intro guarded error
    obtain rfl := within guarded
    exact .interrupted rfl .refl
  · simp only [Routine.resume_ok, Routine.obeys_bind]
    refine publish_obeys ?_ (fun guarded locals error => caught guarded locals error)
      ⟨_, .announceCancelled, ?_, ?_⟩
    · intro guarded error
      obtain rfl := within guarded
      exact .interrupted rfl .refl
    · intro guarded error
      obtain rfl := within guarded
      exact .interrupted rfl .refl
    · simp only [Routine.resume_ok]
      exact returnCall_obeys fun again => returns _ (Copy.put ⟨m, c⟩ _ elapsed) again

private theorem saveFailure_obeys {point : WorkerPoint}
    {post : Except QueueError Unit → WorkerLocals → WorkerPoint → Prop}
    (saves : ∀ elapsed, ∃ after,
      AttemptMoves settings point (.saveMeta (Copy.putFailure ⟨m, c⟩ c elapsed).jobMeta) () after ∧
        post (.ok ()) ⟨(Copy.putFailure ⟨m, c⟩ c elapsed).jobMeta, c.withElapsed elapsed, false⟩
          after) :
    saveFailure.Obeys (AttemptMoves settings) post ⟨m, c, false⟩ point := by
  simp only [saveFailure, Routine.obeys_bind, Routine.obeys_modify, Routine.resume_ok]
  refine setJobPayload_obeys (leaves_unguarded .faulted) catches_unguarded fun elapsed => ?_
  obtain ⟨after, move, next⟩ := saves elapsed
  exact ⟨after, move, leaves_unguarded _, next⟩

private theorem handleNonRetryable_obeys {message : String}
    {post : Except QueueError LLMCallJob → WorkerLocals → WorkerPoint → Prop}
    (returns : ∀ locals copy elapsed,
      post (.ok (copy.call.withElapsed elapsed)) locals (.returning copy false)) :
    (handleNonRetryable message).Obeys (AttemptMoves settings) post ⟨m, c, false⟩
      (.refused ⟨m, c⟩ message) := by
  simp only [handleNonRetryable, Routine.obeys_bind, modifyCall, Routine.obeys_modify,
    Routine.resume_ok]
  refine utcnow_obeys attemptMoves_free fun now => ?_
  simp only [Routine.resume_ok, Routine.obeys_bind, Routine.obeys_modify]
  refine saveFailure_obeys fun elapsed => ⟨_, .saveRefused now, ?_⟩
  simp only [Routine.resume_ok, Routine.obeys_bind]
  refine publishIfStreaming_obeys (leaves_unguarded .faulted) catches_unguarded ?_ ?_
  · intro streaming
    rw [WorkerPoint.whenStreaming_streaming (show (Copy.mk m c).call.callType = _ from streaming)]
    refine ⟨_, .announceRefused, leaves_unguarded _, ?_⟩
    simp only [Routine.resume_ok]
    exact returnCall_obeys fun again => returns _ (Copy.putFailure ⟨m, c⟩ _ elapsed) again
  · intro silent
    rw [WorkerPoint.whenStreaming_silent (show (Copy.mk m c).call.callType ≠ _ from silent)]
    simp only [Routine.resume_ok]
    exact returnCall_obeys fun again => returns _ (Copy.putFailure ⟨m, c⟩ _ elapsed) again

private theorem handleException_obeys {error : PyError}
    {post : Except QueueError LLMCallJob → WorkerLocals → WorkerPoint → Prop}
    (raises : ∀ locals saved, post (.error (.other error)) locals (.raised saved locals.jobMeta)) :
    (handleException settings error).Obeys (AttemptMoves settings) post ⟨m, c, false⟩
      (.faulted ⟨m, c⟩) := by
  simp only [handleException, currentCall, Routine.obeys_bind, modifyCall, Routine.obeys_modify,
    Routine.obeys_get, Routine.resume_ok, Routine.obeys_pure, Routine.obeys_ite]
  constructor
  · intro within
    refine saveFailure_obeys fun elapsed => ⟨_, .saveRetry (safeErrorMessage error) within, ?_⟩
    simp only [Routine.resume_ok, Routine.obeys_bind]
    refine publishIfStreaming_obeys (leaves_unguarded .faulted) catches_unguarded ?_ ?_
    · intro streaming
      rw [WorkerPoint.whenStreaming_streaming (show (Copy.mk m c).call.callType = _ from streaming)]
      exact ⟨_, .announceRetry, leaves_unguarded _, raises _ _⟩
    · intro silent
      rw [WorkerPoint.whenStreaming_silent (show (Copy.mk m c).call.callType ≠ _ from silent)]
      exact raises _ _
  · intro spent
    refine utcnow_obeys attemptMoves_free fun now => ?_
    simp only [Routine.resume_ok, Routine.obeys_bind, Routine.obeys_modify]
    refine saveFailure_obeys fun elapsed =>
      ⟨_, .saveFailed (safeErrorMessage error) now spent, ?_⟩
    simp only [Routine.resume_ok, Routine.obeys_bind]
    refine publishIfStreaming_obeys (leaves_unguarded .faulted) catches_unguarded ?_ ?_
    · intro streaming
      rw [WorkerPoint.whenStreaming_streaming (show (Copy.mk m c).call.callType = _ from streaming)]
      exact ⟨_, .announceFailed, leaves_unguarded _, raises _ _⟩
    · intro silent
      rw [WorkerPoint.whenStreaming_silent (show (Copy.mk m c).call.callType ≠ _ from silent)]
      exact raises _ _

end Endings

/-- The phase in which each of the three handlers takes over. -/
def HandledAt (copy : Copy) (point : WorkerPoint) : QueueError → Prop
  | .cancelled message => point = .stopping copy message true
  | .nonRetryable message => point = .refused copy message
  | .other _ => point = .faulted copy

private theorem handleFailure_obeys {error : QueueError} {locals : WorkerLocals} {point : WorkerPoint}
    (handled : HandledAt locals.copy point error) :
    (handleFailure settings error).Obeys (AttemptMoves settings)
      (fun out locals point => AttemptEnded (out, locals.jobMeta) point) locals point := by
  simp only [handleFailure, setGuarded, Routine.obeys_bind, Routine.obeys_modify, Routine.resume_ok]
  cases error with
  | cancelled message =>
      obtain rfl := handled
      exact finalizeCancelledJob_obeys (g := false) (fun raised => by cases raised) catches_unguarded
        fun _ copy elapsed => ⟨copy, true, elapsed, rfl, rfl⟩
  | nonRetryable message =>
      obtain rfl := handled
      exact handleNonRetryable_obeys fun _ copy elapsed => ⟨copy, false, elapsed, rfl, rfl⟩
  | other error =>
      obtain rfl := handled
      exact handleException_obeys fun _ saved => ⟨saved, rfl⟩

/-! ## The model call -/

/-- What the `try` block owes its handlers, and what follows a value. -/
def Tried {α : Type} (next : α → WorkerLocals → WorkerPoint → Prop) (out : Except QueueError α)
    (locals : WorkerLocals) (point : WorkerPoint) : Prop :=
  match out with
  | .ok a => next a locals point
  | .error error => HandledAt locals.copy point error

theorem catches_tried {α : Type} {next : α → WorkerLocals → WorkerPoint → Prop} :
    Catches .faulted (Tried next) true := fun _ _ _ _ => rfl

/-- The model has answered, and the locals hold the result. -/
def Answered (_ : Unit) (locals : WorkerLocals) (point : WorkerPoint) : Prop :=
  locals.guarded = true ∧ point = .answered locals.copy

/-- How the chunk loop ends, before the stream is closed. -/
def LoopEnded (out : Except QueueError (List String)) (locals : WorkerLocals)
    (point : WorkerPoint) : Prop :=
  locals.guarded = true ∧
  match out with
  | .ok parts => point = .reading locals.copy parts [] none
  | .error (QueueError.cancelled message) => point = .closing locals.copy (some message)
  | .error (.nonRetryable _) => False
  | .error (.other _) =>
      point = .closing locals.copy none ∨ ∃ parts error, point = .reading locals.copy parts [] (some error)

section ModelCall

variable {m : JobMeta} {c : LLMCallJob}

private theorem checkChunk_obeys {parts : List String} {pending : List (Option String)}
    {ending : Option PyError}
    {post : Except QueueError (List String) → WorkerLocals → WorkerPoint → Prop}
    (raised : ∀ error locals point, LoopEnded (.error error) locals point →
      post (.error error) locals point)
    (clear : post (.ok parts) ⟨m, c, true⟩ (.reading ⟨m, c⟩ parts pending ending)) :
    (checkChunk settings parts).Obeys (AttemptMoves settings) post ⟨m, c, true⟩
      (.checking ⟨m, c⟩ parts pending ending) := by
  simp only [checkChunk, Routine.obeys_bind]
  refine checkCancelRequested_obeys (leaves_loop rfl rfl) ?_ ?_ ?_
  · exact fun _ locals error guarded => raised _ _ _ ⟨guarded, .inl rfl⟩
  · exact fun reply unreadable =>
      ⟨_, .checkUnreadable unreadable, fun error => raised _ _ _ ⟨rfl, .inl rfl⟩⟩
  · intro reply payload readable
    by_cases requested : payload.cancelRequested
    · refine ⟨_, .checkCancelled readable requested,
        fun _ error => .interruptedLoop rfl ⟨_, _, _, _, _, _, _, rfl⟩ rfl, ?_⟩
      simp only [Routine.resume_ok, requested, if_true, modifyCall, Routine.obeys_bind,
        Routine.obeys_modify, Routine.obeys_throw]
      exact raised _ _ _ ⟨rfl, rfl⟩
    · refine ⟨_, .checkClear readable (Bool.eq_false_iff.mpr requested), leaves_loop rfl rfl, ?_⟩
      simp only [Routine.resume_ok, requested]
      exact clear

private theorem handleChunks_obeys {ending : Option PyError} {parts : List String}
    {chunks : List (Option String)} :
    (handleChunks settings ending parts chunks).Obeys (AttemptMoves settings) LoopEnded ⟨m, c, true⟩
      (.reading ⟨m, c⟩ parts chunks ending) := by
  induction chunks generalizing parts with
  | nil =>
      cases ending with
      | none => exact ⟨rfl, rfl⟩
      | some error => exact ⟨rfl, .inr ⟨parts, error, rfl⟩⟩
  | cons content pending ih =>
      simp only [handleChunks, handleChunk, Routine.obeys_bind]
      refine issue_obeys fun _ => ?_
      cases visible : visibleToken content with
      | none =>
          refine ⟨_, .nextBlank visible, ?_⟩
          simp only [Routine.resume_ok]
          exact checkChunk_obeys (fun _ _ _ => id) ih
      | some token =>
          refine ⟨_, .nextToken visible, ?_⟩
          simp only [Routine.resume_ok, Routine.obeys_bind]
          refine publish_obeys (leaves_loop rfl rfl)
            (fun _ locals error guarded => ⟨guarded, .inl rfl⟩)
            ⟨_, .publish, leaves_loop rfl rfl, ?_⟩
          simp only [Routine.resume_ok]
          exact checkChunk_obeys (fun _ _ _ => id) ih

private theorem closeStreamIterator_obeys {out : Except QueueError (List String)}
    {locals : WorkerLocals} {point : WorkerPoint} (ended : LoopEnded out locals point) :
    Routine.closing closeStreamIterator (AttemptMoves settings)
      (Routine.resume (fun parts => setResult (.str (String.join parts))) (AttemptMoves settings)
        (Tried Answered)) out locals point := by
  obtain ⟨m, c, guarded⟩ := locals
  obtain ⟨rfl, ended⟩ := ended
  match out, ended with
  | .ok parts, ended =>
      subst ended
      refine interruptibly_obeys (leaves_faulted rfl .refl) (fun _ _ _ _ => rfl) ?_
      refine issue_obeys fun _ => ⟨_, .closeAnswered, ?_, ?_⟩
      · exact ⟨rfl, rfl⟩
      · exact fun _ _ => ⟨rfl, leaves_faulted rfl ⟨_, _, _, _, _, _, _, rfl⟩⟩
  | .error (.cancelled message), ended =>
      subst ended
      refine interruptibly_obeys (leaves_faulted rfl .refl) (fun _ _ _ _ => rfl) ?_
      refine issue_obeys fun _ => ⟨_, .closeCancelled, ?_, ?_⟩
      · exact rfl
      · exact fun _ _ => ⟨rfl, leaves_faulted rfl .refl⟩
  | .error (.other error), .inl ended =>
      subst ended
      refine interruptibly_obeys (leaves_faulted rfl .refl) (fun _ _ _ _ => rfl) ?_
      refine issue_obeys fun _ => ⟨_, .closeFaulted, ?_, ?_⟩
      · exact rfl
      · exact fun _ _ => ⟨rfl, leaves_faulted rfl .refl⟩
  | .error (.other error), .inr ⟨parts, ending, ended⟩ =>
      subst ended
      refine interruptibly_obeys (leaves_faulted rfl .refl) (fun _ _ _ _ => rfl) ?_
      refine issue_obeys fun _ => ⟨_, .closeBroken, ?_, ?_⟩
      · exact rfl
      · exact fun _ _ => ⟨rfl, leaves_faulted rfl .refl⟩

private theorem streamTokens_obeys (streaming : c.callType = .streamingTextGeneration) :
    (streamTokens settings c).Obeys (AttemptMoves settings) (Tried Answered) ⟨m, c, true⟩
      (.serving ⟨m, c⟩) := by
  simp only [streamTokens, modifyCall, Routine.obeys_bind, Routine.obeys_modify, Routine.resume_ok]
  refine setJobPayload_obeys (leaves_faulted rfl ⟨_, _, _, _, _, _, _, rfl⟩) (fun _ _ _ _ => rfl)
    fun elapsed => ⟨_, .saveStreaming streaming, leaves_faulted rfl .refl, ?_⟩
  simp only [Routine.resume_ok, Routine.obeys_bind]
  refine publish_obeys (leaves_faulted rfl .refl) (fun _ _ _ _ => rfl)
    ⟨_, .announceStreaming, leaves_faulted rfl .refl, ?_⟩
  simp only [Routine.resume_ok, Routine.obeys_bind]
  refine issue_obeys fun stream => ⟨_, .openStream, ?_⟩
  simp only [Routine.resume_ok, Routine.obeys_bind, Routine.obeys_ensuring]
  exact handleChunks_obeys.mono fun out locals point ended => closeStreamIterator_obeys ended

private theorem callModel_obeys :
    (callModel settings).Obeys (AttemptMoves settings) (Tried Answered) ⟨m, c, true⟩
      (.ready ⟨m, c⟩) := by
  simp only [callModel, loadService, currentCall, Routine.obeys_bind]
  refine issue_obeys fun failure => ?_
  cases failure with
  | some error => exact ⟨_, .loadFailed, rfl⟩
  | none =>
      refine ⟨_, .load, ?_⟩
      simp only [Routine.resume_ok, Routine.obeys_pure, Routine.obeys_bind, Routine.obeys_get]
      cases type : c.callType with
      | structuredJson =>
          simp only [askModel, Routine.obeys_bind]
          refine issue_obeys fun reply => ?_
          cases reply with
          | ok value => exact ⟨_, .ask type, rfl, rfl⟩
          | error error =>
              by_cases refuses : error.valueTypeOrKey
              · refine ⟨_, .askRefused type refuses, ?_⟩
                simp only [Routine.resume_ok, refuses, if_true]
                exact rfl
              · refine ⟨_, .askFailed type (Bool.eq_false_iff.mpr refuses), ?_⟩
                simp only [Routine.resume_ok, refuses]
                exact rfl
      | textGeneration =>
          simp only [generateText, Routine.obeys_bind]
          refine issue_obeys fun reply => ?_
          cases reply with
          | ok text => exact ⟨_, .generate type, rfl, rfl⟩
          | error error => exact ⟨_, .generateFailed type, rfl⟩
      | streamingTextGeneration => exact streamTokens_obeys type

private theorem recordCompletionMetrics_obeys {call : LLMCallJob} {locals : WorkerLocals}
    {point : WorkerPoint} {post : Except QueueError Unit → WorkerLocals → WorkerPoint → Prop}
    (next : post (.ok ()) locals point) :
    (recordCompletionMetrics call).Obeys (AttemptMoves settings) post locals point := by
  unfold recordCompletionMetrics
  have counted : Routine.Obeys (AttemptMoves settings) (incrMetric .completedJobs 1) post locals
      point := incrMetric_obeys attemptMoves_free next
  cases call.startedAt with
  | none => exact counted
  | some started =>
      cases call.completedAt with
      | none => exact counted
      | some completed =>
          simp only [Routine.obeys_bind]
          refine incrMetric_obeys attemptMoves_free ?_
          exact counted

/-- The rest of the `try` block after the completed record has been saved. -/
private theorem announceCompletion_obeys {point : WorkerPoint}
    (due : point = WorkerPoint.whenStreaming ⟨m, c⟩ (.doneDue ⟨m, c⟩) (.returning ⟨m, c⟩ true)) :
    (do
      interruptibly (do
        let call ← currentCall
        recordCompletionMetrics call)
      publishIfStreaming [("done", .bool true)]
      returnCall).Obeys (AttemptMoves settings)
        (Tried fun call locals point => AttemptEnded (.ok call, locals.jobMeta) point) ⟨m, c, true⟩ point := by
  have held : point.guardedCopy = some ⟨m, c⟩ := by
    subst due
    unfold WorkerPoint.whenStreaming
    split <;> rfl
  simp only [currentCall, Routine.obeys_bind]
  refine interruptibly_obeys (leaves_faulted held .refl) (fun _ _ _ _ => rfl) ?_
  simp only [Routine.obeys_bind, Routine.obeys_get, Routine.resume_ok, Routine.obeys_pure]
  refine recordCompletionMetrics_obeys ⟨?_, fun _ _ => ⟨rfl, leaves_faulted held .refl⟩⟩
  simp only [Routine.resume_ok, Routine.obeys_bind]
  refine publishIfStreaming_obeys (leaves_faulted held .refl) (fun _ _ _ _ => rfl) ?_ ?_
  · intro streaming
    rw [due, WorkerPoint.whenStreaming_streaming streaming]
    refine ⟨_, .announceDone, leaves_faulted rfl .refl, ?_⟩
    exact returnCall_obeys fun elapsed => ⟨⟨m, c⟩, true, elapsed, rfl, rfl⟩
  · intro silent
    rw [due, WorkerPoint.whenStreaming_silent silent]
    exact returnCall_obeys fun elapsed => ⟨⟨m, c⟩, true, elapsed, rfl, rfl⟩

private theorem completeCall_obeys :
    (completeCall settings).Obeys (AttemptMoves settings)
      (Tried fun call locals point => AttemptEnded (.ok call, locals.jobMeta) point) ⟨m, c, true⟩ (.answered ⟨m, c⟩) := by
  simp only [completeCall, Routine.obeys_bind]
  refine checkCancelRequested_obeys (leaves_faulted rfl .refl) (fun _ _ _ _ => rfl) ?_ ?_
  · exact fun reply unreadable => ⟨_, .finalUnreadable unreadable, fun _ => rfl⟩
  · intro reply payload readable
    by_cases requested : payload.cancelRequested
    · refine ⟨_, .finalCancelled readable requested,
        leaves_faulted rfl ⟨_, _, _, _, _, _, _, rfl⟩, ?_⟩
      simp only [Routine.resume_ok, requested, if_true, modifyCall, Routine.obeys_bind,
        Routine.obeys_modify]
      exact finalizeCancelledJob_obeys (fun _ => rfl) catches_tried
        fun _ copy elapsed => ⟨copy, true, elapsed, rfl, rfl⟩
    · refine ⟨_, .finalClear readable (Bool.eq_false_iff.mpr requested),
        leaves_faulted rfl .refl, ?_⟩
      simp only [Routine.resume_ok, requested, Bool.false_eq_true, if_false, modifyCall,
        Routine.obeys_bind, Routine.obeys_modify]
      refine interruptible_obeys (leaves_faulted rfl ⟨_, _, _, _, _, _, _, rfl⟩)
        (fun _ _ _ _ => rfl) ?_
      simp only [Routine.resume_ok, Routine.obeys_bind]
      refine utcnow_obeys attemptMoves_free fun now => ?_
      simp only [Routine.resume_ok, Routine.obeys_bind, Routine.obeys_modify]
      refine interruptible_obeys (leaves_faulted rfl ⟨_, _, _, _, _, _, _, rfl⟩)
        (fun _ _ _ _ => rfl) ?_
      simp only [Routine.resume_ok, Routine.obeys_bind, Routine.obeys_modify]
      refine setJobPayload_obeys (leaves_faulted rfl ⟨_, _, _, _, _, _, _, rfl⟩)
        (fun _ _ _ _ => rfl) fun elapsed => ⟨_, .saveCompleted now, ?_, ?_⟩
      · intro _ error
        unfold WorkerPoint.whenStreaming
        split
        · exact .interrupted rfl .refl
        · exact .interrupted rfl .refl
      · simp only [Routine.resume_ok]
        exact announceCompletion_obeys rfl

end ModelCall

/-! ## The whole attempt -/

private theorem tryBlock_obeys {m : JobMeta} {c : LLMCallJob} :
    (tryCatch
      (do setGuarded true
          callModel settings
          completeCall settings)
      (handleFailure settings)).Obeys (AttemptMoves settings)
        (fun out locals point => AttemptEnded (out, locals.jobMeta) point) ⟨m, c, false⟩
        (.ready ⟨m, c⟩) := by
  have handled : ∀ (out : Outcome) locals point,
      Tried (fun call locals point => AttemptEnded (.ok call, locals.jobMeta) point) out locals point →
        Routine.rescue (handleFailure settings) (AttemptMoves settings)
          (fun out locals point => AttemptEnded (out, locals.jobMeta) point) out locals point := by
    intro out locals point tried
    cases out with
    | ok call => exact tried
    | error error => exact handleFailure_obeys tried
  simp only [Routine.obeys_tryCatch]
  refine Routine.Obeys.mono ?_ handled
  simp only [setGuarded, Routine.obeys_bind, Routine.obeys_modify, Routine.resume_ok]
  refine callModel_obeys.mono fun out locals point tried => ?_
  cases out with
  | error error => exact tried
  | ok _ =>
      obtain ⟨m, c, guarded⟩ := locals
      obtain ⟨rfl, rfl⟩ := tried
      exact completeCall_obeys

private theorem markProcessing_obeys {m : JobMeta} {c : LLMCallJob}
    {post : Except QueueError Unit → WorkerLocals → WorkerPoint → Prop}
    (next : ∀ m c, post (.ok ()) ⟨m, c, false⟩ (.ready ⟨m, c⟩)) :
    markProcessing.Obeys (AttemptMoves settings) post ⟨m, c, false⟩ (.starting ⟨m, c⟩) := by
  simp only [markProcessing, modifyCall, currentCall, Routine.obeys_bind, Routine.obeys_modify,
    Routine.resume_ok]
  refine utcnow_obeys attemptMoves_free fun now => ?_
  simp only [Routine.resume_ok, Routine.obeys_bind, Routine.obeys_modify, Routine.obeys_get,
    Routine.obeys_pure, recordWaitTime]
  refine incrMetric_obeys attemptMoves_free ?_
  simp only [Routine.resume_ok]
  refine incrMetric_obeys attemptMoves_free ?_
  simp only [Routine.resume_ok, Routine.obeys_bind]
  refine setJobPayload_obeys (leaves_unguarded .faulted) catches_unguarded
    fun elapsed => ⟨_, .saveProcessing now, leaves_unguarded _, ?_⟩
  simp only [Routine.resume_ok]
  refine publishIfStreaming_obeys (leaves_unguarded .faulted) catches_unguarded ?_ ?_
  · intro streaming
    rw [WorkerPoint.whenStreaming_streaming (show (Copy.mk m c).call.callType = _ from streaming)]
    exact ⟨_, .announceProcessing, leaves_unguarded _, next _ _⟩
  · intro silent
    rw [WorkerPoint.whenStreaming_silent (show (Copy.mk m c).call.callType ≠ _ from silent)]
    exact next _ _

private theorem processLlmCall_obeys {m : JobMeta} {payload : LLMCallJob}
    (valid : (m.llmCall.getD payload).validates) :
    (processLlmCall settings payload).Obeys (AttemptMoves settings)
      (fun out locals point => AttemptEnded (out, locals.jobMeta) point) ⟨m, payload, false⟩
      (.started ⟨m, loaded m payload⟩) := by
  simp only [processLlmCall, loadCall, modelValidate, modifyCall, Routine.obeys_bind,
    Routine.obeys_get, Routine.resume_ok, valid, if_true, Routine.obeys_pure, Routine.obeys_modify]
  refine checkCancelRequested_obeys (leaves_unguarded .faulted) catches_unguarded ?_ ?_
  · exact fun reply unreadable => ⟨_, .startUnreadable unreadable, fun _ => ⟨none, rfl⟩⟩
  · intro reply call readable
    by_cases requested : call.cancelRequested
    · refine ⟨_, .startCancelled readable requested, leaves_unguarded _, ?_⟩
      simp only [Routine.resume_ok, requested, if_true, Routine.obeys_bind, Routine.obeys_modify]
      exact finalizeCancelledJob_obeys (g := false) (fun raised => by cases raised) catches_unguarded
        fun _ copy elapsed => ⟨copy, false, elapsed, rfl, rfl⟩
    · refine ⟨_, .startClear readable (Bool.eq_false_iff.mpr requested), leaves_unguarded _, ?_⟩
      simp only [Routine.resume_ok, requested, Bool.false_eq_true, if_false, Routine.obeys_bind]
      exact markProcessing_obeys fun m c => tryBlock_obeys

private theorem processLlmCall_invalid {m : JobMeta} {payload : LLMCallJob}
    (invalid : (m.llmCall.getD payload).validates = false) :
    (processLlmCall settings payload).Obeys (AttemptMoves settings)
      (fun out locals point => AttemptEnded (out, locals.jobMeta) point) ⟨m, payload, false⟩ (.raised none m) := by
  simp only [processLlmCall, loadCall, modelValidate, Routine.obeys_bind, Routine.obeys_get,
    Routine.resume_ok, invalid, Bool.false_eq_true, if_false, Routine.obeys_throw,
    Routine.resume_error]
  exact ⟨none, rfl⟩

theorem runAttempt_obeys :
    (runAttempt settings).Obeys (AttemptMoves settings) AttemptEnded .idle := by
  refine fun _ => ⟨_, .pop, fun reply => ?_⟩
  cases reply with
  | none => exact ⟨_, .missing, none, rfl⟩
  | some job =>
      refine ⟨_, .fetch, fun _ => ?_⟩
      by_cases valid : (job.jobMeta.llmCall.getD job.args).validates
      · exact ⟨_, .start valid, Program.obeys_bind.mpr (processLlmCall_obeys valid)⟩
      · have invalid := Bool.eq_false_iff.mpr valid
        exact ⟨_, .startInvalid invalid, Program.obeys_bind.mpr (processLlmCall_invalid invalid)⟩

/-! ## Every attempt -/

/-- The worker is through with the job once RQ has recorded a return or given up. -/
def WorkerEnded (_ : Outcome) (phase : WorkerPhase) : Prop := phase.point = .ended

private theorem attempt_within {left : Nat} {p : Program signature (Outcome × JobMeta)}
    {point : WorkerPoint}
    (obeys : p.Obeys (AttemptMoves settings) AttemptEnded point) :
    p.Obeys (WorkerMoves settings)
      (fun out phase => ∃ point, phase = ⟨left, point⟩ ∧ AttemptEnded out point) ⟨left, point⟩ := by
  induction p generalizing point with
  | done out => exact ⟨point, rfl, obeys⟩
  | issue command next ih =>
      intro reply
      obtain ⟨after, move, rest⟩ := obeys reply
      exact ⟨_, .attempt move, ih reply rest⟩

private theorem settle_obeys {left : Nat} {raised : QueueError → JobMeta → Program signature Outcome}
    (raises : ∀ error saved jobMeta,
      (raised error jobMeta).Obeys (WorkerMoves settings) WorkerEnded ⟨left, .raised saved jobMeta⟩) :
    ((runAttempt settings).bind (settle raised)).Obeys (WorkerMoves settings) WorkerEnded
      ⟨left, .idle⟩ := by
  refine Program.obeys_bind.mpr ((attempt_within runAttempt_obeys).mono ?_)
  rintro ⟨out, jobMeta⟩ _ ⟨point, rfl, ended⟩
  cases out with
  | ok call =>
      obtain ⟨copy, inTry, elapsed, rfl, rfl⟩ := ended
      exact fun _ => ⟨_, .attempt .finish, rfl⟩
  | error error =>
      obtain ⟨saved, rfl⟩ := ended
      exact raises error saved jobMeta

theorem runJob_obeys (left : Nat) :
    (runJob settings left).Obeys (WorkerMoves settings) WorkerEnded ⟨left, .idle⟩ := by
  induction left with
  | zero => exact settle_obeys fun error saved jobMeta _ => ⟨_, .giveUp, rfl⟩
  | succ left ih => exact settle_obeys fun error saved jobMeta _ => ⟨_, .requeue, ih⟩

end LanguageAgent.Queue
