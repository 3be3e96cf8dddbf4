import LanguageAgent.Agent.AbandonedStreams

/-! # Streams read to their end

The generator that may be abandoned and the one that runs among other requests are both
`_stream_handler_response`. Under a consumer that stays they yield the same events, cancel
the same jobs, remember the same turns and end alike.
-/

namespace LanguageAgent.Agent.Abandoned

open Gateway Interleaving Queue

/-! ## Runs side by side -/

/-- The consumer stays, the mode is the service's, and the queue is the same. -/
structure Faces {Party : Type} (party : Party) (w : Surroundings) (world : AgentWorld Party) : Prop where
  stays : w.closesAt = none
  modes : ∀ look, w.modes look = world.service.sessionState.activeMode
  cancelJob : w.cancelJob = world.backend.cancelJob party

/-- Both return values that belong together, or raise the same. -/
def EndAlike {α β : Type} (together : α → β → Prop) : Except Thrown α → Except Raised β → Prop
  | .ok a, .ok b => together a b
  | .error thrown, .error error => thrown = .raised error
  | _, _ => False

/-- The memory after these turns. -/
def remembered (memory : ConversationMemory) (added : List (String × String)) : ConversationMemory :=
  added.foldl (fun memory turn => memory.addTurn turn.1 turn.2) memory

def yieldedEvents (commands : List StreamCommand) : List Dict := commands.filterMap StreamCommand.yielded?

/-- The job a request cancels. -/
def cancelledJob? : AgentCommand → Option String
  | .suspend (.cancelJob jobId) => some jobId
  | _ => none

section Runs

variable {Party α β γ δ : Type} {party : Party} {together : α → β → Prop} {joint : γ → δ → Prop}
  {s : StreamLocals} {w : Surroundings} {world world' : AgentWorld Party}

structure SameRun (party : Party) (together : α → β → Prop) (world : AgentWorld Party)
    (run : Ending streamSignature Surroundings (Except Thrown α × StreamLocals))
    (other : Ending agentSignature (AgentWorld Party) (Except Raised β × StreamLocals)) : Prop where
  events : yieldedEvents run.commands = sentEvents other.commands
  jobs : cancelCalls run.commands = other.commands.filterMap cancelledJob?
  memory : other.world.service.memory = remembered world.service.memory (turns run.commands)
  out : EndAlike together run.value.1 other.value.1
  locals : run.value.2 = other.value.2
  faces : Faces party run.world other.world

/-- From here both come to an end, and have done the same. -/
def RunAlike (party : Party) (together : α → β → Prop) (s : StreamLocals) (w : Surroundings) (world : AgentWorld Party)
    (p : GeneratorM α) (q : AgentM β) : Prop :=
  ∃ run other, p.alone generatorMachine () s w = some run ∧ q.alone (agentMachine Party) party s world = some other ∧
    SameRun party together world run other

/-- What comes after the same beginning. -/
theorem SameRun.after {begun : Ending streamSignature Surroundings (Except Thrown α × StreamLocals)}
    {other : Ending agentSignature (AgentWorld Party) (Except Raised β × StreamLocals)}
    {run : Ending streamSignature Surroundings (Except Thrown γ × StreamLocals)}
    {rest : Ending agentSignature (AgentWorld Party) (Except Raised δ × StreamLocals)}
    (first : SameRun party together world begun other) (later : SameRun party joint other.world run rest) :
    SameRun party joint world (run.after begun.commands) (rest.after other.commands) where
  events := by
    rw [yieldedEvents, Ending.after, Ending.after, List.filterMap_append, sentEvents_append, ← first.events, ← later.events]
    rfl
  jobs := by rw [Ending.after, Ending.after, cancelCalls_append, List.filterMap_append, first.jobs, later.jobs]
  memory := by
    change rest.world.service.memory = _
    rw [later.memory, first.memory, Ending.after, turns_append, remembered, remembered, remembered, List.foldl_append]
  out := later.out
  locals := later.locals
  faces := later.faces

theorem RunAlike.bind {p : GeneratorM α} {q : AgentM β} {f : α → GeneratorM γ} {g : β → AgentM δ}
    (first : RunAlike party together s w world p q)
    (next : ∀ a b s' w' world', together a b → Faces party w' world' → RunAlike party joint s' w' world' (f a) (g b)) :
    RunAlike party joint s w world (p >>= f) (q >>= g) := by
  obtain ⟨⟨commands, w', out, locals⟩, ⟨others, world', result, _⟩, runs, answers, same⟩ := first
  obtain rfl := same.locals
  cases out with
  | ok a =>
      cases result with
      | error error => exact same.out.elim
      | ok b =>
          obtain ⟨run, rest, goesOn, answersOn, later⟩ := next a b locals w' world' same.out same.faces
          refine ⟨run.after commands, rest.after others, ?_, ?_, same.after later⟩
          · rw [Routine.alone_bind_ok runs, goesOn]
            rfl
          · rw [Routine.alone_bind_ok answers, answersOn]
            rfl
  | error thrown =>
      cases result with
      | ok b => exact same.out.elim
      | error error =>
          obtain rfl : thrown = .raised error := same.out
          exact ⟨_, _, Routine.alone_bind_error runs, Routine.alone_bind_error answers,
            same.events, same.jobs, same.memory, rfl, rfl, same.faces⟩

theorem RunAlike.tryCatch {p : GeneratorM α} {q : AgentM β} {handle : Thrown → GeneratorM α} {handle' : Raised → AgentM β}
    (body : RunAlike party together s w world p q)
    (handled : ∀ error s' w' world', Faces party w' world' →
      RunAlike party together s' w' world' (handle (.raised error)) (handle' error)) :
    RunAlike party together s w world (MonadExcept.tryCatch p handle) (MonadExcept.tryCatch q handle') := by
  obtain ⟨⟨commands, w', out, locals⟩, ⟨others, world', result, _⟩, runs, answers, same⟩ := body
  obtain rfl := same.locals
  cases out with
  | ok a =>
      cases result with
      | error error => exact same.out.elim
      | ok b => exact ⟨_, _, Routine.alone_tryCatch_ok runs, Routine.alone_tryCatch_ok answers, same⟩
  | error thrown =>
      cases result with
      | ok b => exact same.out.elim
      | error error =>
          obtain rfl : thrown = .raised error := same.out
          obtain ⟨run, rest, goesOn, answersOn, later⟩ := handled error locals w' world' same.faces
          refine ⟨run.after commands, rest.after others, ?_, ?_, same.after later⟩
          · rw [Routine.alone_tryCatch_error runs, goesOn]
            rfl
          · rw [Routine.alone_tryCatch_error answers, answersOn]
            rfl

end Runs

/-! ## The statements -/

section Statements

variable {Party α β : Type} {party : Party} {together : α → β → Prop} {s : StreamLocals} {w : Surroundings}
  {world : AgentWorld Party}

theorem runAlike_pure {a : α} {b : β} (faces : Faces party w world) (belong : together a b) :
    RunAlike party together s w world (pure a) (pure b) :=
  ⟨_, _, rfl, rfl, rfl, rfl, rfl, belong, rfl, faces⟩

theorem runAlike_throw {error : Raised} (faces : Faces party w world) :
    RunAlike party together s w world (throw (.raised error)) (throw error) :=
  ⟨_, _, rfl, rfl, rfl, rfl, rfl, rfl, rfl, faces⟩

theorem runAlike_get (faces : Faces party w world) :
    RunAlike party Eq s w world Routine.get Routine.get :=
  ⟨_, _, rfl, rfl, rfl, rfl, rfl, rfl, rfl, faces⟩

theorem runAlike_modify {change : StreamLocals → StreamLocals} (faces : Faces party w world) :
    RunAlike party Eq s w world (Routine.modify change) (Routine.modify change) :=
  ⟨_, _, rfl, rfl, rfl, rfl, rfl, rfl, rfl, faces⟩

theorem runAlike_activeMode (faces : Faces party w world) :
    RunAlike party (fun mode service => mode = service.sessionState.activeMode) s w world activeMode load :=
  ⟨_, _, rfl, rfl, rfl, rfl, rfl, faces.modes _, rfl, ⟨faces.stays, faces.modes, faces.cancelJob⟩⟩

theorem runAlike_addTurn {message reply : String} (faces : Faces party w world) :
    RunAlike party Eq s w world (addTurn message reply) (Agent.addTurn message reply) :=
  ⟨_, _, rfl, rfl, rfl, rfl, rfl, rfl, rfl, ⟨faces.stays, faces.modes, faces.cancelJob⟩⟩

theorem runAlike_encoded {payload : List (String × Value)} (faces : Faces party w world) :
    RunAlike party Eq s w world (encoded payload) (constructed (sseData payload)) := by
  unfold encoded
  cases sseData payload with
  | ok event => exact runAlike_pure faces rfl
  | error error => exact runAlike_throw faces

/-- The consumer comes back after every `yield`. -/
theorem runAlike_yield {site : YieldSite} {event : Dict} (faces : Faces party w world) :
    RunAlike party Eq s w world (yieldEvent site event) (emit event) := by
  have resumed := yieldEvent_alone (s := s) (w := w) site event
  rw [if_neg (by rw [faces.stays]; exact nofun)] at resumed
  exact ⟨_, _, resumed, suspended_alone, rfl, rfl, rfl, rfl, rfl, ⟨faces.stays, faces.modes, faces.cancelJob⟩⟩

theorem runAlike_cancelJob {jobId : String} (faces : Faces party w world) :
    RunAlike party Eq s w world (Routine.issue (S := streamSignature) (.cancelJob jobId)) (suspended (.cancelJob jobId)) :=
  ⟨_, _, rfl, rfl, rfl, rfl, rfl, congrFun faces.cancelJob jobId, rfl, faces⟩

/-- Only the generator on its own notes what it receives. -/
theorem RunAlike.received {event : HandlerEvent} {p : GeneratorM α} {q : AgentM β}
    (rest : RunAlike party together s w world p q) :
    RunAlike party together s w world (Routine.issue (S := streamSignature) (.receive event) >>= fun _ => p) q := by
  obtain ⟨run, other, runs, answers, same⟩ := rest
  refine ⟨run.after [.receive event], other, ?_, answers,
    same.events, same.jobs, same.memory, same.out, same.locals, same.faces⟩
  rw [Routine.alone_bind_ok (Routine.alone_issue rfl), runs]
  rfl

/-- Only a request among others waits for its next item. -/
theorem RunAlike.nextItem {p : GeneratorM α} {q : AgentM β} (rest : RunAlike party together s w world p q) :
    RunAlike party together s w world p (suspended .nextItem >>= fun _ => q) := by
  obtain ⟨run, other, runs, answers, same⟩ := rest
  refine ⟨run, other.after [.suspend .nextItem, .resume .nextItem], runs, ?_,
    same.events, same.jobs, same.memory, same.out, same.locals, same.faces⟩
  rw [Routine.alone_bind_ok suspended_alone, answers]
  rfl

end Statements

/-! ## The generators -/

section Generators

variable {Party : Type} {party : Party} {s : StreamLocals} {w : Surroundings} {world : AgentWorld Party}

theorem runAlike_forwardItems (items : List HandlerItem) (ending : Option Raised) (faces : Faces party w world) :
    RunAlike party Eq s w world (forwardItems items ending) (Agent.forwardItems items ending) := by
  induction items generalizing s w world with
  | nil =>
      cases ending with
      | none => exact runAlike_pure faces rfl
      | some error => exact runAlike_throw faces
  | cons item rest ih =>
      refine RunAlike.received (.bind (runAlike_modify faces) fun _ _ s' w' world' _ faces => ?_)
      refine .bind (runAlike_activeMode faces) fun mode service s' w' world' same faces => ?_
      obtain rfl := same
      refine .bind (runAlike_encoded faces) fun payload other s' w' world' same faces => ?_
      obtain rfl := same
      refine .bind (runAlike_yield faces) fun _ _ s' w' world' _ faces => ?_
      split
      · exact runAlike_modify faces
      · exact .nextItem (ih faces)

theorem runAlike_closing (faces : Faces party w world) :
    RunAlike party Eq s w world (do yieldEvent .closing (doneEvent (← activeMode)))
      (do emit (doneEvent (← load).sessionState.activeMode)) := by
  refine .bind (runAlike_activeMode faces) fun mode service s' w' world' same faces => ?_
  obtain rfl := same
  exact runAlike_yield faces

theorem runAlike_finishReply {message : String} (faces : Faces party w world) :
    RunAlike party Eq s w world (finishReply message) (Agent.finishReply message) := by
  refine .bind (runAlike_get faces) fun locals other s' w' world' same faces => ?_
  obtain rfl := same
  by_cases empty : locals.assistantReply = "" <;> cases sent : locals.doneSent
  all_goals
    simp only [empty, ne_eq, not_true_eq_false, not_false_eq_true, if_true, if_false, Bool.not_true,
      Bool.not_false, Bool.false_eq_true]
  · exact runAlike_closing faces
  · exact runAlike_pure faces rfl
  · exact .bind (runAlike_addTurn faces) fun _ _ s' w' world' _ faces => runAlike_closing faces
  · exact .bind (runAlike_addTurn faces) fun _ _ s' w' world' _ faces => runAlike_pure faces rfl

/-- Only a cancellation leaves the cancelling of the job. -/
theorem runAlike_cancelActiveJob (faces : Faces party w world) :
    RunAlike party Eq s w world cancelActiveJob Agent.cancelActiveJob := by
  refine .bind (runAlike_get faces) fun locals other s' w' world' same faces => ?_
  obtain rfl := same
  cases locals.activeJobId with
  | none => exact runAlike_pure faces rfl
  | some jobId =>
      by_cases empty : jobId = ""
      · simp only [empty, ne_eq, not_true_eq_false, if_false]
        exact runAlike_pure faces rfl
      · simp only [empty, ne_eq, not_false_eq_true, if_true]
        refine .bind (runAlike_cancelJob faces) fun called other s' w' world' same faces => ?_
        obtain rfl := same
        cases called with
        | ok _ => exact runAlike_pure faces rfl
        | error error =>
            cases error with
            | cancelled => exact runAlike_throw faces
            | api _ | exception _ => exact runAlike_pure faces rfl

/-- What surrounds the stream of a request that is read to its end. -/
def listening (party : Party) (world : AgentWorld Party) (handle : Except Raised ModeResponse) : Surroundings where
  modes _ := world.service.sessionState.activeMode
  closesAt := none
  cancelJob := world.backend.cancelJob party
  handle := handle

theorem listening_faces {handle : Except Raised ModeResponse} : Faces party (listening party world handle) world :=
  ⟨rfl, fun _ => rfl, rfl⟩

/-- Read to its end by a consumer that stays, a handler's stream is the same reply in both
    models of the generator. -/
theorem drained_alike {handler : ModeHandler} {request : ChatCommand} {history : String} {outcome : StreamOutcome}
    (streams : handler.streams = true) (handle : Except Raised ModeResponse)
    (streamed : world.backend.stream party
      (handler.taskPrompt world.service.sessionState request.message history) = outcome) :
    RunAlike party Eq {} (listening party world handle) world
      (streamHandlerResponse handler request history outcome) (Agent.streamHandlerResponse handler request history) := by
  refine .tryCatch ?_ fun error s' w' world' faces => ?_
  · rw [answerEvents, Agent.answerEvents, streams]
    simp only [Bool.not_true, Bool.false_eq_true, if_false]
    obtain ⟨run, other, runs, answers, same⟩ :=
      RunAlike.bind (@runAlike_forwardItems Party party {} _ world outcome.items outcome.ending listening_faces)
        fun _ _ s' w' world' _ faces => @runAlike_finishReply Party party s' w' world' request.message faces
    have asked := Routine.alone_bind_ok
      (f := fun outcome => Agent.forwardItems outcome.items outcome.ending >>= fun _ => Agent.finishReply request.message)
      (@stream_alone Party party world {} handler request.message history _ rfl)
    rw [streamed, answers] at asked
    exact ⟨run, _, runs, asked, same.events, same.jobs, same.memory, same.out, same.locals, same.faces⟩
  · cases error with
    | cancelled => exact .bind (runAlike_cancelActiveJob faces) fun _ _ s' w' world' _ faces => runAlike_throw faces
    | api _ | exception _ => exact runAlike_yield faces

end Generators

end LanguageAgent.Agent.Abandoned
