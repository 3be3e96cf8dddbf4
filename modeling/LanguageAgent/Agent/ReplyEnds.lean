import LanguageAgent.Agent.AgentService
import LanguageAgent.Interleaving.Alone

/-! # Every streamed reply ends once

The generator of `chat_stream`, drained with no other request running.
-/

namespace LanguageAgent.Agent

open Interleaving Queue

/-! ## Encoded events -/

/-- The event is the item, tagged with the mode. -/
def Tagged (mode : Mode) (item : HandlerItem) (event : Dict) : Prop :=
  sseData (labelled mode item.toEvent) = .ok event

namespace Tagged

variable {mode : Mode} {item : HandlerItem} {event : Dict}

theorem get? (tagged : Tagged mode item event) (key : String) (notMode : key ≠ "mode") :
    item.toEvent.get? key = (event.get? key).map .json := by
  have found := sseData_lookup tagged key
  have different : (key == "mode") = false := by simpa using notMode
  simpa [labelled, List.lookup_cons, different, HandlerEvent.get?] using found

theorem isTrue (tagged : Tagged mode item event) : event.isTrue "done" = item.toEvent.isTrue "done" := by
  have found := tagged.get? "done" (by decide)
  simp only [HandlerEvent.isTrue, Dict.isTrue, found]
  cases event.get? "done" with
  | none => rfl
  | some value => cases value with
    | bool truth => cases truth <;> rfl
    | _ => simp

theorem token (tagged : Tagged mode item event) : tokenOf event = (item.toEvent.str? "token").getD "" := by
  have found := tagged.get? "token" (by decide)
  simp only [HandlerEvent.str?, tokenOf, Dict.str?, found]
  cases event.get? "token" with
  | none => rfl
  | some value => cases value <;> simp [Json.str?]

end Tagged

/-! ## The loop over a stream -/

/-- How the loop is left. -/
inductive Exit where
  | exhausted
  /-- At this event, which says `done`. -/
  | done (event : Dict)
  | failed (error : Raised)

/-- The event the loop is left at. -/
def Exit.sent : Exit → List Dict
  | .done event => [event]
  | _ => []

def Exit.isDone : Exit → Bool
  | .done _ => true
  | _ => false

/-- `mode` tags the items `sent`, and then the loop over the stream is left so. -/
inductive Leaves (mode : Mode) (items sent : List HandlerItem) (ending : Option Raised) : Exit → Prop where
  | exhausted (all : sent = items) (ends : ending = none) : Leaves mode items sent ending .exhausted
  | done {item rest event} (next : items = sent ++ item :: rest) (tagged : Tagged mode item event)
      (saysDone : item.toEvent.isTrue "done" = true) : Leaves mode items sent ending (.done event)
  | raised {error} (all : sent = items) (ends : ending = some error) :
      Leaves mode items sent ending (.failed error)
  | unserializable {item rest error} (next : items = sent ++ item :: rest)
      (refused : sseData (labelled mode item.toEvent) = .error error) :
      Leaves mode items sent ending (.failed (.exception error))

/-- The items in order, each tagged with the mode, up to where the loop is left. -/
structure Forwarded (mode : Mode) (items : List HandlerItem) (ending : Option Raised) (before : List Dict)
    (exit : Exit) : Prop where
  sent : ∃ sent, List.Forall₂ (Tagged mode) sent before ∧
    (∀ item ∈ sent, item.toEvent.isTrue "done" = false) ∧ Leaves mode items sent ending exit

theorem Leaves.cons {mode : Mode} {items sent : List HandlerItem} {ending : Option Raised} {exit : Exit}
    (leaves : Leaves mode items sent ending exit) (item : HandlerItem) :
    Leaves mode (item :: items) (item :: sent) ending exit := by
  cases leaves with
  | exhausted all ends => exact .exhausted (by rw [all]) ends
  | done next tagged saysDone => exact .done (by rw [next, List.cons_append]) tagged saysDone
  | raised all ends => exact .raised (by rw [all]) ends
  | unserializable next refused => exact .unserializable (by rw [next, List.cons_append]) refused

theorem Forwarded.cons {mode : Mode} {items : List HandlerItem} {ending : Option Raised} {before : List Dict}
    {exit : Exit} {item : HandlerItem} {event : Dict} (tagged : Tagged mode item event)
    (goesOn : item.toEvent.isTrue "done" = false) (rest : Forwarded mode items ending before exit) :
    Forwarded mode (item :: items) ending (event :: before) exit := by
  obtain ⟨sent, match_, unfinished, leaves⟩ := rest.sent
  refine ⟨item :: sent, .cons tagged match_, ?_, leaves.cons item⟩
  simpa using ⟨goesOn, unfinished⟩

/-- The event a command hands to the consumer. -/
def AgentCommand.sentEvent? : AgentCommand → Option Dict
  | .suspend (.emit event) => some event
  | _ => none

def sentEvents (commands : List AgentCommand) : List Dict := commands.filterMap AgentCommand.sentEvent?

@[simp] theorem sentEvents_append (earlier later : List AgentCommand) :
    sentEvents (earlier ++ later) = sentEvents earlier ++ sentEvents later := by
  simp [sentEvents]

@[simp] theorem sentEvents_emit (event : Dict) :
    sentEvents [.suspend (.emit event), .resume (.emit event)] = [event] := rfl

/-- Commands that leave the conversation alone. -/
def AgentCommand.asks : AgentCommand → Bool
  | .load | .suspend _ | .resume _ => true
  | _ => false

/-- The intent a command applies. -/
def AgentCommand.appliedIntent? : AgentCommand → Option IntentResult
  | .applyIntent intent => some intent
  | _ => none

def appliedIntents (commands : List AgentCommand) : List IntentResult :=
  commands.filterMap AgentCommand.appliedIntent?

@[simp] theorem appliedIntents_append (earlier later : List AgentCommand) :
    appliedIntents (earlier ++ later) = appliedIntents earlier ++ appliedIntents later := by
  simp [appliedIntents]

theorem appliedIntents_asks {commands : List AgentCommand} (asks : ∀ command ∈ commands, command.asks = true) :
    appliedIntents commands = [] := by
  refine List.filterMap_eq_nil_iff.mpr fun command member => ?_
  have asks := asks command member
  cases command <;> first | rfl | cases asks

section Alone

variable {Party : Type} {party : Party} {world : AgentWorld Party} {s : StreamLocals} {pydantic : Pydantic}

theorem load_alone :
    load.alone (agentMachine Party) party s world = some ⟨[.load], world, .ok world.service, s⟩ := rfl

theorem addTurn_alone {userInput assistantReply : String} :
    (addTurn userInput assistantReply).alone (agentMachine Party) party s world =
      some ⟨[.addTurn userInput assistantReply],
        world.withMemory (world.service.memory.addTurn userInput assistantReply),
        .ok (), s⟩ := rfl

theorem suspended_alone {suspension : Suspension} :
    (suspended suspension).alone (agentMachine Party) party s world =
      some ⟨[.suspend suspension, .resume suspension], world, .ok (world.answer party suspension), s⟩ := rfl

/-- The loop leaves the service as it is. -/
theorem forwardItems_alone (items : List HandlerItem) (ending : Option Raised) :
    ∃ before exit commands out s',
      (forwardItems items ending).alone (agentMachine Party) party s world = some ⟨commands, world, out, s'⟩ ∧
      sentEvents commands = before ++ exit.sent ∧
      Forwarded world.service.sessionState.activeMode items ending before exit ∧
      match exit with
      | .failed error => out = .error error
      | exit => out = .ok () ∧ s'.doneSent = (s.doneSent || exit.isDone) ∧
          s'.assistantReply = s.assistantReply ++ joinTokens (before ++ exit.sent) := by
  induction items generalizing s with
  | nil =>
      cases ending with
      | none =>
          refine ⟨[], .exhausted, [], .ok (), s, rfl, rfl, ⟨[], .nil, by simp, .exhausted rfl rfl⟩, rfl, ?_, ?_⟩
          · simp [Exit.isDone]
          · simp [joinTokens, Exit.sent]
      | some error => exact ⟨[], .failed error, [], _, s, rfl, rfl, ⟨[], .nil, by simp, .raised rfl rfl⟩, rfl⟩
  | cons item rest ih =>
      have first : (forwardItems (item :: rest) ending).alone (agentMachine Party) party s world =
          ((do
            let payload ← constructed (sseData (labelled world.service.sessionState.activeMode item.toEvent))
            emit payload
            if item.toEvent.isTrue "done" then Routine.modify ({ · with doneSent := true })
            else
              suspended .nextItem
              forwardItems rest ending : AgentM Unit).alone (agentMachine Party) party
                (s.receive item.toEvent) world).map (Ending.after [AgentCommand.load]) := by
        rw [forwardItems, Routine.alone_bind_ok Routine.alone_modify, Routine.alone_bind_ok load_alone]
        simp
      cases encoded : sseData (labelled world.service.sessionState.activeMode item.toEvent) with
      | error error =>
          rw [encoded] at first
          exact ⟨[], .failed (.exception error), [.load], _, s.receive item.toEvent, first, rfl,
            ⟨[], .nil, by simp, .unserializable rfl encoded⟩, rfl⟩
      | ok event =>
          have tagged : Tagged world.service.sessionState.activeMode item event := encoded
          rw [encoded, constructed_ok, Routine.alone_bind_ok Routine.alone_pure, emit,
            Routine.alone_bind_ok suspended_alone] at first
          cases saysDone : item.toEvent.isTrue "done" with
          | true =>
              rw [saysDone, if_pos rfl, Routine.alone_modify] at first
              refine ⟨[], .done event, _, _, _, first, rfl, ⟨[], .nil, by simp, .done rfl tagged saysDone⟩,
                rfl, ?_, ?_⟩
              · simp [Exit.isDone]
              · simp [StreamLocals.receive, joinTokens, tagged.token, Exit.sent]
          | false =>
              obtain ⟨before, exit, commands, out, s', runs, sent, forwarded, ended⟩ := ih (s := s.receive item.toEvent)
              rw [saysDone, if_neg Bool.false_ne_true, Routine.alone_bind_ok suspended_alone, runs] at first
              refine ⟨event :: before, exit, _, out, s', first, ?_, .cons tagged saysDone forwarded, ?_⟩
              · exact congrArg (List.cons event) sent
              · cases exit with
                | failed error => exact ended
                | exhausted | done last =>
                    obtain ⟨ok, done, reply⟩ := ended
                    refine ⟨ok, done, ?_⟩
                    rw [reply, List.cons_append, joinTokens_cons, tagged.token, ← String.append_assoc]
                    rfl

/-! ## The generator of a handler's reply -/

/-- The last event a consumer gets from a handler's stream. -/
def Exit.final (mode : Mode) : Exit → Dict
  | .exhausted => doneEvent mode
  | .done event => event
  | .failed _ => streamFailedEvent

def Exit.isFailure : Exit → Bool
  | .failed _ => true
  | _ => false

/-- The memory after a reply that sent these events. -/
def heard (memory : ConversationMemory) (message : String) (events : List Dict) : ConversationMemory :=
  if joinTokens events = "" then memory else memory.addTurn message (joinTokens events)

/-- A reply is remembered where it has a text. -/
theorem finishReply_alone (message : String) :
    ∃ ending, (finishReply message).alone (agentMachine Party) party s world = some ending ∧
      ending.value.1 = .ok () ∧
      sentEvents ending.commands =
        (if s.doneSent then [] else [doneEvent world.service.sessionState.activeMode]) ∧
      ending.world = world.withMemory (if s.assistantReply = "" then world.service.memory
        else world.service.memory.addTurn message s.assistantReply) := by
  rw [finishReply, Routine.alone_bind_ok Routine.alone_get]
  by_cases empty : s.assistantReply = "" <;> cases sent : s.doneSent
  all_goals
    simp only [empty, ne_eq, not_true_eq_false, not_false_eq_true, if_true, if_false, Bool.not_true,
      Bool.not_false, Bool.false_eq_true]
  all_goals exact ⟨_, rfl, rfl, rfl, rfl⟩

/-- What `handler.stream` does up to its first item. -/
private def opening (prompt : Prompt) : List AgentCommand :=
  [.load, .suspend (.streamLlm prompt), .resume (.streamLlm prompt)]

@[simp] private theorem sentEvents_opening (prompt : Prompt) : sentEvents (opening prompt) = [] := rfl

theorem stream_alone {handler : ModeHandler} {userInput history : String} {prompt : Prompt}
    (asks : handler.taskPrompt world.service.sessionState userInput history = prompt) :
    (handler.stream userInput history).alone (agentMachine Party) party s world =
      some ⟨opening prompt, world, .ok (world.backend.stream party prompt), s⟩ := by
  subst asks
  rfl

/-- A cancelled generator stays cancelled, whatever becomes of its job. -/
theorem cancelled_alone :
    ∃ commands s', (do cancelActiveJob; throw .cancelled : AgentM Unit).alone (agentMachine Party) party s world =
      some ⟨commands, world, .error .cancelled, s'⟩ := by
  have fails : ∃ commands s', cancelActiveJob.alone (agentMachine Party) party s world =
      some ⟨commands, world, .ok (), s'⟩ ∨
      cancelActiveJob.alone (agentMachine Party) party s world =
        some ⟨commands, world, .error .cancelled, s'⟩ := by
    rw [cancelActiveJob, Routine.alone_bind_ok Routine.alone_get]
    cases s.activeJobId with
    | none => exact ⟨_, _, .inl rfl⟩
    | some jobId =>
        by_cases named : jobId = ""
        · simp only [named, ne_eq, not_true_eq_false, if_false]
          exact ⟨_, _, .inl rfl⟩
        · simp only [named, ne_eq, not_false_eq_true, if_true]
          rw [Routine.alone_bind_ok suspended_alone]
          simp only [AgentWorld.answer]
          cases world.backend.cancelJob party jobId with
          | ok done => exact ⟨_, _, .inl rfl⟩
          | error error =>
              cases error with
              | cancelled => exact ⟨_, _, .inr rfl⟩
              | _ => exact ⟨_, _, .inl rfl⟩
  obtain ⟨commands, s', ok | cancelled⟩ := fails
  · rw [Routine.alone_bind_ok ok]
    exact ⟨_, _, rfl⟩
  · rw [Routine.alone_bind_error cancelled]
    exact ⟨_, _, rfl⟩

/-- The last event adds no text unless it is an item. -/
theorem joinTokens_final (before : List Dict) (mode : Mode) {exit : Exit} (ends : exit.isFailure = false) :
    joinTokens (before ++ exit.sent) = joinTokens (before ++ [exit.final mode]) := by
  cases exit with
  | exhausted =>
      have silent : tokenOf (doneEvent mode) = "" := rfl
      simp [Exit.sent, Exit.final, joinTokens, silent]
  | done event => rfl
  | failed error => cases ends

/-- How the generator of a handler's reply ends: cancelled, or with its last event. -/
inductive ReplyEnd (world : AgentWorld Party) (message : String) (before : List Dict) (exit : Exit)
    (ending : Ending agentSignature (AgentWorld Party) (Except Raised Unit × StreamLocals)) : Prop where
  | cancelled (fails : exit.isFailure = true) (out : ending.value.1 = .error .cancelled) (left : ending.world = world)
  | answered (out : ending.value.1 = .ok ())
      (sent : sentEvents ending.commands = before ++ [exit.final world.service.sessionState.activeMode])
      (left : ending.world = world.withMemory (if exit.isFailure then world.service.memory else
        heard world.service.memory message (before ++ [exit.final world.service.sessionState.activeMode])))

/-- A handler's reply, from a state in which `prompt` is what its stream is asked. -/
theorem streamHandlerResponse_alone {handler : ModeHandler} (streams : handler.streams = true)
    {request : ChatCommand} {history : String} {prompt : Prompt} {outcome : StreamOutcome}
    (asks : handler.taskPrompt world.service.sessionState request.message history = prompt)
    (streamed : world.backend.stream party prompt = outcome) :
    ∃ before exit ending,
      (streamHandlerResponse handler request history).alone (agentMachine Party) party {} world = some ending ∧
      AgentCommand.suspend (.streamLlm prompt) ∈ ending.commands ∧
      Forwarded world.service.sessionState.activeMode outcome.items outcome.ending before exit ∧
      ReplyEnd world request.message before exit ending := by
  obtain ⟨before, exit, commands, out, s', runs, sent, forwarded, ended⟩ :=
    @forwardItems_alone Party party world {} outcome.items outcome.ending
  refine ⟨before, exit, ?_⟩
  have body : (answerEvents handler request history).alone (agentMachine Party) party {} world =
      ((forwardItems outcome.items outcome.ending >>= fun _ => finishReply request.message).alone
        (agentMachine Party) party {} world).map (Ending.after (opening prompt)) := by
    rw [answerEvents, streams]
    simp only [Bool.not_true, Bool.false_eq_true, if_false]
    rw [Routine.alone_bind_ok (stream_alone asks), streamed]
  cases exit with
  | failed error =>
      obtain rfl := ended
      rw [Routine.alone_bind_error runs, Option.map_some] at body
      rw [streamHandlerResponse, Routine.alone_tryCatch_error body]
      cases error with
      | cancelled =>
          obtain ⟨last, s'', finishes⟩ := @cancelled_alone Party party world s'
          rw [finishes]
          exact ⟨_, rfl, by simp [Ending.after, opening], forwarded, .cancelled rfl rfl rfl⟩
      | _ =>
          refine ⟨_, congrArg (Option.map _) suspended_alone, by simp [Ending.after, opening], forwarded,
            .answered rfl ?_ rfl⟩
          simp [Ending.after, sent, Exit.sent, Exit.final]
  | exhausted | done event =>
      obtain ⟨rfl, done, reply⟩ := ended
      obtain ⟨⟨lastCommands, lastWorld, value, lastLocals⟩, finishes, ok, lastSent, left⟩ :=
        @finishReply_alone Party party world s' request.message
      obtain rfl := ok
      rw [Routine.alone_bind_ok runs, finishes] at body
      refine ⟨_, Routine.alone_tryCatch_ok body, by simp [Ending.after, opening], forwarded, .answered rfl ?_ ?_⟩
      · have lastSent : sentEvents lastCommands = _ := lastSent
        simp [Ending.after, sent, lastSent, done, Exit.sent, Exit.isDone, Exit.final]
      · have text := reply.trans String.empty_append
        rw [joinTokens_final _ world.service.sessionState.activeMode rfl] at text
        rw [text] at left
        exact left

/-! ## The generators of `chat_stream` -/

theorem streamStaticResponse_alone {message response : String} {mode : Mode} :
    ∃ commands, (streamStaticResponse message mode response).alone (agentMachine Party) party s world =
        some ⟨commands, world.withMemory (world.service.memory.addTurn message response), .ok (), s⟩ ∧
      sentEvents commands = [tokenEvent mode response, doneEvent mode] := by
  rw [streamStaticResponse, Routine.alone_bind_ok addTurn_alone, emit, Routine.alone_bind_ok suspended_alone,
    emit, suspended_alone]
  exact ⟨_, rfl, rfl⟩

private theorem joinTokens_static {mode : Mode} {response : String} :
    joinTokens [tokenEvent mode response, doneEvent mode] = response := by
  have spoken : tokenOf (tokenEvent mode response) = response := rfl
  have silent : tokenOf (doneEvent mode) = "" := rfl
  simp [joinTokens, spoken, silent]

theorem switchMode_alone {intent : IntentResult} :
    (switchMode intent).alone (agentMachine Party) party s world =
      some ⟨[.applyIntent intent, .load,
          .logActiveMode (applyIntent world.service.sessionState intent).activeMode],
        world.withSession (applyIntent world.service.sessionState intent),
        .ok (applyIntent world.service.sessionState intent).activeMode, s⟩ := rfl

theorem askLlm_alone {prompt : Prompt} :
    ∃ out, (askLlm prompt).alone (agentMachine Party) party s world =
      some ⟨[.suspend (.askLlm prompt), .resume (.askLlm prompt)], world, out, s⟩ := by
  rw [askLlm, Routine.alone_bind_ok suspended_alone]
  simp only [AgentWorld.answer]
  cases world.backend.ask party prompt with
  | ok response => exact ⟨.ok response, rfl⟩
  | error error => exact ⟨.error error, rfl⟩

theorem constructed_alone {α : Type} (made : Except PyError α) :
    ∃ out, (constructed made : AgentM α).alone (agentMachine Party) party s world = some ⟨[], world, out, s⟩ := by
  cases made with
  | ok value => exact ⟨.ok value, rfl⟩
  | error error => exact ⟨.error (.exception error), rfl⟩

/-- What asks the model once and reads the answer changes nothing. -/
theorem asking_alone {α : Type} (prompt : Service → Prompt) (read : Dict → Except PyError α) :
    ∃ out commands, (do
        let service ← load
        let response ← askLlm (prompt service)
        constructed (read response) : AgentM α).alone (agentMachine Party) party s world =
      some ⟨commands, world, out, s⟩ ∧ ∀ command ∈ commands, command.asks = true := by
  obtain ⟨asked, asks⟩ := @askLlm_alone Party party world s (prompt world.service)
  rw [Routine.alone_bind_ok load_alone]
  cases asked with
  | error error =>
      rw [Routine.alone_bind_error asks]
      exact ⟨_, _, rfl, by simp [AgentCommand.asks]⟩
  | ok response =>
      rw [Routine.alone_bind_ok asks]
      obtain ⟨out, made⟩ := @constructed_alone Party party world s α (read response)
      rw [made]
      exact ⟨_, _, rfl, by simp [Ending.after, AgentCommand.asks]⟩

theorem resolveIntent_alone (command : ChatCommand) (history : String) :
    ∃ out commands, (resolveIntent pydantic command history).alone (agentMachine Party) party s world =
      some ⟨commands, world, out, s⟩ ∧ ∀ command ∈ commands, command.asks = true := by
  unfold resolveIntent
  cases command.mode with
  | none => exact asking_alone _ _
  | some mode =>
      simp only
      cases Mode.ofText? mode with
      | none => exact ⟨_, [], Routine.alone_throw, List.forall_mem_nil _⟩
      | some mode => exact ⟨_, [], Routine.alone_pure, List.forall_mem_nil _⟩

/-- An update that succeeds replaces the state of the handler's own mode. -/
theorem updateSessionState_updated {handler : ModeHandler} {userInput history : String}
    {ending : Ending agentSignature (AgentWorld Party) (Except Raised Unit × StreamLocals)}
    (runs : (handler.updateSessionState userInput history).alone (agentMachine Party) party s world = some ending)
    (returned : ending.value.1 = .ok ()) :
    ∃ response state, handler.newModeState response = .ok state ∧
      ending.world = world.withSession (world.service.sessionState.withModeState state) ∧
      AgentCommand.setModeState state ∈ ending.commands ∧ appliedIntents ending.commands = [] := by
  rw [ModeHandler.updateSessionState, Routine.alone_bind_ok load_alone] at runs
  obtain ⟨first, asked, rfl⟩ := Option.map_eq_some_iff.mp runs
  obtain ⟨_, _, response, _, second, answered, replaces, rfl⟩ := Routine.alone_bind_returned asked returned
  obtain ⟨out, asks⟩ := @askLlm_alone Party party world s
    (.stateUpdateTask userInput history (handler.modeState world.service.sessionState))
  cases Option.some.inj (asks.symm.trans answered)
  cases made : handler.newModeState response with
  | error error =>
      rw [made, constructed_error] at replaces
      obtain rfl := Option.some.inj replaces
      cases returned
  | ok state =>
      rw [made, constructed_ok] at replaces
      obtain rfl := Option.some.inj replaces
      exact ⟨response, state, made, rfl, by simp [Ending.after], rfl⟩

/-- The text of a reply that no handler is asked for. -/
def AgentService.staticReply? (agent : AgentService) (intent : IntentResult) (mode : Mode) : Option String :=
  if intent.asksBack then some intent.clarificationQuestion
  else if (agent.handlers mode).isNone then some generalResponse
  else none

/-- What `chat_stream` returns, in the state it leaves. -/
theorem chatStream_returned {request : ChatCommand} {generator : AgentM Unit}
    {opening : Ending agentSignature (AgentWorld Party) (Except Raised (AgentM Unit) × StreamLocals)}
    (opened : (chatStream (.ofPydantic pydantic) request).alone (agentMachine Party) party s world = some opening)
    (returned : opening.value.1 = .ok generator) :
    ∃ intent, appliedIntents opening.commands = [intent] ∧
      ((∃ response, response ≠ "" ∧ (AgentService.ofPydantic pydantic).staticReply? intent
            opening.world.service.sessionState.activeMode = some response ∧
          generator =
            streamStaticResponse request.message opening.world.service.sessionState.activeMode response) ∨
        ∃ handler, (AgentService.ofPydantic pydantic).staticReply? intent
            opening.world.service.sessionState.activeMode = none ∧
          (AgentService.ofPydantic pydantic).handlers opening.world.service.sessionState.activeMode = some handler ∧
          generator = streamHandlerResponse handler request world.service.memory.formatForPrompt) := by
  have attempt := Routine.alone_tryCatch_returned
    (fun error => by cases error <;> exact ⟨_, rfl⟩) opened returned
  rw [Routine.alone_bind_ok load_alone] at attempt
  obtain ⟨first, reads, rfl⟩ := Option.map_eq_some_iff.mp attempt
  obtain ⟨out, asked, runs, silent⟩ := @resolveIntent_alone Party party world s pydantic request
    world.service.memory.formatForPrompt
  obtain ⟨_, _, intent, _, second, resolved, resolves, rfl⟩ := Routine.alone_bind_returned reads returned
  cases Option.some.inj (runs.symm.trans resolved)
  rw [Routine.alone_bind_ok switchMode_alone] at resolves
  obtain ⟨third, chooses, rfl⟩ := Option.map_eq_some_iff.mp resolves
  change third.value.1 = _ at returned
  have applies : ∀ rest : List AgentCommand, appliedIntents rest = [] →
      appliedIntents ([AgentCommand.load] ++ (asked ++ ([.applyIntent intent, .load, .logActiveMode
        (applyIntent world.service.sessionState intent).activeMode] ++ rest))) = [intent] := by
    intro rest none
    rw [appliedIntents_append, appliedIntents_append, appliedIntents_append, appliedIntents_asks silent, none]
    rfl
  refine ⟨intent, ?_⟩
  cases asksBack : intent.asksBack with
  | true =>
      simp only [asksBack, if_true] at chooses
      obtain rfl := Option.some.inj chooses
      obtain rfl := Except.ok.inj returned
      refine ⟨applies [] rfl, .inl ⟨intent.clarificationQuestion, ?_, ?_, rfl⟩⟩
      · simp_all [IntentResult.asksBack]
      · rw [AgentService.staticReply?, asksBack, if_pos rfl]
  | false =>
      simp only [asksBack, Bool.false_eq_true, if_false] at chooses
      cases found : (AgentService.ofPydantic pydantic).handlers
          (applyIntent world.service.sessionState intent).activeMode with
      | none =>
          rw [found] at chooses
          obtain rfl := Option.some.inj chooses
          obtain rfl := Except.ok.inj returned
          have general : (applyIntent world.service.sessionState intent).activeMode = .general :=
            AgentService.ofPydantic_none.mp found
          refine ⟨applies [] rfl, .inl ⟨generalResponse, by decide, ?_, ?_⟩⟩
          · change (AgentService.ofPydantic pydantic).staticReply? intent
              (applyIntent world.service.sessionState intent).activeMode = _
            rw [AgentService.staticReply?, asksBack, found]
            rfl
          · change _ = streamStaticResponse _ (applyIntent world.service.sessionState intent).activeMode _
            rw [general]
      | some handler =>
          rw [found] at chooses
          obtain ⟨_, _, _, _, fourth, updates, returns, rfl⟩ := Routine.alone_bind_returned chooses returned
          obtain rfl := Option.some.inj returns
          obtain rfl := Except.ok.inj returned
          obtain ⟨response, state, made, left, _, quiet⟩ := updateSessionState_updated updates rfl
          subst left
          have stays : (world.withSession ((applyIntent world.service.sessionState intent).withModeState
              state)).service.sessionState.activeMode = (applyIntent world.service.sessionState intent).activeMode :=
            SessionState.withModeState_activeMode _ _
          refine ⟨applies _ ?_, .inr ⟨handler, ?_, ?_, rfl⟩⟩
          · simpa [Ending.after] using quiet
          · refine (congrArg ((AgentService.ofPydantic pydantic).staticReply? intent) stays).trans ?_
            rw [AgentService.staticReply?, asksBack, found]
            rfl
          · exact (congrArg (AgentService.ofPydantic pydantic).handlers stays).trans found

end Alone

theorem Forwarded.unfinished {mode : Mode} {items : List HandlerItem} {ending : Option Raised}
    {before : List Dict} {exit : Exit} (forwarded : Forwarded mode items ending before exit) :
    ∀ event ∈ before, event.isTrue "done" = false := by
  obtain ⟨sent, tagged, unfinished, -⟩ := forwarded.sent
  clear forwarded
  induction tagged with
  | nil => simp
  | cons head _ ih =>
      have first := head.isTrue.trans (unfinished _ List.mem_cons_self)
      simpa [first] using ih fun item member => unfinished item (List.mem_cons_of_mem _ member)

theorem Forwarded.final_done {mode : Mode} {items : List HandlerItem} {ending : Option Raised}
    {before : List Dict} {exit : Exit} (forwarded : Forwarded mode items ending before exit) :
    (exit.final mode).isTrue "done" = true := by
  obtain ⟨sent, -, -, leaves⟩ := forwarded.sent
  cases leaves with
  | done next tagged saysDone => exact tagged.isTrue.trans saysDone
  | _ => rfl

/-! ## Every reply -/

/-- A drained generator sends one event that says `done`, the last one. The events before
    it are the fixed text where no handler is asked, and otherwise the items of the handler's
    stream in order, all tagged with the active mode; and the memory gains the text of the
    reply unless there is none or the stream failed. -/
theorem sse_reply_ends_once {Party : Type} {party : Party} {world : AgentWorld Party} {pydantic : Pydantic}
    {request : ChatCommand} {generator : AgentM Unit}
    {opening : Ending agentSignature (AgentWorld Party) (Except Raised (AgentM Unit) × StreamLocals)}
    {closing : Ending agentSignature (AgentWorld Party) (Except Raised Unit × StreamLocals)}
    (opened : (chatStream (.ofPydantic pydantic) request).alone (agentMachine Party) party {} world = some opening)
    (returned : opening.value.1 = .ok generator)
    (drains : (drained generator).alone (agentMachine Party) party {} opening.world = some closing)
    (uncancelled : closing.value.1 ≠ .error .cancelled) :
    ∃ intent before final failed, appliedIntents opening.commands = [intent] ∧
      sentEvents closing.commands = before ++ [final] ∧
      final.isTrue "done" = true ∧ (∀ event ∈ before, event.isTrue "done" = false) ∧
      closing.world = opening.world.withMemory (if failed then opening.world.service.memory else
        heard opening.world.service.memory request.message (before ++ [final])) ∧
      (∀ response, (AgentService.ofPydantic pydantic).staticReply? intent
          opening.world.service.sessionState.activeMode = some response →
        failed = false ∧ final = doneEvent opening.world.service.sessionState.activeMode ∧
          before = [tokenEvent opening.world.service.sessionState.activeMode response]) ∧
      ((AgentService.ofPydantic pydantic).staticReply? intent opening.world.service.sessionState.activeMode = none →
        ∃ handler prompt exit,
          (AgentService.ofPydantic pydantic).handlers opening.world.service.sessionState.activeMode = some handler ∧
          prompt = handler.taskPrompt opening.world.service.sessionState request.message
            world.service.memory.formatForPrompt ∧
          AgentCommand.suspend (.streamLlm prompt) ∈ closing.commands ∧
          Forwarded opening.world.service.sessionState.activeMode
            (opening.world.backend.stream party prompt).items (opening.world.backend.stream party prompt).ending
            before exit ∧
          final = exit.final opening.world.service.sessionState.activeMode ∧ failed = exit.isFailure) := by
  rw [drained, Routine.alone_bind_ok suspended_alone] at drains
  obtain ⟨ending, finishes, rfl⟩ := Option.map_eq_some_iff.mp drains
  obtain ⟨intent, applied, ⟨response, spoken, static, rfl⟩ | ⟨handler, notStatic, found, rfl⟩⟩ :=
    chatStream_returned opened returned
  · obtain ⟨commands, runs, sent⟩ := @streamStaticResponse_alone Party party opening.world {}
      request.message response opening.world.service.sessionState.activeMode
    obtain rfl := Option.some.inj (runs.symm.trans finishes)
    have text : joinTokens [tokenEvent opening.world.service.sessionState.activeMode response,
        doneEvent opening.world.service.sessionState.activeMode] = response := joinTokens_static
    refine ⟨intent, [tokenEvent _ response], doneEvent _, false, applied, sent, rfl, ?_, ?_, ?_, ?_⟩
    · intro event member
      obtain rfl := List.mem_singleton.mp member
      rfl
    · simp [heard, text, spoken, Ending.after]
    · intro other same
      obtain rfl := Option.some.inj (static.symm.trans same)
      exact ⟨rfl, rfl, rfl⟩
    · intro none
      cases static.symm.trans none
  · obtain ⟨before, exit, last, runs, asked, forwarded, ended⟩ :=
      @streamHandlerResponse_alone Party party opening.world handler (AgentService.ofPydantic_streams found)
        request world.service.memory.formatForPrompt _ _ rfl rfl
    obtain rfl := Option.some.inj (runs.symm.trans finishes)
    cases ended with
    | cancelled fails out left => exact absurd out uncancelled
    | answered out sent left =>
        refine ⟨intent, before, exit.final _, exit.isFailure, applied, sent, forwarded.final_done,
          forwarded.unfinished, left, ?_, ?_⟩
        · intro response static
          cases notStatic.symm.trans static
        · exact fun _ => ⟨handler, _, exit, found, rfl, List.mem_append_right _ asked, forwarded, rfl, rfl⟩

theorem sse_reply_ends_once_demo :
    ∃ opening closing generator, (chatStream demoAgent { message := "hello", mode := "translation" }).alone
        (agentMachine Unit) () {} (demoWorld Unit) = some opening ∧ opening.value.1 = .ok generator ∧
      (drained generator).alone (agentMachine Unit) () {} opening.world = some closing ∧
      ∃ before final, ∃ failed : Bool, sentEvents closing.commands = before ++ [final] ∧
        final.isTrue "done" = true ∧ (∀ event ∈ before, event.isTrue "done" = false) ∧
        closing.world = opening.world.withMemory (if failed then opening.world.service.memory else
          heard opening.world.service.memory "hello" (before ++ [final])) := by
  obtain ⟨_, before, final, failed, _, sent, done, unfinished, left, -⟩ :=
    @sse_reply_ends_once Unit () (demoWorld Unit) demoPydantic { message := "hello", mode := "translation" }
      _ _ _ rfl rfl rfl (by intro stopped; cases stopped)
  exact ⟨_, _, _, rfl, rfl, rfl, before, final, failed, sent, done, unfinished, left⟩

end LanguageAgent.Agent
