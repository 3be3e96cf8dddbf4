import LanguageAgent.Agent.AbandonedStreams
import LanguageAgent.Agent.FailedTurns
import LanguageAgent.Agent.SessionOrchestrator
import LanguageAgent.Interleaving.Evaluation

/-! # One turn at two front ends

What `handle_turn` and a drained `chat_stream` make of the same turn. Up to the reply they
do the same; they differ in what they take from the stream of the handler.
-/

namespace LanguageAgent.Agent

open Gateway Interleaving Queue
open Abandoned (serializable raisedInLoop takenEvents replyOf labelled_encoded labelled_refused)

/-- A turn by how far it gets, with the session state it leaves. -/
inductive Turn where
  /-- No intent was resolved. -/
  | unresolved
  | asksBack (session : SessionState) (question : String)
  /-- The active mode has no handler. -/
  | unhandled (session : SessionState)
  | notUpdated (session : SessionState)
  | streamed (session : SessionState) (outcome : StreamOutcome)

/-- What a front end leaves, and whether it has failed. -/
structure TurnEnd where
  service : Service
  failed : Bool
  deriving DecidableEq

/-- What a model's answer is read as. -/
def readAnswer {α : Type} (read : Dict → Except PyError α) : Except Raised Dict → Except Raised α
  | .error error => .error error
  | .ok response => (read response).mapError .exception

section Turns

variable {Party : Type} (pydantic : Pydantic) (party : Party) (world : AgentWorld Party) (message : String)

/-- The intent, from the classifier's answer. -/
def askedIntent : Except Raised IntentResult :=
  readAnswer pydantic.intentResult (world.backend.ask party
    (.intentTask world.service.sessionState.activeMode world.service.memory.formatForPrompt message))

/-- The new state of the mode, from the answer to the state update. -/
def askedState (handler : ModeHandler) (session : SessionState) : Except Raised ModeState :=
  readAnswer handler.newModeState (world.backend.ask party
    (.stateUpdateTask message world.service.memory.formatForPrompt (handler.modeState session)))

def handledTurn (handler : ModeHandler) (session : SessionState) : Turn :=
  match askedState party world message handler session with
  | .error _ => .notUpdated session
  | .ok state =>
      let session := session.withModeState state
      .streamed session (world.backend.stream party
        (handler.taskPrompt session message world.service.memory.formatForPrompt))

def intendedTurn (intent : IntentResult) : Turn :=
  let session := applyIntent world.service.sessionState intent
  if intent.asksBack then .asksBack session intent.clarificationQuestion
  else
    match (AgentService.ofPydantic pydantic).handlers session.activeMode with
    | none => .unhandled session
    | some handler => handledTurn party world message handler session

def askedTurn : Turn :=
  match askedIntent pydantic party world message with
  | .error _ => .unresolved
  | .ok intent => intendedTurn pydantic party world message intent

end Turns

/-! ## What each front end makes of it -/

/-- The reply `handle_turn` puts together, unless something raises. -/
def spokenReply (console : Console) : List HandlerItem → Option Raised → Option String
  | [], none => some ""
  | [], some _ => none
  | .event _ :: _, _ => none
  | .text token :: rest, ending =>
      if (console.print (.token token)).isSome then none else (spokenReply console rest ending).map (token ++ ·)

def handleTurnEnd (console : Console) (service : Service) (message : String) : Turn → TurnEnd
  | .unresolved => ⟨service, true⟩
  | .asksBack session question =>
      ⟨⟨session, service.memory.addTurn message question⟩, (console.print (.agent question)).isSome⟩
  | .unhandled session => ⟨⟨session, service.memory.addTurn message generalResponse⟩, false⟩
  | .notUpdated session => ⟨⟨session, service.memory⟩, true⟩
  | .streamed session outcome =>
      match spokenReply console outcome.items outcome.ending with
      | none => ⟨⟨session, service.memory⟩, true⟩
      | some reply => ⟨⟨session, service.memory.addTurn message reply⟩, false⟩

/-- A reply is remembered where it has a text. -/
def remembered (memory : ConversationMemory) (message reply : String) : ConversationMemory :=
  if reply = "" then memory else memory.addTurn message reply

def chatStreamEnd (service : Service) (message : String) : Turn → TurnEnd
  | .unresolved => ⟨service, true⟩
  | .asksBack session question => ⟨⟨session, service.memory.addTurn message question⟩, false⟩
  | .unhandled session => ⟨⟨session, service.memory.addTurn message generalResponse⟩, false⟩
  | .notUpdated session => ⟨⟨session, service.memory⟩, true⟩
  | .streamed session outcome =>
      match raisedInLoop outcome.items outcome.ending with
      | some _ => ⟨⟨session, service.memory⟩, true⟩
      | none => ⟨⟨session, remembered service.memory message (replyOf (takenEvents outcome.items))⟩, false⟩

/-! ## The turn of the orchestrator -/

section Orchestrator

variable {Party : Type} {party : Party} {world : AgentWorld Party} {s : StreamLocals} {pydantic : Pydantic}
  {console : Console}

theorem printed_plain (line : ConsoleLine) (plain : line.IsPlain) :
    (printed console line).Evaluates (agentMachine Party) party s world (.ok ()) s world := by
  rw [printed, console.plain line plain]
  exact .pure

theorem printed_evaluates (line : ConsoleLine) :
    (printed console line).Evaluates (agentMachine Party) party s world
      (match console.print line with
        | none => .ok ()
        | some error => .error (.exception error)) s world := by
  rw [printed]
  cases console.print line with
  | none => exact .pure
  | some error => exact .throw

theorem constructed_evaluates {α : Type} (made : Except PyError α) :
    (constructed made).Evaluates (agentMachine Party) party s world (made.mapError .exception) s world := by
  cases made with
  | ok value => exact .pure
  | error error => exact .throw

theorem askLlm_evaluates (prompt : Prompt) :
    (askLlm prompt).Evaluates (agentMachine Party) party s world (world.backend.ask party prompt) s world := by
  refine .bind ⟨_, suspended_alone⟩ ?_
  simp only [AgentWorld.answer]
  cases world.backend.ask party prompt with
  | ok response => exact .pure
  | error error => exact .throw

theorem classify_evaluates (message : String) :
    (classify pydantic message world.service.memory.formatForPrompt).Evaluates (agentMachine Party) party s world
      (askedIntent pydantic party world message) s world := by
  refine .bind ⟨_, load_alone⟩ ?_
  rw [askedIntent]
  have asks := @askLlm_evaluates Party party world s
    (.intentTask world.service.sessionState.activeMode world.service.memory.formatForPrompt message)
  cases asked : world.backend.ask party
      (.intentTask world.service.sessionState.activeMode world.service.memory.formatForPrompt message) with
  | error error =>
      rw [asked] at asks
      exact .bind_raised asks
  | ok response =>
      rw [asked] at asks
      exact .bind asks (constructed_evaluates _)

/-- The world after the state of the mode has been updated, where it is. -/
def updatedWorld (world : AgentWorld Party) : Except Raised ModeState → AgentWorld Party
  | .ok state => world.withSession (world.service.sessionState.withModeState state)
  | .error _ => world

theorem updateSessionState_evaluates {handler : ModeHandler} {message : String} {asked : Except Raised ModeState}
    (answers : askedState party world message handler world.service.sessionState = asked) :
    (handler.updateSessionState message world.service.memory.formatForPrompt).Evaluates (agentMachine Party) party s world
      (asked.map fun _ => ()) s (updatedWorld world asked) := by
  subst answers
  refine .bind ⟨_, load_alone⟩ ?_
  rw [askedState]
  have asks := @askLlm_evaluates Party party world s
    (.stateUpdateTask message world.service.memory.formatForPrompt (handler.modeState world.service.sessionState))
  cases asked : world.backend.ask party
      (.stateUpdateTask message world.service.memory.formatForPrompt (handler.modeState world.service.sessionState)) with
  | error error =>
      rw [asked] at asks
      exact .bind_raised asks
  | ok response =>
      rw [asked] at asks
      refine .bind asks ?_
      have reads := @constructed_evaluates Party party world s _ (handler.newModeState response)
      cases made : handler.newModeState response with
      | error error =>
          rw [made] at reads
          simp only [readAnswer, made]
          exact .bind_raised reads
      | ok state =>
          rw [made] at reads
          simp only [readAnswer, made]
          exact .bind reads (.issue rfl)

/-- The items are spoken up to the first that raises. -/
theorem speakItems_evaluates (items : List HandlerItem) (ending : Option Raised) :
    ∃ s', match spokenReply console items ending with
      | none => ∃ error, (speakItems console items ending).Evaluates (agentMachine Party) party s world (.error error) s' world
      | some reply => (speakItems console items ending).Evaluates (agentMachine Party) party s world (.ok ()) s' world ∧
          s'.assistantReply = s.assistantReply ++ reply := by
  induction items generalizing s with
  | nil =>
      cases ending with
      | none => exact ⟨s, .pure, (String.append_empty).symm⟩
      | some error => exact ⟨s, error, .throw⟩
  | cons item rest ih =>
      cases item with
      | event fields => exact ⟨s, _, .throw⟩
      | text token =>
          have prints := @printed_evaluates Party party world
            { s with assistantReply := s.assistantReply ++ token } console (.token token)
          cases print : console.print (.token token) with
          | some error =>
              rw [print] at prints
              simp only [spokenReply, print, Option.isSome_some, if_true]
              exact ⟨_, _, .bind .modify (.bind_raised prints)⟩
          | none =>
              rw [print] at prints
              simp only [spokenReply, print, Option.isSome_none, Bool.false_eq_true, if_false]
              obtain ⟨s', spoken⟩ := @ih { s with assistantReply := s.assistantReply ++ token }
              refine ⟨s', ?_⟩
              cases reply : spokenReply console rest ending with
              | none =>
                  rw [reply] at spoken
                  obtain ⟨error, raises⟩ := spoken
                  exact ⟨error, .bind .modify (.bind prints (.bind ⟨_, suspended_alone⟩ raises))⟩
              | some reply' =>
                  rw [reply] at spoken
                  obtain ⟨speaks, text⟩ := spoken
                  refine ⟨.bind .modify (.bind prints (.bind ⟨_, suspended_alone⟩ speaks)), ?_⟩
                  rw [text, String.append_assoc]

/-- The modes that have a handler are streamed. -/
theorem modeOutputConfig_handled {mode : Mode} {handler : ModeHandler}
    (found : (AgentService.ofPydantic pydantic).handlers mode = some handler) : modeOutputConfig mode = .ok .stream := by
  cases mode with
  | general => cases found
  | _ => rfl

/-- From the state update on. -/
theorem answerTurn_ends {handler : ModeHandler} {service : Service} (intent : IntentResult) (message : String)
    (same : service.memory = world.service.memory)
    (found : (AgentService.ofPydantic pydantic).handlers world.service.sessionState.activeMode = some handler) :
    ∃ out s' world', (answerTurn console handler message world.service.memory.formatForPrompt intent).Evaluates
        (agentMachine Party) party {} world out s' world' ∧
      TurnEnd.mk world'.service (!out.isOk) =
        handleTurnEnd console service message (handledTurn party world message handler world.service.sessionState) := by
  have updates := @updateSessionState_evaluates Party party world {} handler message _ rfl
  rw [handledTurn]
  cases asked : askedState party world message handler world.service.sessionState with
  | error error =>
      rw [asked] at updates
      simp only [handleTurnEnd, same]
      exact ⟨_, _, _, .bind_raised updates, rfl⟩
  | ok state =>
      rw [asked] at updates
      have streams : modeOutputConfig (world.service.sessionState.withModeState state).activeMode = .ok .stream := by
        rw [SessionState.withModeState_activeMode]
        exact modeOutputConfig_handled found
      have configured : (constructed (modeOutputConfig (world.service.sessionState.withModeState state).activeMode)).Evaluates
          (agentMachine Party) party {} (world.withSession (world.service.sessionState.withModeState state)) (.ok .stream) {}
          (world.withSession (world.service.sessionState.withModeState state)) := by
        rw [streams]
        exact .pure
      obtain ⟨s', spoken⟩ := @speakItems_evaluates Party party
        (world.withSession (world.service.sessionState.withModeState state)) {} console
        (world.backend.stream party (handler.taskPrompt (world.service.sessionState.withModeState state) message
          world.service.memory.formatForPrompt)).items _
      simp only [handleTurnEnd, same]
      split at spoken
      · rename_i silent
        obtain ⟨error, raises⟩ := spoken
        rw [silent]
        refine ⟨_, _, _, .bind updates (.bind ⟨_, load_alone⟩ (.bind configured (.bind (printed_plain .assistantLabel trivial)
          (.bind ⟨_, stream_alone rfl⟩ (.bind_raised raises))))), rfl⟩
      · rename_i reply replied
        obtain ⟨speaks, text⟩ := spoken
        rw [replied]
        refine ⟨_, _, _, .bind updates (.bind ⟨_, load_alone⟩ (.bind configured (.bind (printed_plain .assistantLabel trivial)
          (.bind ⟨_, stream_alone rfl⟩ (.bind speaks (.bind (printed_plain .newLine trivial) (.bind .get
            (.bind ⟨_, addTurn_alone⟩ (.bind ⟨_, load_alone⟩ .pure))))))))), ?_⟩
        rw [text, String.empty_append]
        rfl

/-- Once the intent has been applied. -/
theorem answerIntent_ends (intent : IntentResult) (message : String) :
    ∃ out s' world', (answerIntent console (.ofPydantic pydantic) message world.service.memory.formatForPrompt intent
        (applyIntent world.service.sessionState intent).activeMode).Evaluates (agentMachine Party) party {}
          (world.withSession (applyIntent world.service.sessionState intent)) out s' world' ∧
      TurnEnd.mk world'.service (!out.isOk) =
        handleTurnEnd console world.service message (intendedTurn pydantic party world message intent) := by
  rw [answerIntent, intendedTurn]
  cases asks : intent.asksBack with
  | true =>
      have prints := @printed_evaluates Party party ((world.withSession
        (applyIntent world.service.sessionState intent)).withMemory
          (world.service.memory.addTurn message intent.clarificationQuestion)) {} console
        (.agent intent.clarificationQuestion)
      simp only [if_true, handleTurnEnd]
      cases print : console.print (.agent intent.clarificationQuestion) with
      | none =>
          rw [print] at prints
          exact ⟨_, _, _, .bind ⟨_, addTurn_alone⟩ (.bind prints .pure), rfl⟩
      | some error =>
          rw [print] at prints
          exact ⟨_, _, _, .bind ⟨_, addTurn_alone⟩ (.bind_raised prints), rfl⟩
  | false =>
      simp only [Bool.false_eq_true, if_false]
      cases found : (AgentService.ofPydantic pydantic).handlers
          (applyIntent world.service.sessionState intent).activeMode with
      | none =>
          exact ⟨_, _, _, .bind ⟨_, addTurn_alone⟩ (.bind (printed_plain (.agent generalResponse) rfl) .pure), rfl⟩
      | some handler =>
          exact @answerTurn_ends Party party (world.withSession (applyIntent world.service.sessionState intent))
            pydantic console handler world.service intent message rfl found

theorem handleTurn_ends (message : String) :
    ∃ out s' world', (handleTurn console (.ofPydantic pydantic) message).Evaluates (agentMachine Party) party {} world
        out s' world' ∧
      TurnEnd.mk world'.service (!out.isOk) =
        handleTurnEnd console world.service message (askedTurn pydantic party world message) := by
  have classifies := @classify_evaluates Party party world {} pydantic message
  rw [askedTurn]
  cases resolved : askedIntent pydantic party world message with
  | error error =>
      rw [resolved] at classifies
      exact ⟨_, _, _, .bind ⟨_, load_alone⟩ (.bind_raised classifies), rfl⟩
  | ok intent =>
      rw [resolved] at classifies
      obtain ⟨out, s', world', answers, same⟩ := @answerIntent_ends Party party world pydantic console intent message
      exact ⟨out, s', world', .bind ⟨_, load_alone⟩ (.bind classifies (.bind ⟨_, switchMode_alone⟩
        (.bind (printed_plain (.mode _) trivial) answers))), same⟩

/-- `handle_turn`, with no other request running. -/
def handleTurnRun (console : Console) (pydantic : Pydantic) (party : Party) (world : AgentWorld Party) (message : String) :
    Option TurnEnd :=
  ((handleTurn console (.ofPydantic pydantic) message).alone (agentMachine Party) party {} world).map fun run =>
    ⟨run.world.service, !run.value.1.isOk⟩

theorem handleTurnRun_eq (message : String) :
    handleTurnRun console pydantic party world message =
      some (handleTurnEnd console world.service message (askedTurn pydantic party world message)) := by
  obtain ⟨out, s', world', ⟨commands, runs⟩, same⟩ := @handleTurn_ends Party party world pydantic console message
  rw [handleTurnRun, runs, Option.map_some, ← same]

end Orchestrator

/-! ## The turn of the service -/

/-- Only the event that reports a failure has no mode. -/
def reportsFailure (event : Dict) : Bool := (event.get? "mode").isNone

section Service

variable {Party : Type} {party : Party} {world : AgentWorld Party} {s : StreamLocals} {pydantic : Pydantic}
  {mode : Mode} {item : HandlerItem} {event : Dict} {items sent : List HandlerItem} {before : List Dict}
  {ending : Option Raised} {exit : Exit}

theorem Tagged.serializable (tagged : Tagged mode item event) : serializable item.toEvent = true := by
  cases encodes : Abandoned.serializable item.toEvent with
  | true => rfl
  | false => cases tagged.symm.trans (labelled_refused encodes mode)

theorem Tagged.reportsFailure (tagged : Tagged mode item event) : reportsFailure event = false := by
  have found := sseData_lookup tagged "mode"
  rw [labelled, List.lookup_cons_self] at found
  cases labels : event.get? "mode" with
  | none =>
      rw [labels] at found
      cases found
  | some value => simp [Agent.reportsFailure, labels]

theorem Leaves.tail (leaves : Leaves mode items (item :: sent) ending exit) :
    ∃ rest, items = item :: rest ∧ Leaves mode rest sent ending exit := by
  cases leaves with
  | exhausted all ends => exact ⟨sent, all.symm, .exhausted rfl ends⟩
  | done next tagged saysDone => exact ⟨_, next, .done rfl tagged saysDone⟩
  | raised all ends => exact ⟨sent, all.symm, .raised rfl ends⟩
  | unserializable next refused => exact ⟨_, next, .unserializable rfl refused⟩

/-- The loop fails where something raises in it, and else it has taken the events into the reply. -/
theorem Leaves.taken (tagged : List.Forall₂ (Tagged mode) sent before)
    (unfinished : ∀ item ∈ sent, item.toEvent.isTrue "done" = false) (leaves : Leaves mode items sent ending exit) :
    exit.isFailure = (raisedInLoop items ending).isSome ∧
      (exit.isFailure = false → joinTokens (before ++ exit.sent) = replyOf (takenEvents items)) := by
  induction tagged generalizing items with
  | nil =>
      cases leaves with
      | exhausted all ends =>
          subst all ends
          exact ⟨rfl, fun _ => rfl⟩
      | @done item rest event next tagged saysDone =>
          subst next
          simp [Exit.isFailure, raisedInLoop, takenEvents, tagged.serializable, saysDone, Exit.sent, joinTokens,
            replyOf, tagged.token]
      | raised all ends =>
          subst all ends
          exact ⟨rfl, fun returns => by cases returns⟩
      | @unserializable item rest error next refused =>
          subst next
          have refuses : serializable item.toEvent = false := by
            cases encodes : serializable item.toEvent with
            | false => rfl
            | true =>
                obtain ⟨payload, encoded⟩ := labelled_encoded encodes mode
                cases refused.symm.trans encoded
          simp [Exit.isFailure, raisedInLoop, refuses]
  | @cons item event sent before tagged rest ih =>
      obtain ⟨others, rfl, later⟩ := leaves.tail
      have goesOn := unfinished item List.mem_cons_self
      obtain ⟨fails, reply⟩ := ih (fun other member => unfinished other (List.mem_cons_of_mem _ member)) later
      simp only [raisedInLoop, takenEvents, tagged.serializable, goesOn]
      refine ⟨by simpa using fails, fun returns => ?_⟩
      rw [List.cons_append, joinTokens_cons, reply returns, tagged.token]
      exact (Abandoned.replyOf_cons).symm

theorem Forwarded.reportsFailure (forwarded : Forwarded mode items ending before exit) :
    (before ++ [exit.final mode]).any reportsFailure = exit.isFailure := by
  obtain ⟨sent, tagged, -, leaves⟩ := forwarded.sent
  have quiet : before.any Agent.reportsFailure = false := by
    clear forwarded leaves
    induction tagged with
    | nil => rfl
    | cons head rest ih => simp [head.reportsFailure, ih]
  rw [List.any_append, quiet, Bool.false_or]
  cases leaves with
  | done next tagged saysDone => simp [Exit.final, Exit.isFailure, tagged.reportsFailure]
  | _ => simp [Exit.final, Exit.isFailure, Agent.reportsFailure, doneEvent, streamFailedEvent, Dict.get?]

/-- What the drained generator of a handler's reply leaves. -/
theorem drained_reply_ends {handler : ModeHandler} {service : Service} {request : ChatCommand} {history : String}
    (streams : handler.streams = true) (same : service.memory = world.service.memory) :
    ∃ closing, (drained (streamHandlerResponse handler request history)).alone (agentMachine Party) party {} world =
        some closing ∧
      TurnEnd.mk closing.world.service (!closing.value.1.isOk || (sentEvents closing.commands).any reportsFailure) =
        chatStreamEnd service request.message (.streamed world.service.sessionState
          (world.backend.stream party (handler.taskPrompt world.service.sessionState request.message history))) := by
  obtain ⟨before, exit, closing, runs, -, forwarded, ended⟩ :=
    @streamHandlerResponse_alone Party party world handler streams request history _ _ rfl rfl
  rw [drained, Routine.alone_bind_ok suspended_alone, runs]
  refine ⟨_, rfl, ?_⟩
  obtain ⟨sent, tagged, unfinished, leaves⟩ := forwarded.sent
  obtain ⟨fails, reply⟩ := leaves.taken tagged unfinished
  have events : sentEvents (Ending.after [AgentCommand.suspend .iterate, AgentCommand.resume .iterate] closing).commands =
      sentEvents closing.commands := rfl
  rw [events]
  simp only [chatStreamEnd, Ending.after, same]
  cases ended with
  | cancelled isFailure out left =>
      obtain ⟨error, raised⟩ := Option.isSome_iff_exists.mp (fails.symm.trans isFailure)
      rw [out, left, raised]
      rfl
  | answered out sent left =>
      rw [out, sent, left, forwarded.reportsFailure]
      cases isFailure : exit.isFailure with
      | true =>
          obtain ⟨error, raised⟩ := Option.isSome_iff_exists.mp (fails.symm.trans isFailure)
          rw [raised]
          rfl
      | false =>
          have returns := Option.isNone_iff_eq_none.mp (by
            rw [← Option.not_isSome, ← fails, isFailure]
            rfl)
          rw [returns, ← reply isFailure, joinTokens_final _ world.service.sessionState.activeMode isFailure]
          rfl

theorem drained_static_ends {service : Service} {message response : String} (same : service.memory = world.service.memory) :
    ∃ closing, (drained (streamStaticResponse message mode response)).alone (agentMachine Party) party {} world =
        some closing ∧
      TurnEnd.mk closing.world.service (!closing.value.1.isOk || (sentEvents closing.commands).any reportsFailure) =
        ⟨⟨world.service.sessionState, service.memory.addTurn message response⟩, false⟩ := by
  obtain ⟨commands, runs, sent⟩ := @streamStaticResponse_alone Party party world {} message response mode
  rw [drained, Routine.alone_bind_ok suspended_alone, runs]
  refine ⟨_, rfl, ?_⟩
  have events : sentEvents ([AgentCommand.suspend .iterate, AgentCommand.resume .iterate] ++ commands) =
      sentEvents commands := rfl
  rw [Ending.after, events, sent, same]
  rfl

/-- `chat_stream`, drained to its end. -/
def chatStreamRun (pydantic : Pydantic) (party : Party) (world : AgentWorld Party) (request : ChatCommand) :
    Option TurnEnd :=
  ((chatStream (.ofPydantic pydantic) request).alone (agentMachine Party) party {} world).bind fun opening =>
    match opening.value.1 with
    | .error _ => some ⟨opening.world.service, true⟩
    | .ok generator =>
        ((drained generator).alone (agentMachine Party) party {} opening.world).map fun closing =>
          ⟨closing.world.service, !closing.value.1.isOk || (sentEvents closing.commands).any reportsFailure⟩

theorem chatStreamRun_raised {request : ChatCommand} {s' : StreamLocals} {world' : AgentWorld Party}
    (opens : ∃ error, (chatStream (.ofPydantic pydantic) request).Evaluates (agentMachine Party) party {} world
      (.error error) s' world') :
    chatStreamRun pydantic party world request = some ⟨world'.service, true⟩ := by
  obtain ⟨error, commands, opens⟩ := opens
  rw [chatStreamRun, opens]
  rfl

theorem chatStreamRun_returned {request : ChatCommand} {generator : AgentM Unit} {s' : StreamLocals}
    {world' : AgentWorld Party} {finish : TurnEnd}
    (opens : (chatStream (.ofPydantic pydantic) request).Evaluates (agentMachine Party) party {} world
      (.ok generator) s' world')
    (drains : ∃ closing, (drained generator).alone (agentMachine Party) party {} world' = some closing ∧
      TurnEnd.mk closing.world.service (!closing.value.1.isOk || (sentEvents closing.commands).any reportsFailure) =
        finish) :
    chatStreamRun pydantic party world request = some finish := by
  obtain ⟨commands, opens⟩ := opens
  obtain ⟨closing, drains, same⟩ := drains
  simp only [chatStreamRun, opens, Option.bind_some, drains, Option.map_some, same]

theorem orServiceError_raised {α : Type} {attempt : AgentM α} {s' : StreamLocals} {world' : AgentWorld Party}
    {message : String} (error : Raised)
    (raises : attempt.Evaluates (agentMachine Party) party s world (.error error) s' world') :
    ∃ other, (orServiceError message attempt).Evaluates (agentMachine Party) party s world (.error other) s' world' := by
  cases error with
  | exception error => exact ⟨_, .tryCatch_raised raises .throw⟩
  | api error => exact ⟨_, .tryCatch_raised raises .throw⟩
  | cancelled => exact ⟨_, .tryCatch_raised raises .throw⟩

/-- What is left of a turn whose intent has been resolved. -/
theorem chatStreamRun_intent {message : String} {metadata : Option RequestMetadata} {intent : IntentResult}
    (resolved : askedIntent pydantic party world message = .ok intent) :
    chatStreamRun pydantic party world { message, metadata } =
      some (chatStreamEnd world.service message (intendedTurn pydantic party world message intent)) := by
  have classifies := @classify_evaluates Party party world {} pydantic message
  rw [resolved] at classifies
  rw [intendedTurn]
  cases asks : intent.asksBack with
  | true =>
      exact chatStreamRun_returned (.tryCatch (.bind ⟨_, load_alone⟩ (.bind classifies (.bind ⟨_, switchMode_alone⟩
        (by simp only [asks, if_true]; exact .pure))))) (drained_static_ends rfl)
  | false =>
      simp only [Bool.false_eq_true, if_false]
      cases found : (AgentService.ofPydantic pydantic).handlers
          (applyIntent world.service.sessionState intent).activeMode with
      | none =>
          exact chatStreamRun_returned (.tryCatch (.bind ⟨_, load_alone⟩ (.bind classifies (.bind ⟨_, switchMode_alone⟩
            (by simp only [asks, Bool.false_eq_true, if_false, found]; exact .pure))))) (drained_static_ends rfl)
      | some handler =>
          simp only [handledTurn]
          cases answered : askedState party world message handler (applyIntent world.service.sessionState intent) with
          | error error =>
              have updates := @updateSessionState_evaluates Party party
                (world.withSession (applyIntent world.service.sessionState intent)) {} handler message _ answered
              have raises : ∃ error, (chatStream (.ofPydantic pydantic) { message, metadata }).Evaluates (agentMachine Party)
                  party {} world (.error error) {} (world.withSession (applyIntent world.service.sessionState intent)) := by
                refine orServiceError_raised error (.bind ⟨_, load_alone⟩ (.bind classifies (.bind ⟨_, switchMode_alone⟩ ?_)))
                simp only [asks, Bool.false_eq_true, if_false, found]
                exact .bind_raised updates
              exact chatStreamRun_raised raises
          | ok state =>
              have updates := @updateSessionState_evaluates Party party
                (world.withSession (applyIntent world.service.sessionState intent)) {} handler message _ answered
              exact chatStreamRun_returned (.tryCatch (.bind ⟨_, load_alone⟩ (.bind classifies
                (.bind ⟨_, switchMode_alone⟩ (by
                  simp only [asks, Bool.false_eq_true, if_false, found]
                  exact .bind updates .pure)))))
                (drained_reply_ends (AgentService.ofPydantic_streams found) rfl)

theorem chatStreamRun_eq (message : String) (metadata : Option RequestMetadata) :
    chatStreamRun pydantic party world { message, metadata } =
      some (chatStreamEnd world.service message (askedTurn pydantic party world message)) := by
  rw [askedTurn]
  cases resolved : askedIntent pydantic party world message with
  | ok intent => exact chatStreamRun_intent resolved
  | error error =>
      have classifies := @classify_evaluates Party party world {} pydantic message
      rw [resolved] at classifies
      exact chatStreamRun_raised (orServiceError_raised error (.bind ⟨_, load_alone⟩ (.bind_raised classifies)))

end Service

/-! ## When they are the same -/

/-- The turn ends the same at both front ends: what the console is given it prints, and a
    stream that does not fail consists of strings, not all of them empty. -/
def SameTurn (console : Console) (memory : ConversationMemory) (message : String) : Turn → Prop
  | .unresolved | .unhandled _ | .notUpdated _ => True
  | .asksBack _ question => console.print (.agent question) = none
  | .streamed _ outcome =>
      raisedInLoop outcome.items outcome.ending ≠ none ∨
        ∃ tokens, outcome.items = tokens.map .text ∧ (∀ token ∈ tokens, console.print (.token token) = none) ∧
          (String.join tokens ≠ "" ∨ memory.addTurn message "" = memory)

section Ends

variable {console : Console} {ending : Option Raised} {items : List HandlerItem} {tokens : List String} {reply : String}

theorem text_goesOn (token : String) : (HandlerItem.text token).toEvent.isTrue "done" = false := rfl

theorem text_serializable (token : String) : serializable (HandlerItem.text token).toEvent = true := rfl

theorem raisedInLoop_texts : raisedInLoop (tokens.map .text) ending = ending := by
  induction tokens with
  | nil => rfl
  | cons token rest ih => simpa [raisedInLoop, text_serializable, text_goesOn] using ih

theorem replyOf_texts : replyOf (takenEvents (tokens.map .text)) = String.join tokens := by
  induction tokens with
  | nil => rfl
  | cons token rest ih =>
      have takes : takenEvents ((token :: rest).map .text) =
          (HandlerItem.text token).toEvent :: takenEvents (rest.map .text) := by
        simp [takenEvents, text_serializable, text_goesOn]
      rw [takes, Abandoned.replyOf_cons, ih, String.join_cons]
      rfl

/-- A reply is put together from strings that are all printed. -/
theorem spokenReply_some : spokenReply console items ending = some reply ↔ ending = none ∧
    ∃ tokens, items = tokens.map .text ∧ (∀ token ∈ tokens, console.print (.token token) = none) ∧
      String.join tokens = reply := by
  induction items generalizing reply with
  | nil =>
      cases ending with
      | none =>
          constructor
          · intro spoken
            cases spoken
            exact ⟨rfl, [], rfl, List.forall_mem_nil _, rfl⟩
          · rintro ⟨-, tokens, none, -, rfl⟩
            obtain rfl := List.map_eq_nil_iff.mp none.symm
            rfl
      | some error => simp [spokenReply]
  | cons item rest ih =>
      cases item with
      | event fields =>
          constructor
          · intro spoken
            cases spoken
          · rintro ⟨-, tokens, all, -⟩
            cases tokens with
            | nil => cases all
            | cons token more => cases all
      | text token =>
          constructor
          · intro spoken
            rw [spokenReply] at spoken
            cases print : console.print (.token token) with
            | some error =>
                rw [print] at spoken
                cases spoken
            | none =>
                rw [print] at spoken
                obtain ⟨later, speaks, rfl⟩ := Option.map_eq_some_iff.mp spoken
                obtain ⟨ends, tokens, rfl, prints, rfl⟩ := ih.mp speaks
                exact ⟨ends, token :: tokens, rfl, List.forall_mem_cons.mpr ⟨print, prints⟩, String.join_cons⟩
          · rintro ⟨ends, tokens, all, prints, rfl⟩
            cases tokens with
            | nil => cases all
            | cons first more =>
                cases all
                obtain ⟨print, others⟩ := List.forall_mem_cons.mp prints
                have speaks := ih.mpr ⟨ends, more, rfl, others, rfl⟩
                simp [spokenReply, print, speaks, String.join_cons]

/-- One turn ends the same at both. -/
theorem turnEnd_eq_iff {service : Service} {message : String} {turn : Turn} :
    handleTurnEnd console service message turn = chatStreamEnd service message turn ↔
      SameTurn console service.memory message turn := by
  cases turn with
  | unresolved | unhandled session | notUpdated session => exact iff_of_true rfl trivial
  | asksBack session question => simp [handleTurnEnd, chatStreamEnd, SameTurn]
  | streamed session outcome =>
      simp only [handleTurnEnd, chatStreamEnd, SameTurn]
      cases raised : raisedInLoop outcome.items outcome.ending with
      | some error =>
          have silent : spokenReply console outcome.items outcome.ending = none := by
            by_contra spoken
            obtain ⟨reply, spoken⟩ := Option.ne_none_iff_exists'.mp spoken
            obtain ⟨ends, tokens, texts, -⟩ := spokenReply_some.mp spoken
            rw [texts, ends, raisedInLoop_texts] at raised
            cases raised
          rw [silent]
          exact iff_of_true rfl (.inl (Option.some_ne_none error))
      | none =>
          cases spoken : spokenReply console outcome.items outcome.ending with
          | none =>
              refine iff_of_false (fun same => Bool.noConfusion (congrArg TurnEnd.failed same)) ?_
              rintro (fails | ⟨tokens, texts, prints, -⟩)
              · exact fails rfl
              · rw [texts, raisedInLoop_texts] at raised
                rw [spokenReply_some.mpr ⟨raised, tokens, texts, prints, rfl⟩] at spoken
                cases spoken
          | some reply =>
              obtain ⟨-, tokens, texts, prints, rfl⟩ := spokenReply_some.mp spoken
              rw [texts, replyOf_texts]
              by_cases empty : String.join tokens = ""
              · simp only [remembered, empty, if_true]
                constructor
                · intro same
                  have memory : service.memory.addTurn message "" = service.memory :=
                    congrArg (fun finish => finish.service.memory) same
                  exact .inr ⟨tokens, rfl, prints, .inr memory⟩
                · rintro (fails | ⟨others, same, -, spoken | full⟩)
                  · exact absurd rfl fails
                  · have texts := congrArg (replyOf ∘ takenEvents) same
                    simp only [Function.comp_apply, replyOf_texts] at texts
                    exact absurd (texts.symm.trans empty) spoken
                  · rw [full]
              · simp only [remembered, empty, if_false]
                exact iff_of_true trivial (.inr ⟨tokens, rfl, prints, .inl empty⟩)

end Ends

/-- The two front ends come to the same session state and memory, and fail together, where
    the turn is the same at both. -/
theorem front_ends_agree_iff {Party : Type} (console : Console) (pydantic : Pydantic) (party : Party)
    (world : AgentWorld Party) (message : String) (metadata : Option RequestMetadata) :
    (∃ finish, handleTurnRun console pydantic party world message = some finish ∧
        chatStreamRun pydantic party world { message, metadata } = some finish) ↔
      SameTurn console world.service.memory message (askedTurn pydantic party world message) := by
  rw [handleTurnRun_eq, chatStreamRun_eq, ← turnEnd_eq_iff]
  simp [eq_comm]

/-! ## A reply from the queue -/

def silentConsole : Console := ⟨fun _ => none, fun _ _ => rfl⟩

/-- Every message is for the learning mode. -/
def learningPydantic : Pydantic where
  __ := demoPydantic
  intentResult _ := .ok { mode := .learning, confidence := .high, shouldSwitchMode := true, reason := "A lesson." }

/-- One token of a queued job, and its end. -/
def queuedReply : StreamOutcome where
  items :=
    [.event
      { entries := [("job_id", .json (.str "j1")), ("status", .json (.str "running")), ("token", .json (.str "hola"))]
        distinct := by decide
        unlabelled := by decide },
     .event
      { entries := [("job_id", .json (.str "j1")), ("status", .json (.str "completed")), ("done", .json (.bool true))]
        distinct := by decide
        unlabelled := by decide }]
  ending := none

def queuedWorld : AgentWorld Unit where
  backend := { demoBackend Unit with stream := fun _ _ => queuedReply }
  service := {}

/-- The service remembers the reply, and the orchestrator fails. -/
theorem queued_reply_differs : ¬ ∃ finish,
    handleTurnRun silentConsole learningPydantic () queuedWorld "teach me" = some finish ∧
      chatStreamRun learningPydantic () queuedWorld { message := "teach me" } = some finish := by
  rintro ⟨finish, turn, stream⟩
  have failed : (handleTurnRun silentConsole learningPydantic () queuedWorld "teach me").map TurnEnd.failed = some true := by
    decide +kernel
  have answered : (chatStreamRun learningPydantic () queuedWorld { message := "teach me" }).map TurnEnd.failed =
      some false := by
    decide +kernel
  rw [turn] at failed
  rw [stream] at answered
  exact absurd (failed.symm.trans answered) (by decide)

end LanguageAgent.Agent
