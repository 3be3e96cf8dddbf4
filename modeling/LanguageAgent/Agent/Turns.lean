import LanguageAgent.Agent.ModeLabels
import LanguageAgent.Agent.Sessions
import LanguageAgent.Interleaving.Contract

/-! # What is said is remembered

Any number of requests on one service, in any order of their steps. A request adds at most
one turn to the shared memory, and when it is answered the turn is what its caller got.
-/

namespace LanguageAgent.Agent

open Interleaving

/-! ## What is on record of a request -/

def AgentCommand.turn? : AgentCommand → Option ConversationTurn
  | .addTurn userInput assistantReply => some ⟨userInput, assistantReply⟩
  | _ => none

def AgentCommand.response? : AgentCommand → Option Response
  | .respond response => some response
  | _ => none

/-- The turns added to the memory. -/
def addedTurns (commands : List AgentCommand) : List ConversationTurn := commands.filterMap AgentCommand.turn?

/-- What a reply leaves in the memory. -/
def replyTurns (message reply : String) : List ConversationTurn := if reply = "" then [] else [⟨message, reply⟩]

/-- No turn, or one of this message. -/
def AtMostOne (message : String) (turns : List ConversationTurn) : Prop := turns = [] ∨ ∃ reply, turns = [⟨message, reply⟩]

/-- The data of a result, if any, are the answer whose mode and text it has. -/
def ChatResult.Whole (result : ChatResult) : Prop :=
  result.data = none ∨ ∃ answer : ModeResponse, result.data = some answer.modelDump ∧ result.mode = answer.mode ∧
    result.response = answer.response

/-- What a request has sent and added when it is answered. -/
def Response.Leaves (message : String) (sent : List Dict) (turns : List ConversationTurn) : Response → Prop
  | .full result => sent = [] ∧ turns = [⟨message, result.response⟩] ∧ result.Whole
  | .streamed => ∃ before final, sent = before ++ [final] ∧ final.isTrue "done" = true ∧
      (∀ event ∈ before, event.isTrue "done" = false) ∧
      ((final = streamFailedEvent ∧ turns = []) ∨
        (final ≠ streamFailedEvent ∧ turns = replyTurns message (joinTokens sent)))
  | .failed _ => turns = []

theorem replyTurns_atMostOne (message reply : String) : AtMostOne message (replyTurns message reply) := by
  unfold replyTurns
  split_ifs
  · exact .inl rfl
  · exact .inr ⟨reply, rfl⟩

theorem Response.Leaves.atMostOne {message : String} {sent : List Dict} {turns : List ConversationTurn}
    {response : Response} (leaves : response.Leaves message sent turns) : AtMostOne message turns := by
  cases response with
  | full result => exact .inr ⟨_, leaves.2.1⟩
  | failed raised => exact .inl leaves
  | streamed =>
      obtain ⟨before, final, -, -, -, ⟨-, none⟩ | ⟨-, remembered⟩⟩ := leaves
      · exact .inl none
      · exact remembered ▸ replyTurns_atMostOne message _

structure Record where
  sent : List Dict := []
  turns : List ConversationTurn := []
  response : Option Response := none

namespace Record

def note (record : Record) (command : AgentCommand) : Record where
  sent := record.sent ++ command.sentEvent?.toList
  turns := record.turns ++ command.turn?.toList
  response := command.response?.or record.response

structure Sound (message : String) (record : Record) : Prop where
  turns : AtMostOne message record.turns
  response : ∀ response, record.response = some response → response.Leaves message record.sent record.turns

variable {message : String} {record : Record}

/-- Until a request is answered only its turns matter. -/
theorem Sound.unanswered (turns : AtMostOne message record.turns)
    (unanswered : record.response = none) : record.Sound message :=
  ⟨turns, fun response answered => by cases unanswered.symm.trans answered⟩

end Record

/-- A request that is answered does nothing more, and its record stays sound. -/
def delivering (message : String) : Protocol agentSignature Record := fun record command _ after =>
  record.response = none ∧ after = record.note command ∧ after.Sound message

/-! ## Silent parts -/

def AgentCommand.isSilent : AgentCommand → Bool
  | .addTurn _ _ | .suspend (.emit _) | .respond _ => false
  | _ => true

theorem Record.note_silent (record : Record) {command : AgentCommand} (silent : command.isSilent = true) :
    record.note command = record := by
  have nothing : command.sentEvent? = none ∧ command.turn? = none ∧ command.response? = none := by
    cases command with
    | suspend suspension => cases suspension <;> first | exact ⟨rfl, rfl, rfl⟩ | cases silent
    | addTurn | respond => cases silent
    | _ => exact ⟨rfl, rfl, rfl⟩
  obtain ⟨unsent, unturned, unanswered⟩ := nothing
  simp [note, unsent, unturned, unanswered]

/-- Nothing is sent, nothing remembered and nothing answered. -/
def silence : Contract agentSignature where
  reply _ _ := True
  command command := command.isSilent = true

/-- Silent throughout, with the locals left as they are. -/
def Silent {α : Type} (m : AgentM α) (good : α → Prop) : Prop :=
  ∀ I, m.Maintains silence I (fun _ => True) good

section Silence

variable {α β : Type} {good : α → Prop} {pydantic : Pydantic} {request : ChatCommand}
  {handler : ModeHandler} {userInput history message : String}

theorem Silent.bind {m : AgentM α} {f : α → AgentM β} {last : β → Prop} (first : Silent m good)
    (rest : ∀ a, Silent (f a) last) : Silent (m >>= f) last :=
  fun I => (first I).bind fun a _ => rest a I

theorem silent_pure {a : α} (ok : good a) : Silent (pure a) good := fun _ => Routine.maintains_pure ok

theorem silent_throw {raised : Raised} : Silent (throw raised) good := fun _ => Routine.maintains_throw trivial

theorem silent_issue {command : AgentCommand} (silent : command.isSilent = true) :
    Silent (Routine.issue (S := agentSignature) command) fun _ => True :=
  fun _ => Routine.maintains_issue silent

theorem silent_load : Silent load fun _ => True := silent_issue rfl

theorem silent_suspended {suspension : Suspension} (silent : (AgentCommand.suspend suspension).isSilent = true) :
    Silent (suspended suspension) fun _ => True :=
  (silent_issue silent).bind fun _ => silent_issue rfl

theorem silent_askLlm {prompt : Prompt} : Silent (askLlm prompt) fun _ => True := by
  refine (silent_suspended rfl).bind fun reply => ?_
  cases reply with
  | ok response => exact silent_pure trivial
  | error raised => exact silent_throw

theorem silent_constructed {made : Except Queue.PyError α} : Silent (constructed made) fun _ => True := by
  cases made with
  | ok value => exact silent_pure trivial
  | error raised => exact silent_throw

theorem silent_resolveIntent : Silent (resolveIntent pydantic request history) fun _ => True := by
  unfold resolveIntent
  split
  · split
    · exact silent_pure trivial
    · exact silent_throw
  · exact silent_load.bind fun _ => silent_askLlm.bind fun _ => silent_constructed

theorem silent_switchMode {intent : IntentResult} : Silent (switchMode intent) fun _ => True :=
  (silent_issue rfl).bind fun _ => silent_load.bind fun _ => (silent_issue rfl).bind fun _ => silent_pure trivial

theorem silent_updateSessionState : Silent (handler.updateSessionState userInput history) fun _ => True :=
  silent_load.bind fun _ => silent_askLlm.bind fun _ => silent_constructed.bind fun _ => silent_issue rfl

theorem silent_handle : Silent (handler.handle userInput history) fun _ => True :=
  silent_load.bind fun _ => silent_askLlm.bind fun _ => silent_constructed

theorem silent_stream : Silent (handler.stream userInput history) fun _ => True :=
  silent_load.bind fun _ => silent_suspended rfl

theorem silent_cancelActiveJob : Silent cancelActiveJob fun _ => True := by
  refine fun I => Routine.maintains_get.bind fun locals _ => ?_
  cases locals.activeJobId with
  | none => exact silent_pure trivial I
  | some jobId =>
      refine Routine.maintains_ite (fun _ => (silent_suspended rfl).bind (fun reply => ?_) I) fun _ =>
        silent_pure trivial I
      split
      · exact silent_throw
      · exact silent_pure trivial

/-- The generators that `chat_stream` returns. -/
inductive Replies (message : String) : AgentM Unit → Prop where
  | static {mode response} (spoken : response ≠ "") : Replies message (streamStaticResponse message mode response)
  | handled {handler : ModeHandler} {request : ChatCommand} {history} (streams : handler.streams = true)
      (asked : request.message = message) : Replies message (streamHandlerResponse handler request history)

theorem silent_chatStream :
    Silent (chatStream (.ofPydantic pydantic) request) (Replies request.message) := by
  refine fun I => Routine.Maintains.tryCatch (fun _ => True) ?_ fun raised _ => ?_
  · refine silent_load.bind (fun service => silent_resolveIntent.bind fun intent =>
      silent_switchMode.bind fun activeMode => ?_) I
    cases asks : intent.asksBack with
    | true =>
        have spoken : intent.clarificationQuestion ≠ "" := by
          simp only [IntentResult.asksBack, Bool.and_eq_true, decide_eq_true_eq] at asks
          exact asks.2
        exact silent_pure (.static spoken)
    | false =>
        simp only [Bool.false_eq_true, if_false]
        cases found : (AgentService.ofPydantic pydantic).handlers activeMode with
        | none => exact silent_pure (.static (by decide))
        | some handler =>
            exact silent_updateSessionState.bind fun _ =>
              silent_pure (.handled (AgentService.ofPydantic_streams found) rfl)
  · cases raised <;> exact silent_throw I

end Silence

section Delivering

variable {α : Type} {good : α → Prop} {message : String} {record : Record} {locals : StreamLocals}

/-- What is silent leaves the record as it is. -/
theorem Silent.keeps {m : AgentM α} (silent : Silent m good) (sound : record.Sound message)
    (unanswered : record.response = none) :
    m.Obeys (delivering message) (fun out s after => after = record ∧ s = locals ∧ ∀ value, out = .ok value → good value)
      locals record := by
  have idle : ∀ (command : AgentCommand) reply, command.isSilent = true →
      delivering message record command reply record :=
    fun command _ quiet => ⟨unanswered, (record.note_silent quiet).symm, sound⟩
  refine ((silent (· = locals)).obeys (fun _ _ => trivial) idle rfl).mono ?_
  rintro out s after ⟨same, unchanged, ends⟩
  refine ⟨same, unchanged, ?_⟩
  rintro value rfl
  exact ends

theorem load_delivers {post : Except Raised Service → StreamLocals → Record → Prop} (sound : record.Sound message)
    (unanswered : record.response = none) (next : ∀ service, post (.ok service) locals record) :
    load.Obeys (delivering message) post locals record :=
  fun service => ⟨record, ⟨unanswered, (record.note_silent rfl).symm, sound⟩, next service⟩

/-- A first turn is added. -/
theorem addTurn_delivers {reply : String} {post : Except Raised Unit → StreamLocals → Record → Prop}
    (unanswered : record.response = none) (fresh : record.turns = [])
    (next : post (.ok ()) locals { record with turns := [⟨message, reply⟩] }) :
    (addTurn message reply).Obeys (delivering message) post locals record := by
  have noted : record.note (.addTurn message reply) = { record with turns := [⟨message, reply⟩] } := by
    simp [Record.note, AgentCommand.sentEvent?, AgentCommand.turn?, AgentCommand.response?, fresh]
  exact fun _ => ⟨_, ⟨unanswered, noted.symm, .unanswered (.inr ⟨reply, rfl⟩) unanswered⟩, next⟩

/-- An event is sent. -/
theorem emit_delivers {event : Dict} {post : Except Raised Unit → StreamLocals → Record → Prop}
    (sound : record.Sound message) (unanswered : record.response = none)
    (next : post (.ok ()) locals { record with sent := record.sent ++ [event] }) :
    (emit event).Obeys (delivering message) post locals record := by
  have noted : record.note (.suspend (.emit event)) = { record with sent := record.sent ++ [event] } := by
    simp [Record.note, AgentCommand.sentEvent?, AgentCommand.turn?, AgentCommand.response?]
  have resumed : Record.note { record with sent := record.sent ++ [event] } (.resume (.emit event)) =
      { record with sent := record.sent ++ [event] } := by
    simp [Record.note, AgentCommand.sentEvent?, AgentCommand.turn?, AgentCommand.response?]
  rw [emit, suspended, Routine.obeys_bind]
  exact fun _ => ⟨_, ⟨unanswered, noted.symm, .unanswered sound.turns unanswered⟩,
    fun _ => ⟨_, ⟨unanswered, resumed.symm, .unanswered sound.turns unanswered⟩, next⟩⟩

/-! ## Full answers -/

/-- The record of a request that has answered in full, before it responds. -/
def Answered (message : String) (out : Except Raised ChatResult) (after : Record) : Prop :=
  after.sent = [] ∧ after.response = none ∧
    match out with
    | .ok result => after.turns = [⟨message, result.response⟩] ∧ result.Whole
    | .error _ => after.turns = []

theorem chatFull_delivers {pydantic : Pydantic} {request : ChatCommand} :
    (chatFull (.ofPydantic pydantic) request).Obeys (delivering request.message)
      (fun out _ after => Answered request.message out after) locals {} := by
  have start : ({} : Record).Sound request.message := .unanswered (.inl rfl) rfl
  have failed : ∀ raised, Answered request.message (.error raised) {} := fun raised => ⟨rfl, rfl, rfl⟩
  have turned : ∀ {locals} {reply : String} {result : ChatResult}, result.response = reply → result.Whole →
      (do addTurn request.message reply; pure result : AgentM ChatResult).Obeys (delivering request.message)
        (fun out _ after => Answered request.message out after) locals {} := by
    rintro locals _ result rfl whole
    rw [Routine.obeys_bind]
    exact addTurn_delivers rfl rfl ⟨rfl, rfl, rfl, whole⟩
  rw [chatFull, orServiceError, Routine.obeys_tryCatch]
  refine Routine.Obeys.mono (?_ : Routine.Obeys _ _ (fun out _ after => Answered request.message out after) _ _) ?_
  · rw [Routine.obeys_bind]
    refine (silent_load.keeps start rfl).mono ?_
    rintro out locals _ ⟨rfl, -, -⟩
    cases out with
    | error raised => exact failed raised
    | ok service =>
        simp only [Routine.resume_ok, Routine.obeys_bind]
        refine (silent_resolveIntent.keeps start rfl).mono ?_
        rintro out locals _ ⟨rfl, -, -⟩
        cases out with
        | error raised => exact failed raised
        | ok intent =>
            simp only [Routine.resume_ok, Routine.obeys_bind]
            refine (silent_switchMode.keeps start rfl).mono ?_
            rintro out locals _ ⟨rfl, -, -⟩
            cases out with
            | error raised => exact failed raised
            | ok activeMode =>
                simp only [Routine.resume_ok]
                rw [Routine.obeys_ite]
                refine ⟨fun _ => turned rfl (.inl rfl), fun _ => ?_⟩
                cases found : (AgentService.ofPydantic pydantic).handlers activeMode with
                | none => exact turned rfl (.inl rfl)
                | some handler =>
                    simp only [Routine.obeys_bind]
                    refine (silent_updateSessionState.keeps start rfl).mono ?_
                    rintro out locals _ ⟨rfl, -, -⟩
                    cases out with
                    | error raised => exact failed raised
                    | ok _ =>
                        simp only [Routine.resume_ok, Routine.obeys_bind]
                        refine (silent_handle.keeps start rfl).mono ?_
                        rintro out locals _ ⟨rfl, -, -⟩
                        cases out with
                        | error raised => exact failed raised
                        | ok answer => exact turned rfl (.inr ⟨answer, rfl, rfl, rfl⟩)
  · rintro out locals after answered
    cases out with
    | ok result => exact answered
    | error raised => cases raised <;> exact answered

/-! ## Streams -/

/-- Events have been sent, none of them the last one. -/
structure Forwarding (s : StreamLocals) (record : Record) : Prop where
  unanswered : record.response = none
  turns : record.turns = []
  going : ∀ event ∈ record.sent, event.isTrue "done" = false
  reply : s.assistantReply = joinTokens record.sent
  open_ : s.doneSent = false

/-- How the loop is left. -/
def Left (out : Except Raised Unit) (s : StreamLocals) (record : Record) : Prop :=
  record.response = none ∧ record.turns = [] ∧
    match out with
    | .error _ => ∀ event ∈ record.sent, event.isTrue "done" = false
    | .ok _ => s.assistantReply = joinTokens record.sent ∧
        if s.doneSent then ∃ before final, record.sent = before ++ [final] ∧ final.isTrue "done" = true ∧
          final ≠ streamFailedEvent ∧ ∀ event ∈ before, event.isTrue "done" = false
        else ∀ event ∈ record.sent, event.isTrue "done" = false

/-- An item has a mode, and the event of a failure has none. -/
theorem Tagged.not_failed {mode : Mode} {item : HandlerItem} {event : Dict} (tagged : Tagged mode item event) :
    event ≠ streamFailedEvent := by
  rintro rfl
  have found := sseData_lookup tagged "mode"
  cases found

theorem Forwarding.sound {s : StreamLocals} (forwarding : Forwarding s record) : record.Sound message :=
  .unanswered (.inl forwarding.turns) forwarding.unanswered

theorem forwardItems_delivers (items : List HandlerItem) (ending : Option Raised)
    (forwarding : Forwarding locals record) :
    (forwardItems items ending).Obeys (delivering message) (fun out s after => Left out s after) locals record := by
  induction items generalizing locals record with
  | nil =>
      obtain ⟨unanswered, turns, going, reply, open_⟩ := forwarding
      cases ending with
      | none =>
          refine ⟨unanswered, turns, reply, ?_⟩
          rw [open_, if_neg Bool.false_ne_true]
          exact going
      | some raised => exact ⟨unanswered, turns, going⟩
  | cons item rest ih =>
      rw [forwardItems, Routine.obeys_bind, Routine.obeys_modify, Routine.resume_ok, Routine.obeys_bind]
      refine load_delivers forwarding.sound forwarding.unanswered fun service => ?_
      obtain ⟨unanswered, turns, going, reply, open_⟩ := forwarding
      rw [Routine.resume_ok]
      cases encoded : sseData (labelled service.sessionState.activeMode item.toEvent) with
      | error raised => exact ⟨unanswered, turns, going⟩
      | ok event =>
          have tagged : Tagged service.sessionState.activeMode item event := encoded
          have longer : (locals.receive item.toEvent).assistantReply = joinTokens (record.sent ++ [event]) := by
            simp [StreamLocals.receive, reply, joinTokens, tagged.token]
          rw [constructed_ok, Routine.obeys_bind, Routine.obeys_pure, Routine.resume_ok, Routine.obeys_bind]
          refine emit_delivers (.unanswered (.inl turns) unanswered) unanswered ?_
          rw [Routine.resume_ok, Routine.obeys_ite]
          refine ⟨fun saysDone => ⟨unanswered, turns, longer, ?_⟩, fun goesOn => ?_⟩
          · exact ⟨record.sent, event, rfl, tagged.isTrue.trans saysDone, tagged.not_failed, going⟩
          · have later : Forwarding (locals.receive item.toEvent) { record with sent := record.sent ++ [event] } := by
              refine ⟨unanswered, turns, fun other member => ?_, longer, open_⟩
              rcases List.mem_append.mp member with earlier | last
              · exact going other earlier
              · obtain rfl := List.mem_singleton.mp last
                simpa [tagged.isTrue] using goesOn
            rw [Routine.obeys_bind]
            refine ((silent_suspended rfl).keeps later.sound unanswered).mono ?_
            rintro out _ _ ⟨rfl, rfl, -⟩
            cases out with
            | error raised => exact ⟨unanswered, turns, later.going⟩
            | ok _ => exact ih later

/-- The record of a request whose generator has come to its end. -/
def Drained (message : String) (out : Except Raised Unit) (after : Record) : Prop :=
  after.response = none ∧
    match out with
    | .ok _ => Response.streamed.Leaves message after.sent after.turns
    | .error _ => after.turns = []

theorem finishReply_delivers {s : StreamLocals} (left : Left (.ok ()) s record) :
    (finishReply message).Obeys (delivering message) (fun out _ after => out = .ok () ∧ Drained message out after) s
      record := by
  obtain ⟨unanswered, turns, reply, sent⟩ := left
  -- the last event, once the reply has been remembered
  have closes : ∀ turns, turns = replyTurns message (joinTokens record.sent) →
      (do
        if !s.doneSent then
          let service ← load
          emit (doneEvent service.sessionState.activeMode) : AgentM Unit).Obeys (delivering message)
        (fun out _ after => out = .ok () ∧ Drained message out after) s { record with turns } := by
    intro turns remembered
    have sound : Record.Sound message { record with turns } :=
      .unanswered (remembered ▸ replyTurns_atMostOne message _) unanswered
    cases done : s.doneSent with
    | true =>
        rw [done, if_pos rfl] at sent
        obtain ⟨before, final, same, saysDone, labelled, going⟩ := sent
        exact ⟨rfl, unanswered, before, final, same, saysDone, going, .inr ⟨labelled, remembered⟩⟩
    | false =>
        rw [done, if_neg Bool.false_ne_true] at sent
        simp only [Bool.not_false, if_true, Routine.obeys_bind]
        refine load_delivers sound unanswered fun service => ?_
        rw [Routine.resume_ok]
        have silent : tokenOf (doneEvent service.sessionState.activeMode) = "" := rfl
        have labelled : doneEvent service.sessionState.activeMode ≠ streamFailedEvent := by
          simp [doneEvent, streamFailedEvent]
        refine emit_delivers sound unanswered ?_
        refine ⟨rfl, unanswered, record.sent, _, rfl, rfl, sent, .inr ⟨labelled, ?_⟩⟩
        simpa [joinTokens, silent] using remembered
  rw [finishReply, Routine.obeys_bind, Routine.obeys_get, Routine.resume_ok]
  by_cases silent : s.assistantReply = ""
  · simp only [silent, ne_eq, not_true_eq_false, if_false]
    refine closes record.turns ?_
    rw [turns, replyTurns, ← reply, silent, if_pos rfl]
  · simp only [silent, ne_eq, not_false_eq_true, if_true, Routine.obeys_bind]
    refine addTurn_delivers unanswered turns (closes _ ?_)
    rw [replyTurns, ← reply, if_neg silent]

/-- The events of a handler are drained, or the last of them has been left out. -/
theorem answerEvents_delivers {handler : ModeHandler} {request : ChatCommand} {history : String}
    (streams : handler.streams = true) :
    (answerEvents handler request history).Obeys (delivering request.message)
      (fun out s after => (out = .ok () ∧ Drained request.message out after) ∨
        ∃ raised, out = .error raised ∧ Left (.error raised) s after) {} {} := by
  have start : Forwarding {} {} := ⟨rfl, rfl, fun event member => (by cases member), rfl, rfl⟩
  rw [answerEvents, streams]
  simp only [Bool.not_true, Bool.false_eq_true, if_false, Routine.obeys_bind]
  refine (silent_stream.keeps start.sound rfl).mono ?_
  rintro out _ _ ⟨rfl, rfl, -⟩
  cases out with
  | error raised => exact .inr ⟨raised, rfl, rfl, rfl, start.going⟩
  | ok outcome =>
      simp only [Routine.resume_ok, Routine.obeys_bind]
      refine (forwardItems_delivers outcome.items outcome.ending start).mono ?_
      rintro out s after left
      cases out with
      | error raised => exact .inr ⟨raised, rfl, left⟩
      | ok _ =>
          rw [Routine.resume_ok]
          refine (finishReply_delivers left).mono ?_
          rintro _ s after ⟨rfl, drained⟩
          exact .inl ⟨rfl, drained⟩

theorem streamHandlerResponse_delivers {handler : ModeHandler} {request : ChatCommand} {history : String}
    (streams : handler.streams = true) :
    (streamHandlerResponse handler request history).Obeys (delivering request.message)
      (fun out _ after => Drained request.message out after) {} {} := by
  rw [streamHandlerResponse, Routine.obeys_tryCatch]
  refine (answerEvents_delivers streams).mono ?_
  rintro out s after (⟨rfl, drained⟩ | ⟨raised, rfl, unanswered, turns, going⟩)
  · exact drained
  have sound : after.Sound request.message := .unanswered (.inl turns) unanswered
  have tells : (emit streamFailedEvent).Obeys (delivering request.message)
      (fun out _ after => Drained request.message out after) s after :=
    emit_delivers sound unanswered ⟨unanswered, after.sent, _, rfl, rfl, going, .inl ⟨rfl, turns⟩⟩
  rw [Routine.rescue_error]
  cases raised with
  | cancelled =>
      rw [Routine.obeys_bind]
      refine (silent_cancelActiveJob.keeps sound unanswered).mono ?_
      rintro out _ after ⟨rfl, -, -⟩
      cases out with
      | error raised => exact ⟨unanswered, turns⟩
      | ok _ => exact ⟨unanswered, turns⟩
  | api | exception => exact tells

theorem streamStaticResponse_delivers {mode : Mode} {response : String} (spoken : response ≠ "") :
    (streamStaticResponse message mode response).Obeys (delivering message) (fun out _ after => Drained message out after)
      locals {} := by
  have text : joinTokens [tokenEvent mode response, doneEvent mode] = response := by
    have first : tokenOf (tokenEvent mode response) = response := rfl
    have last : tokenOf (doneEvent mode) = "" := rfl
    simp [joinTokens, first, last]
  rw [streamStaticResponse, Routine.obeys_bind]
  refine addTurn_delivers rfl rfl ?_
  rw [Routine.resume_ok, Routine.obeys_bind]
  refine emit_delivers (.unanswered (.inr ⟨_, rfl⟩) rfl) rfl ?_
  rw [Routine.resume_ok]
  refine emit_delivers (.unanswered (.inr ⟨_, rfl⟩) rfl) rfl ?_
  refine ⟨rfl, [tokenEvent mode response], doneEvent mode, rfl, rfl, ?_, .inr ⟨?_, ?_⟩⟩
  · intro event member
    obtain rfl := List.mem_singleton.mp member
    rfl
  · simp [doneEvent, streamFailedEvent]
  · change [(⟨message, response⟩ : ConversationTurn)] = replyTurns message (joinTokens [_, _])
    rw [text, replyTurns, if_neg spoken]

/-! ## Requests -/

/-- The record of a request before it responds. -/
def Finished (message : String) (out : Except Raised Response) (after : Record) : Prop :=
  after.response = none ∧
    match out with
    | .ok response => response.Leaves message after.sent after.turns
    | .error _ => after.turns = []

theorem serve_delivers {pydantic : Pydantic} {request : Request} :
    (serve (.ofPydantic pydantic) request).Obeys (delivering request.command.message)
      (fun out _ after => Finished request.command.message out after) {} {} := by
  have start : ∀ message, ({} : Record).Sound message := fun message => .unanswered (.inl rfl) rfl
  cases request with
  | full command =>
      rw [serve, Routine.obeys_bind]
      refine ((silent_suspended rfl).keeps (start _) rfl).mono ?_
      rintro out _ _ ⟨rfl, rfl, -⟩
      cases out with
      | error raised => exact ⟨rfl, rfl⟩
      | ok _ =>
          rw [Routine.resume_ok, Routine.obeys_bind]
          refine chatFull_delivers.mono ?_
          rintro out locals after ⟨unsent, unanswered, turns⟩
          cases out with
          | error raised => exact ⟨unanswered, turns⟩
          | ok result => exact ⟨unanswered, unsent, turns⟩
  | stream command =>
      rw [serve, Routine.obeys_bind]
      refine ((silent_suspended rfl).keeps (start _) rfl).mono ?_
      rintro out _ _ ⟨rfl, rfl, -⟩
      cases out with
      | error raised => exact ⟨rfl, rfl⟩
      | ok _ =>
          rw [Routine.resume_ok, Routine.obeys_bind]
          refine (silent_chatStream.keeps (start _) rfl).mono ?_
          rintro out _ _ ⟨rfl, rfl, generates⟩
          cases out with
          | error raised => exact ⟨rfl, rfl⟩
          | ok generator =>
              rw [Routine.resume_ok, Routine.obeys_bind, drained, Routine.obeys_bind]
              refine ((silent_suspended rfl).keeps (start _) rfl).mono ?_
              rintro out _ _ ⟨rfl, rfl, -⟩
              cases out with
              | error raised => exact ⟨rfl, rfl⟩
              | ok _ =>
                  rw [Routine.resume_ok]
                  have drains : generator.Obeys (delivering command.message)
                      (fun out _ after => Drained command.message out after) {} {} := by
                    cases generates generator rfl with
                    | static spoken => exact streamStaticResponse_delivers spoken
                    | handled streams asked => exact asked ▸ streamHandlerResponse_delivers streams
                  refine drains.mono ?_
                  rintro out locals after ⟨unanswered, left⟩
                  cases out with
                  | ok _ => exact ⟨unanswered, left⟩
                  | error raised => exact ⟨unanswered, left⟩

theorem requestTask_delivers {pydantic : Pydantic} {request : Request} :
    (requestTask (.ofPydantic pydantic) request).Obeys (delivering request.command.message) (fun _ _ _ => True) {} {} := by
  have responds : ∀ {response : Response} {record : Record} {locals : StreamLocals}, record.response = none →
      response.Leaves request.command.message record.sent record.turns →
      (Routine.issue (S := agentSignature) (.respond response) : AgentM Unit).Obeys
        (delivering request.command.message) (fun _ _ _ => True) locals record := by
    intro response record locals unanswered leaves
    have noted : record.note (.respond response) = { record with response := some response } := by
      simp [Record.note, AgentCommand.sentEvent?, AgentCommand.turn?, AgentCommand.response?]
    refine fun _ => ⟨_, ⟨unanswered, noted.symm, leaves.atMostOne, ?_⟩, trivial⟩
    rintro _ ⟨⟩
    exact leaves
  rw [requestTask, Routine.obeys_bind, Routine.obeys_tryCatch]
  refine serve_delivers.mono ?_
  rintro out locals after ⟨unanswered, left⟩
  cases out with
  | ok response => exact responds unanswered left
  | error raised => exact responds unanswered left

end Delivering

/-! ## The memory -/

/-- The last turns of a memory and of those added to it since. -/
def Keeps (memory : ConversationMemory) (added : List ConversationTurn) (later : ConversationMemory) : Prop :=
  later = { memory with turns := ConversationMemory.lastTurns memory.maxTurns (memory.turns ++ added) }

section Memory

variable {memory later : ConversationMemory} {added : List ConversationTurn}

theorem lastTurns_all {turns : List ConversationTurn} {count : Nat} (few : turns.length ≤ count) :
    ConversationMemory.lastTurns count turns = turns := by
  unfold ConversationMemory.lastTurns
  split_ifs
  · rfl
  · rw [Nat.sub_eq_zero_of_le few, List.drop_zero]

theorem lastTurns_append {turns : List ConversationTurn} {turn : ConversationTurn} {count : Nat} (positive : 0 < count) :
    ConversationMemory.lastTurns count (ConversationMemory.lastTurns count turns ++ [turn]) =
      ConversationMemory.lastTurns count (turns ++ [turn]) := by
  simp only [ConversationMemory.lastTurns, if_neg positive.ne']
  rw [← List.drop_append_of_le_length (Nat.sub_le _ _), List.drop_drop]
  congr 1
  simp only [List.length_drop, List.length_append, List.length_singleton]
  omega

theorem keeps_nil (few : memory.turns.length ≤ memory.maxTurns) : Keeps memory [] memory := by
  rw [Keeps, List.append_nil, lastTurns_all few]

/-- A turn that is added takes the place of the oldest one, where there are enough. -/
theorem Keeps.addTurn (keeps : Keeps memory added later) (positive : 0 < memory.maxTurns) {turn : ConversationTurn} :
    Keeps memory (added ++ [turn]) (later.addTurn turn.userInput turn.assistantReply) := by
  obtain rfl := keeps
  rw [Keeps, ← List.append_assoc, ← lastTurns_append positive]
  unfold ConversationMemory.addTurn
  dsimp only
  split_ifs with many
  · rfl
  · rw [lastTurns_all (Nat.le_of_not_lt many)]

end Memory

/-! ## Runs -/

section Runs

variable {Party : Type} [DecidableEq Party]

/-- The commands a request has issued. -/
def commandsOf (trace : List (Label agentSignature Party)) (party : Party) : List AgentCommand :=
  trace.filterMap fun label => if label.party = party then some label.command else none

/-- The turns all requests have added, in order. -/
def turnsIn (trace : List (Label agentSignature Party)) : List ConversationTurn := addedTurns (trace.map Label.command)

@[simp] theorem commandsOf_append {trace : List (Label agentSignature Party)} {party other : Party}
    {command : AgentCommand} : commandsOf (trace ++ [⟨party, command⟩]) other =
      commandsOf trace other ++ if party = other then [command] else [] := by
  by_cases same : party = other <;> simp [commandsOf, same]

omit [DecidableEq Party] in
@[simp] theorem turnsIn_append {trace : List (Label agentSignature Party)} {party : Party} {command : AgentCommand} :
    turnsIn (trace ++ [⟨party, command⟩]) = turnsIn trace ++ command.turn?.toList := by
  cases turn : command.turn? <;> simp [turnsIn, addedTurns, turn]

/-- The memory holds the turns added so far, and each record what its request has done. -/
structure Recorded (requests : Party → Request) (memory : ConversationMemory)
    (trace : List (Label agentSignature Party)) (world : AgentWorld Party) (records : Party → Record) : Prop where
  memory : Keeps memory (turnsIn trace) world.service.memory
  sent : ∀ party, (records party).sent = sentEvents (commandsOf trace party)
  turns : ∀ party, (records party).turns = addedTurns (commandsOf trace party)
  response : ∀ party response, AgentCommand.respond response ∈ commandsOf trace party →
    (records party).response = some response
  sound : ∀ party, (records party).Sound (requests party).command.message

theorem Recorded.step {requests : Party → Request} {memory : ConversationMemory}
    {trace : List (Label agentSignature Party)} {world world' : AgentWorld Party} {records : Party → Record}
    {party : Party} {command : AgentCommand} {reply : command.Reply} {after : Record}
    (recorded : Recorded requests memory trace world records) (positive : 0 < memory.maxTurns)
    (move : delivering (requests party).command.message (records party) command reply after)
    (answered : AgentWorld.exec party command world = some (reply, world')) :
    Recorded requests memory (trace ++ [⟨party, command⟩]) world' (Function.update records party after) := by
  obtain ⟨unanswered, rfl, sound⟩ := move
  refine ⟨?_, fun other => ?_, fun other => ?_, fun other response member => ?_, fun other => ?_⟩
  · have before := recorded.memory
    rw [turnsIn_append]
    cases command with
    | addTurn userInput assistantReply =>
        cases answered
        exact before.addTurn positive
    | _ =>
        cases answered
        simp only [AgentCommand.turn?, Option.toList_none, List.append_nil]
        exact before
  · by_cases same : party = other
    · subst same
      cases event : command.sentEvent? <;> simp [Record.note, recorded.sent party, sentEvents, event]
    · simp [Function.update_of_ne (Ne.symm same), recorded.sent other, same]
  · by_cases same : party = other
    · subst same
      cases turn : command.turn? <;> simp [Record.note, recorded.turns party, addedTurns, turn]
    · simp [Function.update_of_ne (Ne.symm same), recorded.turns other, same]
  · by_cases same : party = other
    · subst same
      rw [Function.update_self]
      rw [commandsOf_append, if_pos rfl] at member
      rcases List.mem_append.mp member with earlier | now
      · cases unanswered.symm.trans (recorded.response party response earlier)
      · obtain rfl := List.mem_singleton.mp now
        rfl
    · rw [Function.update_of_ne (Ne.symm same)]
      refine recorded.response other response ?_
      simpa [same] using member
  · by_cases same : party = other
    · subst same
      simpa using sound
    · rw [Function.update_of_ne (Ne.symm same)]
      exact recorded.sound other

theorem recorded_run {pydantic : Pydantic} {requests : Party → Request} {world : AgentWorld Party}
    {guard : Guard agentSignature Party (AgentWorld Party)}
    {config : Config agentSignature Party (AgentWorld Party) (Except Raised Unit × StreamLocals)}
    (positive : 0 < world.service.memory.maxTurns)
    (few : world.service.memory.turns.length ≤ world.service.memory.maxTurns)
    (run : (agentMachine Party).Reach guard (atStart pydantic requests world) config) :
    ∃ records, Recorded requests world.service.memory config.trace config.world records := by
  have follows : (atStart pydantic requests world).Follows
      (fun party => delivering (requests party).command.message) (fun _ _ _ => True) fun _ => {} :=
    fun _ => requestTask_delivers
  have start : Recorded requests world.service.memory [] world fun _ => {} :=
    ⟨keeps_nil few, fun _ => rfl, fun _ => rfl, fun _ _ member => (by cases member), fun _ => .unanswered (.inl rfl) rfl⟩
  obtain ⟨records, -, recorded⟩ := run.invariant (Recorded requests world.service.memory)
    (fun _ _ _ _ _ _ _ _ recorded _ move answered => recorded.step positive move answered) follows start
  exact ⟨records, recorded⟩

/-- However requests run next to each other: the memory holds the last of their turns, none
    lost and none twice. A request adds at most one, of its own message, and when it is
    answered its turn is what it has been answered with: the full response, or the text of
    the events it has sent, where the last is none of a failure. -/
theorem replies_remembered {pydantic : Pydantic} {requests : Party → Request} {world : AgentWorld Party}
    {guard : Guard agentSignature Party (AgentWorld Party)}
    {config : Config agentSignature Party (AgentWorld Party) (Except Raised Unit × StreamLocals)}
    (positive : 0 < world.service.memory.maxTurns)
    (few : world.service.memory.turns.length ≤ world.service.memory.maxTurns)
    (run : (agentMachine Party).Reach guard (atStart pydantic requests world) config) :
    Keeps world.service.memory (turnsIn config.trace) config.world.service.memory ∧
      ∀ party,
        AtMostOne (requests party).command.message (addedTurns (commandsOf config.trace party)) ∧
        ∀ response, AgentCommand.respond response ∈ commandsOf config.trace party →
          response.Leaves (requests party).command.message (sentEvents (commandsOf config.trace party))
            (addedTurns (commandsOf config.trace party)) := by
  obtain ⟨records, recorded⟩ := recorded_run positive few run
  refine ⟨recorded.memory, fun party => ⟨?_, fun response member => ?_⟩⟩
  · rw [← recorded.turns]
    exact (recorded.sound party).turns
  · rw [← recorded.turns, ← recorded.sent]
    exact (recorded.sound party).response response (recorded.response party response member)

/-- A translation is streamed while a definition is asked for in full. -/
theorem replies_remembered_demo :
    ∃ config, (agentMachine Bool).Reach eventLoop
        (atStart demoPydantic (demoRequests "learning") (demoWorld Bool)) config ∧
      turnsIn config.trace = [⟨"recursion", "bonjour"⟩, ⟨"hello", "bonjour"⟩] ∧
      Keeps {} (turnsIn config.trace) config.world.service.memory := by
  obtain ⟨config, run, turns⟩ := Machine.schedule_observed (agentMachine Bool) eventLoop
    (List.replicate 17 false ++ List.replicate 15 true ++ List.replicate 13 false)
    (atStart demoPydantic (demoRequests "learning") (demoWorld Bool))
    (fun d => turnsIn d.trace) [⟨"recursion", "bonjour"⟩, ⟨"hello", "bonjour"⟩] (by decide +kernel)
  exact ⟨config, run, turns, (replies_remembered (by decide) (by decide) run).1⟩

end Runs

end LanguageAgent.Agent
