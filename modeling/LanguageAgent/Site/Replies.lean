import LanguageAgent.Agent.Turns
import LanguageAgent.Api.Chat
import LanguageAgent.Site.System
import LanguageAgent.Webui.ChatRequests
import LanguageAgent.Webui.FullReplies
import LanguageAgent.Webui.WholeReplies

/-! # What is shown and what is remembered

Requests of the Web UI to one agent service, in any order of their steps, and what the chat
displays of their replies.
-/

namespace LanguageAgent.Site

open Agent Api Gateway Interleaving Queue Webui Webui.Client

/-! ## Requests of the Web UI -/

theorem chatCommand_payload (sent : ChatSent) : (chatCommand sent.payload).message = sent.message := by
  obtain ⟨stream, message, mode⟩ := sent
  cases mode <;> cases stream <;> rfl

section Routes

variable {auth : AuthConfig} {describe : List String → String → Dict} {strOf : StrOf} {key : String} {sent : ChatSent}
  {request : Request}

/-- What the routes make of a request of the Web UI. -/
def routed (auth : AuthConfig) (describe : List String → String → Dict) (strOf : StrOf) (key : String)
    (sent : ChatSent) : Except JSONResponse Request :=
  if sent.stream then Api.chatStream auth describe strOf (some key) (.obj sent.payload)
  else Api.chatFull auth describe strOf (some key) (.obj sent.payload)

/-- What the agent service is asked. -/
def asked (sent : ChatSent) : Request :=
  if sent.stream then .stream (chatCommand sent.payload) else .full (chatCommand sent.payload)

theorem routed_ok (accepted : routed auth describe strOf key sent = .ok request) : request = asked sent := by
  have handed : ∀ {fields : List RequestField} {route : ChatCommand → Request},
      chatRoute auth describe strOf fields route (some key) (.obj sent.payload) = .ok request →
        request = route (chatCommand sent.payload) := by
    intro fields route accepted
    unfold chatRoute at accepted
    split at accepted
    · cases accepted
    · split at accepted
      · cases accepted
      · rename_i valid
        obtain ⟨same, -⟩ := validateBody_ok valid
        cases same
        exact (Except.ok.inj accepted).symm
  unfold routed at accepted
  unfold asked
  split_ifs at accepted ⊢
  · exact handed accepted
  · exact handed accepted

theorem routed_message (accepted : routed auth describe strOf key sent = .ok request) :
    request.command.message = sent.message := by
  rw [routed_ok accepted, asked]
  split <;> exact chatCommand_payload sent

/-- With an accepted key the routes hand over whatever is valid. -/
theorem routed_valid {ui : UiSettings} (valid : sent.Valid ui) (accepted : auth.Accepts key) :
    routed auth describe strOf key sent = .ok (asked sent) := by
  have body := valid.accepted describe
  have letIn := validateApiKey_ok.mpr accepted
  unfold ChatSent.fields at body
  cases stream : sent.stream <;> simp_all [routed, asked, Api.chatStream, Api.chatFull, chatRoute]

end Routes

/-! ## Streams -/

section Events

variable {before events : List Dict} {final : Dict}

/-- What is displayed of a reply begins it. -/
theorem tokensOf_begins (events : List Dict) : ∃ later, joinTokens events = tokensOf events ++ later := by
  induction events with
  | nil => exact ⟨"", rfl⟩
  | cons event rest ih =>
      rw [tokensOf, processed, joinTokens_cons]
      split_ifs
      · exact ⟨_, String.empty_append.symm⟩
      · exact ⟨joinTokens rest, by simp [tokenOf]⟩
      · obtain ⟨later, same⟩ := ih
        refine ⟨later, ?_⟩
        rw [same, List.map_cons, String.join_cons, String.append_assoc]
        rfl

/-- Where nothing interrupts the events, all of them are displayed. -/
theorem tokensOf_uninterrupted (going : ∀ event ∈ before, event.isTrue "done" = false)
    (uninterrupted : interruption? (before ++ [final]) = none) :
    tokensOf (before ++ [final]) = joinTokens (before ++ [final]) ∧ interruptionOf? final = none := by
  induction before with
  | nil =>
      cases interrupts : interruptionOf? final with
      | some text => simp [interruption?, interrupts] at uninterrupted
      | none =>
          have quiet := interruptionOf?_none.mp interrupts
          refine ⟨?_, rfl⟩
          simp [tokensOf, processed, quiet, joinTokens, tokenOf]
  | cons event rest ih =>
      have goes := going event List.mem_cons_self
      rw [List.cons_append, interruption?] at uninterrupted
      cases interrupts : interruptionOf? event with
      | some text => simp [interrupts] at uninterrupted
      | none =>
          have quiet := interruptionOf?_none.mp interrupts
          simp only [interrupts, goes, Bool.false_eq_true, if_false] at uninterrupted
          obtain ⟨same, last⟩ := ih (fun other member => going other (List.mem_cons_of_mem _ member)) uninterrupted
          refine ⟨?_, last⟩
          rw [List.cons_append, joinTokens_cons, ← same, tokensOf, processed]
          simp only [quiet, goes, Bool.false_eq_true, if_false, List.map_cons, String.join_cons]
          rfl

end Events

/-- What becomes of a reply that is streamed in full: what is displayed, and the turn that is
    remembered. -/
inductive Streamed (message : String) (events : List Dict) (turns : List ConversationTurn) (full : ClientM Dict)
    (selectedMode : String) (shown : ClientM Unit × Chat) : Prop where
  /-- It is displayed as it is remembered. -/
  | complete {chat} (text : joinTokens events ≠ "") (remembered : turns = [⟨message, joinTokens events⟩])
      (displayed : shown = (.ok (), chat)) (alone : chat.Displays .response (joinTokens events))
  /-- What is displayed ends with what has interrupted it. If it is remembered it is with what
      is displayed of it, and what may have come after. -/
  | interrupted {text chat} (interrupts : interruption? events = some text) (displayed : shown = (.ok (), chat))
      (alone : chat.Displays (remaining (tokensOf events)) (displayedText events))
      (remembered : turns = [] ∨ ∃ later, turns = [⟨message, tokensOf events ++ later⟩])
  /-- It has no text: nothing is remembered, and the Web UI asks again. -/
  | silent {chat} (wordless : joinTokens events = "") (nothing : turns = [])
      (asks : shown = sendFullBackendResponse message selectedMode full chat) (waiting : chat.ShowsOnly .status)

theorem streamed_reply {message : String} {events : List Dict} {turns : List ConversationTurn}
    (leaves : Agent.Response.streamed.Leaves message events turns) {library : JsonLibrary} {apiKey : String}
    (sends : authHeaders apiKey = .ok ()) (held : ∀ event ∈ events, library.Holds (.obj event)) (strOf : StrOf)
    (selectedMode status : String) (apiMode : Option String) (full : ClientM Dict) :
    Streamed message events turns full selectedMode (streamBackendResponse strOf message selectedMode status apiMode
      (Client.chatStream library.loads apiKey (.response 200 (events.flatMap (sseData library.floats))) none) full) := by
  rw [chatStream_frames sends held]
  obtain ⟨before, final, rfl, done, going, ended⟩ := leaves
  have closed : (before ++ [final]).any (·.isTrue "done") = true := by simp [done]
  cases interrupts : interruption? (before ++ [final]) with
  | some text =>
      obtain ⟨chat, displayed, alone⟩ := @streamBackendResponse_displays strOf message selectedMode status apiMode
        (before ++ [final]) full fun uninterrupted => by cases interrupts.symm.trans uninterrupted
      refine .interrupted interrupts displayed alone ?_
      rcases ended with ⟨-, nothing⟩ | ⟨-, remembered⟩
      · exact .inl nothing
      · rw [remembered, replyTurns]
        split_ifs
        · exact .inl rfl
        · obtain ⟨later, same⟩ := tokensOf_begins (before ++ [final])
          exact .inr ⟨later, by rw [same]⟩
  | none =>
      obtain ⟨same, quiet⟩ := tokensOf_uninterrupted going interrupts
      have remembered : turns = replyTurns message (joinTokens (before ++ [final])) := by
        rcases ended with ⟨rfl, -⟩ | ⟨-, remembered⟩
        · cases quiet
        · exact remembered
      by_cases silent : joinTokens (before ++ [final]) = ""
      · rw [replyTurns, if_pos silent] at remembered
        obtain ⟨chat, asks, waiting⟩ := @streamBackendResponse_full strOf message selectedMode status apiMode
          (before ++ [final]) full interrupts (same.trans silent)
        exact .silent silent remembered asks waiting
      · rw [replyTurns, if_neg silent] at remembered
        have spoken : tokensOf (before ++ [final]) ≠ "" := same ▸ silent
        obtain ⟨chat, displayed, alone⟩ := @streamBackendResponse_displays strOf message selectedMode status apiMode
          (before ++ [final]) full fun _ => ⟨spoken, closed⟩
        have response : remaining (tokensOf (before ++ [final])) = .response := if_neg spoken
        rw [displayedText, interrupts, response, same] at alone
        exact .complete silent remembered displayed alone

/-- The API checks the key of the Web UI. -/
def someAuth : AuthConfig := { enabled := true, apiKey := some "key" }

/-- A translation, streamed. -/
def streamedHello : ChatSent := ⟨true, "hello", some "translation"⟩

/-- A lesson, in full. -/
def learnsHello : ChatSent := ⟨false, "hello", some "learning"⟩

theorem routed_streamedHello :
    routed someAuth (fun _ _ => []) someUi.strOf "key" streamedHello = .ok (asked streamedHello) :=
  @routed_valid someAuth (fun _ _ => []) someUi.strOf "key" streamedHello someUi
    ⟨by decide, by decide, by decide, fun _ => ⟨rfl, by decide⟩⟩ (.inr ⟨rfl, by decide, by decide⟩)

theorem routed_learnsHello :
    routed someAuth (fun _ _ => []) someUi.strOf "key" learnsHello = .ok (asked learnsHello) :=
  @routed_valid someAuth (fun _ _ => []) someUi.strOf "key" learnsHello someUi
    ⟨by decide, by decide, by decide, fun streams => by cases streams⟩ (.inr ⟨rfl, by decide, by decide⟩)

section Runs

variable {Party : Type} [DecidableEq Party] {pydantic : Pydantic} {requests : Party → Request}
  {world : AgentWorld Party} {guard : Guard agentSignature Party (AgentWorld Party)}
  {config : Config agentSignature Party (AgentWorld Party) (Except Raised Unit × StreamLocals)} {party : Party}
  {auth : AuthConfig} {describe : List String → String → Dict} {strOf : StrOf} {key : String} {sent : ChatSent}
  {library : JsonLibrary} {response : Agent.Response}

/-- What a request that is answered leaves, by what the Web UI has sent. -/
theorem answered_leaves (positive : 0 < world.service.memory.maxTurns)
    (few : world.service.memory.turns.length ≤ world.service.memory.maxTurns)
    (run : (agentMachine Party).Reach guard (atStart pydantic requests world) config)
    (accepted : routed auth describe strOf key sent = .ok (requests party))
    (responded : AgentCommand.respond response ∈ commandsOf config.trace party) :
    response.Leaves sent.message (sentEvents (commandsOf config.trace party))
      (addedTurns (commandsOf config.trace party)) := by
  obtain ⟨records, recorded⟩ := recorded_run positive few run
  have leaves := (recorded.sound party).response _ (recorded.response party _ responded)
  rwa [recorded.turns, recorded.sent, routed_message accepted] at leaves

/-- A reply that has been streamed to its end and arrives is shown and remembered alike. -/
theorem streamed_reply_shown (positive : 0 < world.service.memory.maxTurns)
    (few : world.service.memory.turns.length ≤ world.service.memory.maxTurns)
    (run : (agentMachine Party).Reach guard (atStart pydantic requests world) config)
    (accepted : routed auth describe strOf key sent = .ok (requests party)) (sends : authHeaders key = .ok ())
    (responded : AgentCommand.respond .streamed ∈ commandsOf config.trace party)
    (held : ∀ event ∈ sentEvents (commandsOf config.trace party), library.Holds (.obj event))
    (selectedMode status : String) (full : ClientM Dict) :
    ∃ exchange, chatExchange library strOf (sentEvents (commandsOf config.trace party)) .streamed = some exchange ∧
      Streamed sent.message (sentEvents (commandsOf config.trace party)) (addedTurns (commandsOf config.trace party)) full
        selectedMode (streamBackendResponse strOf sent.message selectedMode status sent.mode
          (Client.chatStream library.loads key exchange none) full) :=
  ⟨_, rfl, streamed_reply (answered_leaves positive few run accepted responded) sends held strOf selectedMode status
    sent.mode full⟩

theorem streamed_reply_shown_hello : ∃ commands exchange,
    sentEvents commands = [tokenEvent .translation "bon", tokenEvent .translation "jour", doneEvent .translation] ∧
      Streamed "hello" (sentEvents commands) (addedTurns commands) (.ok []) "translation"
        (streamBackendResponse someUi.strOf "hello" "translation" "" (some "translation")
          (Client.chatStream plainLibrary.loads "key" exchange none) (.ok [])) := by
  have completes : (agentMachine Unit).alone () (requestTask demoAgent (asked streamedHello) {}) (demoWorld Unit) =
    some _ := rfl
  have run : (agentMachine Unit).Reach Machine.anyStep
      (atStart demoPydantic (fun _ => asked streamedHello) (demoWorld Unit)) _ :=
    Machine.alone_reach (fun _ _ _ => trivial) rfl completes
  have held : ∀ event ∈ [tokenEvent .translation "bon", tokenEvent .translation "jour", doneEvent .translation],
      plainLibrary.Holds (.obj event) := by
    simp [JsonLibrary.Holds, plainLibrary, tokenEvent, doneEvent, Json.Held, Json.HeldFields]
  have shown := @streamed_reply_shown Unit _ demoPydantic (fun _ => asked streamedHello) (demoWorld Unit)
    Machine.anyStep _ () someAuth _ someUi.strOf "key" streamedHello plainLibrary (by decide) (by decide) run
    routed_streamedHello rfl (List.mem_of_getLast? rfl)
  obtain ⟨exchange, -, streamed⟩ := shown held "translation" "" (.ok [])
  exact ⟨_, exchange, rfl, streamed⟩

theorem ofStatus_waits (status : String) : (Chat.ofStatus status).ShowsOnly .status := streams_start.one

/-- A full answer that arrives is read as the agent service has made it. The chat displays it
    in place of the status where it has a text, and that contains what is remembered, or what
    has been translated; an answer without data is displayed as it is remembered. -/
theorem full_reply_shown {result : ChatResult} (positive : 0 < world.service.memory.maxTurns)
    (few : world.service.memory.turns.length ≤ world.service.memory.maxTurns)
    (run : (agentMachine Party).Reach guard (atStart pydantic requests world) config)
    (accepted : routed auth describe strOf key sent = .ok (requests party)) (sends : authHeaders key = .ok ())
    (responded : AgentCommand.respond (.full result) ∈ commandsOf config.trace party)
    (held : library.Holds (.obj (chatResponseFromResult result))) (selectedMode status : String) :
    ∃ exchange, chatExchange library strOf (sentEvents (commandsOf config.trace party)) (.full result) = some exchange ∧
      Client.chatFull library.loads key exchange = .ok (chatResponseFromResult result) ∧
      addedTurns (commandsOf config.trace party) = [⟨sent.message, result.response⟩] ∧
      (Python.stripText result.response ≠ "" → ∃ chat text,
        sendFullBackendResponse sent.message selectedMode (Client.chatFull library.loads key exchange)
          (Chat.ofStatus status) = (.ok (), chat) ∧
        chat.Displays .status text ∧ headline result ≠ "" ∧ Renderer.Contains text (headline result) ∧
        (result.data = none → text = result.response)) := by
  obtain ⟨-, turns, whole⟩ := answered_leaves positive few run accepted responded
  refine ⟨_, rfl, ?_, turns, fun some_ => ?_⟩
  all_goals
    have read : Client.chatFull library.loads key (JSONResponse.exchange library.render
        { statusCode := 200, content := .obj (chatResponseFromResult result) }) = .ok (chatResponseFromResult result) := by
      have loaded := JsonLibrary.loads_render held
      rw [Client.chatFull, JSONResponse.exchange, exchanged_response sends]
      simp only [jsonResponse, raiseForError]
      rw [loaded]
      rfl
  · exact read
  · have contains := renderChatResponse_contains whole some_
    have spoken := headline_some some_
    have displayed : Renderer.renderChatResponse (chatResponseFromResult result) ≠ "" := by
      intro none
      rw [none] at contains
      exact spoken (String.toList_eq_nil_iff.mp (List.infix_nil.mp contains))
    rw [read]
    obtain ⟨chat, sends, displays⟩ :=
      @sendFullBackendResponse_displays _ sent.message selectedMode (ofStatus_waits status) _ displayed
    exact ⟨chat, _, sends, displays, spoken, contains, fun plain => renderChatResponse_plain plain some_⟩

/-- What it is answered with. -/
def lesson : ChatResult where
  mode := .learning
  response := "bonjour"
  intent := { mode := .learning, confidence := .high, shouldSwitchMode := true, reason := "Mode supplied by API request." }
  data := some (ModeResponse.modelDump (.learning { response := "bonjour" }))
  metadata := { sessionId := (chatCommand learnsHello.payload).metadata.bind RequestMetadata.sessionId }

theorem lesson_holds : plainLibrary.Holds (.obj (chatResponseFromResult lesson)) := by
  simp only [JsonLibrary.Holds, plainLibrary, chatResponseFromResult, intentDump, lesson, ModeResponse.modelDump,
    Json.Held, Json.HeldFields, and_true, true_and]
  exact ⟨by decide, by decide, ⟨by decide, trivial, trivial, trivial, trivial⟩, by decide, trivial⟩

theorem full_reply_shown_lesson : ∃ commands exchange,
    AgentCommand.respond (.full lesson) ∈ commands ∧
      Client.chatFull plainLibrary.loads "key" exchange = .ok (chatResponseFromResult lesson) ∧
      addedTurns commands = [⟨"hello", "bonjour"⟩] := by
  have completes : (agentMachine Unit).alone () (requestTask demoAgent (asked learnsHello) {}) (demoWorld Unit) =
    some _ := rfl
  have run : (agentMachine Unit).Reach Machine.anyStep
      (atStart demoPydantic (fun _ => asked learnsHello) (demoWorld Unit)) _ :=
    Machine.alone_reach (fun _ _ _ => trivial) rfl completes
  have shown := @full_reply_shown Unit _ demoPydantic (fun _ => asked learnsHello) (demoWorld Unit)
    Machine.anyStep _ () someAuth _ someUi.strOf "key" learnsHello plainLibrary lesson (by decide) (by decide) run
    routed_learnsHello rfl (List.mem_of_getLast? rfl)
  obtain ⟨exchange, -, read, turns, -⟩ := shown lesson_holds "learning" ""
  exact ⟨_, exchange, List.mem_of_getLast? rfl, read, turns⟩

/-- A request that has failed leaves nothing in the memory, and its error is read back as it
    was raised. A full answer displays that error in place of the status, and a streamed one
    that there was none. -/
theorem failed_reply_shown {error : APIError} (positive : 0 < world.service.memory.maxTurns)
    (few : world.service.memory.turns.length ≤ world.service.memory.maxTurns)
    (run : (agentMachine Party).Reach guard (atStart pydantic requests world) config)
    (accepted : routed auth describe strOf key sent = .ok (requests party)) (sends : authHeaders key = .ok ())
    (responded : AgentCommand.respond (.failed (.api error)) ∈ commandsOf config.trace party)
    (fails : isError error.statusCode = true) (nested : 0 < library.depth) (selectedMode status : String) (full : ClientM Dict) :
    ∃ exchange refused,
      chatExchange library strOf (sentEvents (commandsOf config.trace party)) (.failed (.api error)) = some exchange ∧
      refused = clientError [] error.statusCode error.error error.message ∧
      addedTurns (commandsOf config.trace party) = [] ∧
      (∃ chat, sendFullBackendResponse sent.message selectedMode (Client.chatFull library.loads key exchange)
          (Chat.ofStatus status) = (.error (.client refused), chat) ∧
        (chat.failed sent.message selectedMode refused).Displays .status (formatUiError refused)) ∧
      ∃ chat, streamBackendResponse strOf sent.message selectedMode status sent.mode
          (Client.chatStream library.loads key exchange none) full = (.ok (), chat) ∧
        chat.Displays .status (formatUiError (.stream "")) := by
  have nothing : addedTurns (commandsOf config.trace party) = [] := answered_leaves positive few run accepted responded
  have loaded := JsonLibrary.loads_render (@errorContent_held library error.error error.message nested)
  refine ⟨_, _, rfl, rfl, nothing, ?_, ?_⟩
  · have read : Client.chatFull library.loads key ((Failure.api { toAPIError := error }).response strOf |>.exchange
        library.render) = .error (.client (clientError [] error.statusCode error.error error.message)) := by
      rw [Client.chatFull, JSONResponse.exchange, exchanged_response sends]
      exact jsonResponse_errorContent fails loaded
    rw [read]
    exact ⟨_, rfl, (ofStatus_waits status).becomes .chatFull fun _ => rfl⟩
  · have refused : Client.chatStream library.loads key ((Failure.api { toAPIError := error }).response strOf |>.exchange
        library.render) none = (.error (.client (clientError [] error.statusCode error.error error.message)), []) := by
      simp only [Client.chatStream, sends, JSONResponse.exchange, Failure.response, apiErrorHandler,
        errorResponse, fails, if_true]
      rw [raiseForError_errorContent fails loaded]
    rw [refused]
    refine ⟨_, rfl, ?_⟩
    have waits : (startStream status sent.mode).chat.ShowsOnly .status := streams_start.one
    refine Chat.ShowsOnly.displays (waits.edit fun _ => rfl) ?_
    rw [Chat.edit_message]
    rfl

/-- The model answers no question. -/
def timedOutWorld : AgentWorld Unit :=
  { demoWorld Unit with backend := { demoBackend Unit with ask := fun _ _ => .error (.api queueWaitTimeoutError) } }

/-- Before a stream has begun the model has been asked for the translator's state. -/
theorem failed_reply_shown_timeout : ∃ commands exchange chat,
    AgentCommand.respond (.failed (.api queueWaitTimeoutError)) ∈ commands ∧ addedTurns commands = [] ∧
      streamBackendResponse someUi.strOf "hello" "translation" "" (some "translation")
        (Client.chatStream plainLibrary.loads "key" exchange none) (.ok []) = (.ok (), chat) ∧
      chat.Displays .status (formatUiError (.stream "")) := by
  have completes : (agentMachine Unit).alone () (requestTask demoAgent (asked streamedHello) {}) timedOutWorld =
    some _ := rfl
  have run : (agentMachine Unit).Reach Machine.anyStep
      (atStart demoPydantic (fun _ => asked streamedHello) timedOutWorld) _ :=
    Machine.alone_reach (fun _ _ _ => trivial) rfl completes
  have shown := @failed_reply_shown Unit _ demoPydantic (fun _ => asked streamedHello) timedOutWorld
    Machine.anyStep _ () someAuth _ someUi.strOf "key" streamedHello plainLibrary queueWaitTimeoutError (by decide)
    (by decide) run routed_streamedHello rfl (List.mem_of_getLast? rfl) (by decide) (by decide) "translation" ""
  obtain ⟨exchange, -, -, -, nothing, -, chat, streams, displays⟩ := shown (.ok [])
  exact ⟨_, exchange, chat, List.mem_of_getLast? rfl, nothing, streams, displays⟩

end Runs

end LanguageAgent.Site
