import LanguageAgent.Agent.Commands

/-! # The agent service

`chat_full` and `chat_stream` with the intent router and the mode handlers they call.
-/

namespace LanguageAgent.Agent

open Gateway Interleaving Queue

/-- The locals of a generator that its exception handlers read. -/
structure StreamLocals where
  activeJobId : Option String := none
  assistantReply : String := ""
  doneSent : Bool := false

abbrev AgentM := Routine agentSignature Raised StreamLocals

/-! ## Shared objects and suspensions -/

def load : AgentM Service := Routine.issue (S := agentSignature) .load

def addTurn (userInput assistantReply : String) : AgentM Unit :=
  Routine.issue (S := agentSignature) (.addTurn userInput assistantReply)

def suspended (suspension : Suspension) : AgentM suspension.Reply := do
  Routine.issue (S := agentSignature) (.suspend suspension)
  Routine.issue (S := agentSignature) (.resume suspension)

/-- The value, or the exception raised instead. -/
def orRaise {α : Type} : Except Raised α → AgentM α
  | .ok value => pure value
  | .error error => throw error

/-- What a pydantic model makes of its fields: the object or a `ValidationError`. -/
def constructed {α : Type} : Except PyError α → AgentM α
  | .ok value => pure value
  | .error error => throw (.exception error)

@[simp] theorem orRaise_ok {α : Type} {value : α} : orRaise (.ok value) = pure value := rfl

@[simp] theorem orRaise_error {α : Type} {error : Raised} :
    (orRaise (.error error) : AgentM α) = throw error := rfl

@[simp] theorem constructed_ok {α : Type} {value : α} : constructed (.ok value) = pure value := rfl

@[simp] theorem constructed_error {α : Type} {error : PyError} :
    (constructed (.error error) : AgentM α) = throw (.exception error) := rfl

/-- `llm_service.ask_llm` -/
def askLlm (prompt : Prompt) : AgentM Dict := do
  orRaise (← suspended (.askLlm prompt))

/-! ## Mode handlers -/

/-- The classes pydantic validates the model's answers with. -/
structure Pydantic where
  intentResult : Dict → Except PyError IntentResult
  translationModeState : Dict → Except PyError TranslationModeState
  definitionModeState : Dict → Except PyError DefinitionModeState
  learningModeState : Dict → Except PyError LearningModeState
  translationResponse : Dict → Except PyError TranslationResponse
  definitionResponse : Dict → Except PyError DefinitionResponse
  learningResponse : Dict → Except PyError LearningResponse

/-- A `ModeHandler`; its answers are of its own mode. -/
structure ModeHandler where
  mode : Mode
  modeState : SessionState → ModeState
  newModeState : Dict → Except PyError ModeState
  newResponse : Dict → Except PyError ModeResponse
  ofMode : ∀ response answer, newResponse response = .ok answer → answer.mode = mode
  /-- `hasattr(handler, "stream")` -/
  streams : Bool := true

section Handlers

variable (pydantic : Pydantic)

def TranslationHandler : ModeHandler where
  mode := .translation
  modeState session := .translation session.translation
  newModeState response := (pydantic.translationModeState response).map .translation
  newResponse response := (pydantic.translationResponse response).map .translation
  ofMode response answer made := by
    cases validated : pydantic.translationResponse response with
    | error => rw [validated] at made; cases made
    | ok => rw [validated] at made; cases made; rfl

def DefinitionHandler : ModeHandler where
  mode := .definition
  modeState session := .definition session.definition
  newModeState response := (pydantic.definitionModeState response).map .definition
  newResponse response := (pydantic.definitionResponse response).map .definition
  ofMode response answer made := by
    cases validated : pydantic.definitionResponse response with
    | error => rw [validated] at made; cases made
    | ok => rw [validated] at made; cases made; rfl

def LearningHandler : ModeHandler where
  mode := .learning
  modeState session := .learning session.learning
  newModeState response := (pydantic.learningModeState response).map .learning
  newResponse response := (pydantic.learningResponse response).map .learning
  ofMode response answer made := by
    cases validated : pydantic.learningResponse response with
    | error => rw [validated] at made; cases made
    | ok => rw [validated] at made; cases made; rfl

end Handlers

namespace ModeHandler

variable (handler : ModeHandler)

/-- The task prompt of `handle` and of `stream`. -/
def taskPrompt (session : SessionState) (userInput conversationHistory : String) : Prompt :=
  .modeTask userInput conversationHistory (handler.modeState session)

def updateSessionState (userInput conversationHistory : String) : AgentM Unit := do
  let service ← load
  let response ← askLlm (.stateUpdateTask userInput conversationHistory (handler.modeState service.sessionState))
  let state ← constructed (handler.newModeState response)
  Routine.issue (S := agentSignature) (.setModeState state)

def handle (userInput conversationHistory : String) : AgentM ModeResponse := do
  let service ← load
  let response ← askLlm (handler.taskPrompt service.sessionState userInput conversationHistory)
  constructed (handler.newResponse response)

/-- `handler.stream`, up to its first item. -/
def stream (userInput conversationHistory : String) : AgentM StreamOutcome := do
  let service ← load
  suspended (.streamLlm (handler.taskPrompt service.sessionState userInput conversationHistory))

end ModeHandler

/-- What does not change about an `AgentService`: its handlers by mode, and the classes
    behind its router. -/
structure AgentService where
  pydantic : Pydantic
  handlers : Mode → Option ModeHandler
  wired : ∀ mode handler, handlers mode = some handler → handler.mode = mode

/-- `AgentService.__init__` -/
def AgentService.ofPydantic (pydantic : Pydantic) : AgentService where
  pydantic := pydantic
  handlers
    | .translation => some (TranslationHandler pydantic)
    | .definition => some (DefinitionHandler pydantic)
    | .learning => some (LearningHandler pydantic)
    | .general => none
  wired mode handler found := by cases mode <;> cases found <;> rfl

/-- Only the general mode has no handler. -/
theorem AgentService.ofPydantic_none {pydantic : Pydantic} {mode : Mode} :
    (AgentService.ofPydantic pydantic).handlers mode = none ↔ mode = .general := by
  cases mode <;> simp [AgentService.ofPydantic]

theorem AgentService.ofPydantic_streams {pydantic : Pydantic} {mode : Mode} {handler : ModeHandler}
    (found : (AgentService.ofPydantic pydantic).handlers mode = some handler) : handler.streams = true := by
  cases mode <;> cases found <;> rfl

/-! ## Intents -/

def generalResponse : String :=
  "I can help with translation, definitions, or language learning. Which would you like?"

/-- `IntentRouter.classify` -/
def classify (pydantic : Pydantic) (userInput conversationHistory : String) : AgentM IntentResult := do
  let service ← load
  let response ← askLlm (.intentTask service.sessionState.activeMode conversationHistory userInput)
  constructed (pydantic.intentResult response)

def unknownMode : PyError :=
  { className := "ValidationError"
    message := "Input should be 'translation', 'definition', 'learning' or 'general'"
    valueTypeOrKey := true }

/-- `_resolve_intent` -/
def resolveIntent (pydantic : Pydantic) (request : ChatCommand) (history : String) : AgentM IntentResult :=
  match request.mode with
  | some mode =>
      match Mode.ofText? mode with
      | some mode => pure
          { mode := mode, confidence := .high, shouldSwitchMode := true
            reason := "Mode supplied by API request." }
      | none => throw (.exception unknownMode)
  | none => classify pydantic request.message history

/-- `self.router.apply_intent`, and the mode that is active then. -/
def switchMode (intent : IntentResult) : AgentM Mode := do
  Routine.issue (S := agentSignature) (.applyIntent intent)
  let service ← load
  Routine.issue (S := agentSignature) (.logActiveMode service.sessionState.activeMode)
  pure service.sessionState.activeMode

/-- The two `except` clauses of `chat_full` and of `chat_stream`. -/
def orServiceError {α : Type} (message : String) (attempt : AgentM α) : AgentM α :=
  tryCatch attempt fun error =>
    match error with
    | .exception _ => throw (.api (llmServiceError message))
    | error => throw error

/-! ## Full answers -/

def toChatResult (answer : ModeResponse) (intent : IntentResult) (metadata : ResponseMetadata) : ChatResult where
  mode := answer.mode
  response := answer.response
  intent := intent
  data := some answer.modelDump
  metadata := metadata

variable (agent : AgentService)

def chatFull (request : ChatCommand) : AgentM ChatResult :=
  orServiceError "The language model failed while generating a response." do
    let history := (← load).memory.formatForPrompt
    let intent ← resolveIntent agent.pydantic request history
    let activeMode ← switchMode intent
    let metadata : ResponseMetadata := { sessionId := request.metadata.bind RequestMetadata.sessionId }
    if intent.asksBack then
      addTurn request.message intent.clarificationQuestion
      return { mode := activeMode, response := intent.clarificationQuestion, intent := intent
               metadata := metadata }
    match agent.handlers activeMode with
    | none =>
        addTurn request.message generalResponse
        pure { mode := .general, response := generalResponse, intent := intent, metadata := metadata }
    | some handler =>
        handler.updateSessionState request.message history
        let answer ← handler.handle request.message history
        addTurn request.message answer.response
        pure (toChatResult answer intent metadata)

/-! ## Streams -/

def unserializable : PyError :=
  { className := "TypeError", message := "Object is not JSON serializable", valueTypeOrKey := true }

/-- `_sse_data`, the event as the object behind `data: `. -/
def sseData (payload : List (String × Value)) : Except PyError Dict :=
  payload.mapM fun entry =>
    match entry.2 with
    | .json value => .ok (entry.1, value)
    | .notSerializable => .error unserializable

/-- The value in an encoded event. -/
theorem sseData_lookup {payload : List (String × Value)} {event : Dict}
    (encoded : sseData payload = .ok event) (key : String) :
    payload.lookup key = (event.get? key).map .json := by
  induction payload generalizing event with
  | nil => cases encoded; rfl
  | cons entry rest ih =>
      obtain ⟨name, value⟩ := entry
      cases value with
      | notSerializable => cases encoded
      | json value =>
          cases restEncoded : sseData rest with
          | error error =>
              have fails : sseData ((name, .json value) :: rest) = .error error := by
                simp only [sseData] at restEncoded ⊢
                simp [List.mapM_cons, restEncoded]
                rfl
              cases fails.symm.trans encoded
          | ok events =>
              have succeeds : sseData ((name, .json value) :: rest) = .ok ((name, value) :: events) := by
                simp only [sseData] at restEncoded ⊢
                simp [List.mapM_cons, restEncoded]
                rfl
              obtain rfl := Except.ok.inj (succeeds.symm.trans encoded)
              have later := ih restEncoded
              simp only [Dict.get?, List.lookup_cons] at later ⊢
              split <;> simp_all

/-- `{"mode": …, **event}`; the event has no `mode` of its own. -/
def labelled (mode : Mode) (event : HandlerEvent) : List (String × Value) :=
  ("mode", .json (.str mode.text)) :: event.entries

def tokenEvent (mode : Mode) (token : String) : Dict := [("mode", .str mode.text), ("token", .str token)]

def doneEvent (mode : Mode) : Dict := [("mode", .str mode.text), ("done", .bool true)]

def streamFailedEvent : Dict :=
  [("error", .str "llm_service_error"),
   ("message", .str "The language model failed while streaming a response."),
   ("done", .bool true)]

def emit (event : Dict) : AgentM Unit := suspended (.emit event)

def streamStaticResponse (message : String) (mode : Mode) (response : String) : AgentM Unit := do
  addTurn message response
  emit (tokenEvent mode response)
  emit (doneEvent mode)

def streamModeResponse (message : String) (answer : ModeResponse) : AgentM Unit := do
  addTurn message answer.response
  emit (tokenEvent answer.mode answer.response)
  emit (doneEvent answer.mode)

/-- What the loop notes about an item before it is forwarded. -/
def StreamLocals.receive (s : StreamLocals) (event : HandlerEvent) : StreamLocals :=
  { s with
    activeJobId := (event.str? "job_id").or s.activeJobId
    assistantReply := s.assistantReply ++ (event.str? "token").getD "" }

/-- The `async for` over what the handler streams, left at an event that says `done`. -/
def forwardItems : List HandlerItem → Option Raised → AgentM Unit
  | [], none => pure ()
  | [], some error => throw error
  | item :: rest, ending => do
      let event := item.toEvent
      Routine.modify (·.receive event)
      let service ← load
      let payload ← constructed (sseData (labelled service.sessionState.activeMode event))
      emit payload
      if event.isTrue "done" then Routine.modify ({ · with doneSent := true })
      else
        suspended .nextItem
        forwardItems rest ending

/-- `self.llm_service.cancel_job`, whose failures are only logged. -/
def cancelActiveJob : AgentM Unit := do
  match (← Routine.get).activeJobId with
  | none => pure ()
  | some jobId =>
      if jobId ≠ "" then
        match ← suspended (.cancelJob jobId) with
        | .error .cancelled => throw .cancelled
        | _ => pure ()

/-- After the loop: the reply is remembered, and a last event is sent if none has been. -/
def finishReply (message : String) : AgentM Unit := do
  let locals ← Routine.get
  if locals.assistantReply ≠ "" then addTurn message locals.assistantReply
  if !locals.doneSent then
    let service ← load
    emit (doneEvent service.sessionState.activeMode)

/-- The `try` block of `_stream_handler_response`. -/
def answerEvents (handler : ModeHandler) (request : ChatCommand) (history : String) : AgentM Unit := do
  if !handler.streams then
    let answer ← handler.handle request.message history
    streamModeResponse request.message answer
  else
    let outcome ← handler.stream request.message history
    forwardItems outcome.items outcome.ending
    finishReply request.message

def streamHandlerResponse (handler : ModeHandler) (request : ChatCommand) (history : String) : AgentM Unit :=
  tryCatch (answerEvents handler request history) fun error =>
    match error with
    | .cancelled => do
        cancelActiveJob
        throw .cancelled
    | _ => emit streamFailedEvent

/-- Returns the generator of the events. -/
def chatStream (request : ChatCommand) : AgentM (AgentM Unit) :=
  orServiceError "The language model failed while starting a stream." do
    let history := (← load).memory.formatForPrompt
    let intent ← resolveIntent agent.pydantic request history
    let activeMode ← switchMode intent
    if intent.asksBack then
      return streamStaticResponse request.message activeMode intent.clarificationQuestion
    match agent.handlers activeMode with
    | none => pure (streamStaticResponse request.message .general generalResponse)
    | some handler =>
        handler.updateSessionState request.message history
        pure (streamHandlerResponse handler request history)

/-! ## Requests -/

inductive Request where
  | full (command : ChatCommand)
  | stream (command : ChatCommand)

/-- The generator, asked for events until it has no more. -/
def drained (generator : AgentM Unit) : AgentM Unit := do
  suspended .iterate
  generator

/-- One request from its task's first turn to its last event or result. -/
def serve : Request → AgentM Response
  | .full command => do
      suspended .start
      let result ← chatFull agent command
      pure (.full result)
  | .stream command => do
      suspended .start
      let generator ← chatStream agent command
      drained generator
      pure .streamed

/-- The task of a request. -/
def requestTask (request : Request) : AgentM Unit := do
  let response ← tryCatch (serve agent request) fun error => pure (.failed error)
  Routine.issue (S := agentSignature) (.respond response)

/-! ## A small deployment -/

/-- Classes that accept the objects without fields, or with only a `response`, where
    every other field has a default. -/
def demoPydantic : Pydantic where
  intentResult _ := .error unknownMode
  translationModeState fields := if fields.isEmpty then .ok {} else .error unknownMode
  definitionModeState fields := if fields.isEmpty then .ok {} else .error unknownMode
  learningModeState fields := if fields.isEmpty then .ok {} else .error unknownMode
  translationResponse _ := .error unknownMode
  definitionResponse _ := .error unknownMode
  learningResponse fields :=
    match fields with
    | [("response", .str text)] => .ok { response := text }
    | _ => .error unknownMode

/-- The model knows nothing of modes and answers every task with one text. -/
def demoBackend (Party : Type) : Backend Party where
  ask _ prompt := match prompt with
    | .modeTask .. => .ok [("response", .str "bonjour")]
    | _ => .ok []
  stream _ _ := { items := [.text "bon", .text "jour"], ending := none }
  cancelJob _ _ := .ok ()

def demoAgent : AgentService := .ofPydantic demoPydantic

def demoWorld (Party : Type) : AgentWorld Party := { backend := demoBackend Party, service := {} }

end LanguageAgent.Agent
