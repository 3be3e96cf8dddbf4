import LanguageAgent.Agent.ReplyStream
import LanguageAgent.Domain.Conversation
import LanguageAgent.Gateway.QueuedGateway

/-! # The agent service and what its coroutines do to it

All requests share one `AgentService`, that is one session state and one memory. A
request is a program over the commands below: reads and writes of the shared objects,
and the points at which its coroutine is suspended. Between two suspensions the event
loop runs no other coroutine.
-/

namespace LanguageAgent.Agent

open Gateway Interleaving Queue

/-! ## What is asked of the language model -/

/-- A task prompt with the values `str.format` puts into it. The texts around them and
    the system prompts are constants. -/
inductive Prompt where
  /-- `INTENT_TASK_PROMPT` -/
  | intentTask (activeMode : Mode) (conversationHistory userInput : String)
  /-- `TRANSLATION_STATE_UPDATE_TASK_PROMPT` and its siblings. -/
  | stateUpdateTask (userInput conversationHistory : String) (modeState : ModeState)
  /-- `TRANSLATION_TASK_PROMPT` and its siblings. -/
  | modeTask (userInput conversationHistory : String) (modeState : ModeState)
  deriving DecidableEq

/-- What a coroutine may raise. -/
inductive Raised where
  | api (error : APIError)
  /-- Any other `Exception`. -/
  | exception (error : PyError)
  /-- `asyncio.CancelledError` -/
  | cancelled

/-! ## What a handler streams -/

/-- A value in an event: one that `json.dumps` encodes, or any other. -/
inductive Value where
  | json (value : Json)
  | notSerializable

/-- The event of a handler, a `dict` that does not name a mode. -/
structure HandlerEvent where
  entries : List (String × Value)
  distinct : (entries.map Prod.fst).Nodup
  unlabelled : "mode" ∉ entries.map Prod.fst

/-- `event.get(key)` -/
def HandlerEvent.get? (event : HandlerEvent) (key : String) : Option Value := event.entries.lookup key

/-- `event.get(key)` where it is a string. -/
def HandlerEvent.str? (event : HandlerEvent) (key : String) : Option String :=
  match event.get? key with
  | some (.json (.str text)) => some text
  | _ => none

/-- `event.get(key) is True` -/
def HandlerEvent.isTrue (event : HandlerEvent) (key : String) : Bool :=
  match event.get? key with
  | some (.json (.bool true)) => true
  | _ => false

inductive HandlerItem where
  | text (token : String)
  | event (fields : HandlerEvent)

/-- The loop's `event`. -/
def HandlerItem.toEvent : HandlerItem → HandlerEvent
  | .text token =>
    { entries := [("token", .json (.str token))]
      distinct := by simp
      unlabelled := by simp }
  | .event fields => fields

/-- The items a stream yields and how it ends. -/
structure StreamOutcome where
  items : List HandlerItem
  ending : Option Raised

/-! ## Requests -/

structure RequestMetadata where
  sessionId : Option String := none
  client : Option String := none

structure ChatCommand where
  message : String
  mode : Option String := none
  metadata : Option RequestMetadata := none

structure ResponseMetadata where
  sessionId : Option String := none

structure ChatResult where
  mode : Mode
  response : String
  intent : IntentResult
  data : Option Dict := none
  metadata : ResponseMetadata

/-- What the caller of the service gets in the end. -/
inductive Response where
  | full (result : ChatResult)
  /-- The generator of `chat_stream` is exhausted. -/
  | streamed
  | failed (error : Raised)

/-! ## Commands -/

/-- A point at which a coroutine lets others run. -/
inductive Suspension where
  /-- The task has been created and waits for its first turn. -/
  | start
  | askLlm (prompt : Prompt)
  /-- `stream_llm`, up to its first item. -/
  | streamLlm (prompt : Prompt)
  | nextItem
  /-- The generator has been returned and nobody has asked it for an event yet. -/
  | iterate
  /-- An event is handed to the consumer, until it asks for the next. -/
  | emit (event : Dict)
  | cancelJob (jobId : String)

inductive AgentCommand where
  /-- `self.session_state` or `self.memory` is read. -/
  | load
  | applyIntent (intent : IntentResult)
  | logActiveMode (mode : Mode)
  | setModeState (state : ModeState)
  | addTurn (userInput assistantReply : String)
  | suspend (suspension : Suspension)
  | resume (suspension : Suspension)
  | respond (response : Response)

/-- The state of the one `AgentService`. -/
structure Service where
  sessionState : SessionState := {}
  memory : ConversationMemory := {}
  deriving DecidableEq

/-- What a suspension is resumed with. -/
abbrev Suspension.Reply : Suspension → Type
  | .askLlm _ => Except Raised Dict
  | .streamLlm _ => StreamOutcome
  | .cancelJob _ => Except Raised Unit
  | _ => Unit

abbrev AgentCommand.Reply : AgentCommand → Type
  | .load => Service
  | .resume suspension => suspension.Reply
  | _ => Unit

abbrev agentSignature : Signature := ⟨AgentCommand, AgentCommand.Reply⟩

/-! ## The world -/

/-- What each request gets from the model and the queue, whatever they base it on. -/
structure Backend (Party : Type) where
  ask : Party → Prompt → Except Raised Dict
  stream : Party → Prompt → StreamOutcome
  cancelJob : Party → String → Except Raised Unit

structure AgentWorld (Party : Type) where
  backend : Backend Party
  service : Service

namespace AgentWorld

variable {Party : Type}

def withSession (world : AgentWorld Party) (session : SessionState) : AgentWorld Party :=
  { world with service := { world.service with sessionState := session } }

def withMemory (world : AgentWorld Party) (memory : ConversationMemory) : AgentWorld Party :=
  { world with service := { world.service with memory := memory } }

/-- What a suspended request is resumed with. -/
def answer (world : AgentWorld Party) (party : Party) : (suspension : Suspension) → suspension.Reply
  | .askLlm prompt => world.backend.ask party prompt
  | .streamLlm prompt => world.backend.stream party prompt
  | .cancelJob jobId => world.backend.cancelJob party jobId
  | .start => ()
  | .nextItem => ()
  | .iterate => ()
  | .emit _ => ()

def exec (party : Party) :
    (command : AgentCommand) → AgentWorld Party → Option (command.Reply × AgentWorld Party)
  | .load, world => some (world.service, world)
  | .applyIntent intent, world =>
      some ((), world.withSession (applyIntent world.service.sessionState intent))
  | .setModeState state, world =>
      some ((), world.withSession (world.service.sessionState.withModeState state))
  | .addTurn userInput assistantReply, world =>
      some ((), world.withMemory (world.service.memory.addTurn userInput assistantReply))
  | .resume suspension, world => some (world.answer party suspension, world)
  | .logActiveMode _, world => some ((), world)
  | .suspend _, world => some ((), world)
  | .respond _, world => some ((), world)

end AgentWorld

/-- The event loop with any number of requests. -/
def agentMachine (Party : Type) : Machine agentSignature Party (AgentWorld Party) := ⟨AgentWorld.exec⟩

end LanguageAgent.Agent
