import LanguageAgent.Agent.AgentService

/-! # The session orchestrator

`handle_turn`, the turn of the console front end. It shares the router, the mode handlers
and the memory with `chat_stream`.
-/

namespace LanguageAgent.Agent

open Gateway Interleaving Queue

/-- What is printed to the console. -/
inductive ConsoleLine where
  | mode (mode : Mode)
  /-- `Agent: …` -/
  | agent (response : String)
  /-- `Answer: …`, the answer as JSON. -/
  | answer (answer : ModeResponse)
  /-- `Assistant: …` -/
  | assistant (response : String)
  /-- `Assistant: `, before a streamed reply. -/
  | assistantLabel
  | token (token : String)
  /-- `console.print()` -/
  | newLine

/-- A line of the program's own text, in which every tag is closed. -/
def ConsoleLine.IsPlain : ConsoleLine → Prop
  | .mode _ | .assistantLabel | .newLine => True
  | .agent response => response = generalResponse
  | .answer _ | .assistant _ | .token _ => False

/-- The console reads tags in what it prints, and raises where it cannot make sense of them. -/
structure Console where
  print : ConsoleLine → Option PyError
  plain : ∀ line, line.IsPlain → print line = none

def printed (console : Console) (line : ConsoleLine) : AgentM Unit :=
  match console.print line with
  | none => pure ()
  | some error => throw (.exception error)

inductive OutputMode where
  | stream
  | ask

def noOutputMode : PyError := { className := "KeyError", message := "'general'", valueTypeOrKey := true }

/-- `ModeOutputConfig[mode]` -/
def modeOutputConfig : Mode → Except PyError OutputMode
  | .translation | .definition | .learning => .ok .stream
  | .general => .error noOutputMode

/-- What `handle_turn` returns. -/
inductive TurnResponse where
  | turn (mode : Mode) (response : String) (intent : IntentResult)
  | answer (answer : ModeResponse)

def notConcatenated : PyError :=
  { className := "TypeError", message := "can only concatenate str (not \"dict\") to str", valueTypeOrKey := true }

/-- The `async for` over what the handler streams: an item that is no string cannot be
    added to the reply. -/
def speakItems (console : Console) : List HandlerItem → Option Raised → AgentM Unit
  | [], none => pure ()
  | [], some error => throw error
  | .event _ :: _, _ => throw (.exception notConcatenated)
  | .text token :: rest, ending => do
      Routine.modify fun s => { s with assistantReply := s.assistantReply ++ token }
      printed console (.token token)
      suspended .nextItem
      speakItems console rest ending

/-- The turn from the state update on. -/
def answerTurn (console : Console) (handler : ModeHandler) (userInput history : String) (intent : IntentResult) :
    AgentM TurnResponse := do
  handler.updateSessionState userInput history
  let outputMode ← constructed (modeOutputConfig (← load).sessionState.activeMode)
  match outputMode with
  | .ask =>
      let answer ← handler.handle userInput history
      addTurn userInput answer.response
      printed console (.answer answer)
      printed console (.assistant answer.response)
      pure (.answer answer)
  | .stream =>
      printed console .assistantLabel
      let outcome ← handler.stream userInput history
      speakItems console outcome.items outcome.ending
      printed console .newLine
      let locals ← Routine.get
      addTurn userInput locals.assistantReply
      let service ← load
      pure (.turn service.sessionState.activeMode locals.assistantReply intent)

/-- The turn once its intent has been applied. -/
def answerIntent (console : Console) (agent : AgentService) (userInput history : String) (intent : IntentResult)
    (activeMode : Mode) : AgentM TurnResponse := do
  if intent.asksBack then
    addTurn userInput intent.clarificationQuestion
    printed console (.agent intent.clarificationQuestion)
    return .turn activeMode intent.clarificationQuestion intent
  match agent.handlers activeMode with
  | none =>
      addTurn userInput generalResponse
      printed console (.agent generalResponse)
      pure (.turn .general generalResponse intent)
  | some handler => answerTurn console handler userInput history intent

def handleTurn (console : Console) (agent : AgentService) (userInput : String) : AgentM TurnResponse := do
  let history := (← load).memory.formatForPrompt
  let intent ← classify agent.pydantic userInput history
  let activeMode ← switchMode intent
  printed console (.mode activeMode)
  answerIntent console agent userInput history intent activeMode

end LanguageAgent.Agent
