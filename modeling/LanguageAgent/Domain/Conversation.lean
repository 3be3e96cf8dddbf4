import LanguageAgent.Domain.Json
import LanguageAgent.Python.Text

/-! # The conversation of the agent: modes, intents and memory -/

namespace LanguageAgent

inductive Mode where
  | translation
  | definition
  | learning
  | general
  deriving DecidableEq, Repr

namespace Mode

def text : Mode → String
  | .translation => "translation"
  | .definition => "definition"
  | .learning => "learning"
  | .general => "general"

/-- The mode a text names, as the `Literal` of the same name accepts it. -/
def ofText? (text : String) : Option Mode :=
  if text = "translation" then some .translation
  else if text = "definition" then some .definition
  else if text = "learning" then some .learning
  else if text = "general" then some .general
  else none

end Mode

/-! ## The state of the session -/

inductive TranslationDirection where
  | auto
  | aToB
  | bToA
  deriving DecidableEq, Repr

inductive TranslationStyle where
  | singleUser
  | twoPerson
  deriving DecidableEq, Repr

structure TranslationModeState where
  participantALanguage : String := "unknown"
  participantBLanguage : String := "unknown"
  direction : TranslationDirection := .auto
  style : TranslationStyle := .singleUser
  deriving DecidableEq, Repr

structure DefinitionModeState where
  currentTerm : Option String := none
  language : String := "unknown"
  sense : Option String := none
  deriving DecidableEq, Repr

inductive LearningLevel where
  | beginner
  | intermediate
  | advanced
  | unknown
  deriving DecidableEq, Repr

structure LearningModeState where
  targetLanguage : String := "unknown"
  nativeLanguage : String := "unknown"
  level : LearningLevel := .unknown
  currentTopic : Option String := none
  lessonStep : Int := 0
  deriving DecidableEq, Repr

structure SessionState where
  activeMode : Mode := .general
  previousMode : Option Mode := none
  translation : TranslationModeState := {}
  definition : DefinitionModeState := {}
  learning : LearningModeState := {}
  deriving DecidableEq, Repr

/-- The part of the session state that one mode handler reads and replaces. -/
inductive ModeState where
  | translation (state : TranslationModeState)
  | definition (state : DefinitionModeState)
  | learning (state : LearningModeState)
  deriving DecidableEq, Repr

/-- `session_state.translation = …` and its siblings. -/
def SessionState.withModeState (session : SessionState) : ModeState → SessionState
  | .translation state => { session with translation := state }
  | .definition state => { session with definition := state }
  | .learning state => { session with learning := state }

@[simp] theorem SessionState.withModeState_activeMode (session : SessionState) (state : ModeState) :
    (session.withModeState state).activeMode = session.activeMode := by
  cases state <;> rfl

/-! ## Intents -/

inductive Confidence where
  | low
  | medium
  | high
  deriving DecidableEq, Repr

structure IntentResult where
  mode : Mode
  confidence : Confidence
  shouldSwitchMode : Bool
  reason : String
  clarificationQuestion : String := ""
  deriving DecidableEq, Repr

/-- `intent.confidence == "low" and intent.clarification_question` -/
def IntentResult.asksBack (intent : IntentResult) : Bool :=
  intent.confidence = .low && intent.clarificationQuestion ≠ ""

/-- `IntentRouter.apply_intent` -/
def applyIntent (session : SessionState) (intent : IntentResult) : SessionState :=
  if intent.shouldSwitchMode && intent.mode ≠ session.activeMode then
    { session with previousMode := some session.activeMode, activeMode := intent.mode }
  else session

/-! ## Answers of the mode handlers -/

structure TranslationResponse where
  response : String
  sourceLanguage : String
  targetLanguage : String
  translatedText : String

structure DefinitionResponse where
  response : String
  term : String
  language : String := "unknown"
  partOfSpeech : String := ""
  pronunciation : String := ""
  meaning : String
  examples : List String := []
  synonyms : List String := []
  antonyms : List String := []
  etymology : String := ""

structure LearningResponse where
  response : String
  targetLanguage : String := "unknown"
  nativeLanguage : String := "unknown"
  level : String := "unknown"
  topic : String := ""
  teachingPoint : String := ""
  examples : List String := []
  corrections : List String := []
  newVocabulary : List Dict := []
  exercises : List String := []
  nextSuggestedStep : String := ""

/-- A `BaseModeResponse`; each class fixes its own `mode`. -/
inductive ModeResponse where
  | translation (answer : TranslationResponse)
  | definition (answer : DefinitionResponse)
  | learning (answer : LearningResponse)

namespace ModeResponse

def mode : ModeResponse → Mode
  | .translation _ => .translation
  | .definition _ => .definition
  | .learning _ => .learning

def response : ModeResponse → String
  | .translation answer => answer.response
  | .definition answer => answer.response
  | .learning answer => answer.response

private def strings (items : List String) : Json := .arr (items.map .str)

/-- `mode_response.model_dump()` -/
def modelDump : ModeResponse → Dict
  | .translation answer =>
      [("response", .str answer.response), ("mode", .str Mode.translation.text),
       ("source_language", .str answer.sourceLanguage), ("target_language", .str answer.targetLanguage),
       ("translated_text", .str answer.translatedText)]
  | .definition answer =>
      [("response", .str answer.response), ("mode", .str Mode.definition.text),
       ("term", .str answer.term), ("language", .str answer.language),
       ("part_of_speech", .str answer.partOfSpeech), ("pronunciation", .str answer.pronunciation),
       ("meaning", .str answer.meaning), ("examples", strings answer.examples),
       ("synonyms", strings answer.synonyms), ("antonyms", strings answer.antonyms),
       ("etymology", .str answer.etymology)]
  | .learning answer =>
      [("response", .str answer.response), ("mode", .str Mode.learning.text),
       ("target_language", .str answer.targetLanguage), ("native_language", .str answer.nativeLanguage),
       ("level", .str answer.level), ("topic", .str answer.topic),
       ("teaching_point", .str answer.teachingPoint), ("examples", strings answer.examples),
       ("corrections", strings answer.corrections), ("new_vocabulary", .arr (answer.newVocabulary.map .obj)),
       ("exercises", strings answer.exercises), ("next_suggested_step", .str answer.nextSuggestedStep)]

end ModeResponse

/-! ## Memory -/

structure ConversationTurn where
  userInput : String
  assistantReply : String
  deriving DecidableEq, Repr

structure ConversationMemory where
  maxTurns : Nat := 5
  turns : List ConversationTurn := []
  deriving DecidableEq, Repr

namespace ConversationMemory

/-- `turns[-count:]`, which for a count of 0 is the whole list. -/
def lastTurns (count : Nat) (turns : List ConversationTurn) : List ConversationTurn :=
  if count = 0 then turns else turns.drop (turns.length - count)

def addTurn (memory : ConversationMemory) (userInput assistantReply : String) : ConversationMemory :=
  let turns := memory.turns ++ [⟨userInput, assistantReply⟩]
  { memory with turns := if turns.length > memory.maxTurns then lastTurns memory.maxTurns turns else turns }

/-- The block of one turn. Its lines after the first keep the indentation they have in
    the source, and `strip` also takes the blanks at the end of the reply. -/
def formatTurn (index : Nat) (turn : ConversationTurn) : String :=
  let indent := "\n                "
  let block := indent ++ "Turn " ++ toString index ++ indent ++ "User: " ++ turn.userInput ++
    indent ++ "Assistant: " ++ turn.assistantReply ++ indent
  String.ofList (Python.strip block.toList)

def formatForPrompt (memory : ConversationMemory) : String :=
  if memory.turns = [] then "No previous conversation."
  else "\n\n".intercalate (memory.turns.mapIdx fun index turn => formatTurn (index + 1) turn)

end ConversationMemory

end LanguageAgent
