import LanguageAgent.Interleaving.Contract
import LanguageAgent.Webui.ChatPage
import LanguageAgent.Webui.Persistence

/-! # A chat in the Web UI

The handlers of `ui_app` as programs. They share the session, which holds the selected
mode, and each of them may be suspended at every await.
-/

namespace LanguageAgent.Webui

open Client Gateway Interleaving Queue

/-! ## Modes -/

def modeAuto : String := "auto"

/-- `STREAMING_MODES` -/
def streamingModes : List String := ["translation", "definition", "learning"]

/-- `MODE_OPTIONS` -/
def modeOptions : List (String × String) :=
  [("auto", "Auto"), ("translation", "Translation"), ("definition", "Definition"), ("learning", "Learning"),
   ("general", "General")]

def isMode (mode : String) : Bool := (modeOptions.map Prod.fst).contains mode

/-- `get_selected_mode`, by what the session holds. -/
def selectedModeOf (held : Option String) : String :=
  let mode := held.getD modeAuto
  if isMode mode then mode else modeAuto

def modeLabel (mode : String) : String := (modeOptions.lookup mode).getD "Auto"

def apiModeValue (mode : String) : Option String := if mode = modeAuto then none else some mode

/-- `normalize_mode_value`, where `casefold` is that of `str`. -/
def normalizeModeValue (strOf : StrOf) (casefold : String → String) (value : Json) : String :=
  let selectedMode := Python.stripText (strOf.text (if value.truthy then value else .str modeAuto))
  if isMode selectedMode then selectedMode
  else
    let normalizedLabels := modeOptions.map fun option => (casefold option.2, option.1)
    (normalizedLabels.reverse.lookup (casefold selectedMode)).getD modeAuto

/-- `STARTER_MODES` -/
def starterModes : List String := ["translation", "definition", "learning"]

/-- `STARTER_MESSAGE_MODES` -/
def starterMessageModes : List (String × String) :=
  [("Translate this sentence to isiXhosa: Good morning, how are you?", "translation"),
   ("Define recursion in simple terms.", "definition"), ("Teach me three useful French greetings.", "learning")]

def starterModeForValues (command : Option Json) (content : String) : Option String :=
  match command with
  | some (.str mode) => if mode ∈ starterModes then some mode else starterMessageModes.lookup (Python.stripText content)
  | _ => starterMessageModes.lookup (Python.stripText content)

/-! ## Requests -/

/-- `build_chat_payload` -/
def buildChatPayload (message : String) (mode : Option String) : Dict :=
  [("message", .str message), ("metadata", .obj [("client", .str "chainlit-webui")])] ++
    (mode.map fun mode => ("mode", Json.str mode)).toList

/-- A request to `/api/chat`, or to `/api/chat/stream`. -/
structure ChatSent where
  stream : Bool
  message : String
  mode : Option String
  deriving DecidableEq

/-- The body of the request. -/
def ChatSent.payload (sent : ChatSent) : Dict :=
  buildChatPayload sent.message sent.mode ++ if sent.stream then [("stream", .bool true)] else []

/-! ## Commands -/

/-- What is read and written of the session, and what is awaited. -/
inductive UiCommand where
  | loadMode
  | storeMode (mode : String)
  | storeLastUserMessage (text : String)
  | say (content author : String)
  | sendModeSettings (initial : String)
  | removeAction
  /-- `cl.AskActionMessage` -/
  | askCategory
  /-- `client.chat_full` -/
  | chatFull (message : String) (mode : Option String)
  /-- `client.chat_stream`, read to its end. -/
  | chatStream (message : String) (mode : Option String)
  /-- The messages of a reply, as they are in the end. -/
  | display (chat : Chat)

abbrev UiCommand.Reply : UiCommand → Type
  | .loadMode => Option String
  | .askCategory => Option Dict
  | .chatFull _ _ => ClientM Dict
  | .chatStream _ _ => ClientM Unit × List Dict
  | _ => Unit

abbrev uiSignature : Signature := ⟨UiCommand, UiCommand.Reply⟩

abbrev UiM := Routine uiSignature PyError Unit

def perform (command : UiCommand) : UiM command.Reply := Routine.issue (S := uiSignature) command

def UiCommand.sent? : UiCommand → Option ChatSent
  | .chatFull message mode => some ⟨false, message, mode⟩
  | .chatStream message mode => some ⟨true, message, mode⟩
  | _ => none

/-! ## Handlers -/

/-- The settings of the Web UI, and Python's texts. -/
structure UiSettings where
  baseUrl : String
  streamingEnabled : Bool
  strOf : StrOf
  casefold : String → String
  /-- `repr` of a value that is no string. -/
  repr : Json → String

def getSelectedMode : UiM String := do
  let held ← perform .loadMode
  pure (selectedModeOf held)

variable (ui : UiSettings)

def shouldStream (mode : Option String) : Bool :=
  ui.streamingEnabled && mode.any fun mode => streamingModes.contains mode

/-- The stream has shown nothing, and `chat_full` is asked instead. -/
def fallsBack (userText status : String) (apiMode : Option String) (stream : ClientM Unit × List Dict) : Bool :=
  match Stream.handleEvents ui.strOf userText modeAuto stream.2 (startStream status apiMode), stream.1 with
  | .goesOn s, .ok () => s.streamedText == ""
  | _, _ => false

/-- The status message has been sent. -/
def Chat.ofStatus (status : String) : Chat := (startStream status none).chat

/-- What comes of a stream. -/
def afterStream (userText status : String) (apiMode : Option String) (stream : ClientM Unit × List Dict) :
    UiM (ClientM Unit × Chat) :=
  if fallsBack ui userText status apiMode stream then do
    let full ← perform (.chatFull userText apiMode)
    let mode ← getSelectedMode
    pure (streamBackendResponse ui.strOf userText mode status apiMode stream full)
  else do
    let mode ← getSelectedMode
    pure (streamBackendResponse ui.strOf userText mode status apiMode stream (.ok []))

/-- Send the request, and what comes of it. -/
def replyTo (userText status : String) (apiMode : Option String) : UiM (ClientM Unit × Chat) :=
  if shouldStream ui apiMode then do
    let stream ← perform (.chatStream userText apiMode)
    afterStream ui userText status apiMode stream
  else do
    let full ← perform (.chatFull userText apiMode)
    let mode ← getSelectedMode
    pure (sendFullBackendResponse userText mode full (Chat.ofStatus status))

/-- The `except BackendClientError` of `handle_user_text`. -/
def Chat.failed (userText selectedMode : String) (error : BackendClientError) (chat : Chat) : Chat :=
  (chat.edit .status fun message =>
    { message with content := formatUiError error, actions := responseActions userText selectedMode }).update .status

/-- The messages are shown, and what is no `BackendClientError` is raised. -/
def showReply (userText selectedMode : String) : ClientM Unit × Chat → UiM Unit
  | (.ok (), chat) => perform (.display chat)
  | (.error (.client error), chat) => perform (.display (chat.failed userText selectedMode error))
  | (.error (.other raised), chat) => do
      perform (.display chat)
      throw raised

/-- `handle_user_text` in the mode that is selected by now. -/
def askBackend (userText : String) : UiM Unit := do
  perform (.storeLastUserMessage userText)
  let selectedMode ← getSelectedMode
  let status := "Sending request to `" ++ ui.baseUrl ++ "` using **" ++ modeLabel selectedMode ++ "** mode..."
  perform (.say status "")
  let reply ← replyTo ui userText status (apiModeValue selectedMode)
  showReply userText selectedMode reply

/-- A starter sets its mode. -/
def setStarterMode : Option String → UiM Unit
  | some mode => do
      perform (.storeMode mode)
      perform (.sendModeSettings mode)
  | none => pure ()

def handleUserText (userText : String) (starterMode : Option String) (echoUser : Bool) : UiM Unit := do
  (if echoUser then perform (.say userText "You") else pure ())
  setStarterMode starterMode
  askBackend ui userText

/-- What happens in a chat. -/
inductive Handler where
  | chatStart
  | chatResume (user : Option ChainlitUser) (thread : Dict)
  | settingsUpdate (settings : Dict)
  | setMode (payload : Dict)
  | retryResponse (payload : Dict)
  | feedbackGood
  | feedbackNeedsCategory
  | message (command : Option Json) (content : String)

def onMessage (command : Option Json) (content : String) : UiM Unit :=
  let userText := Python.stripText content
  if userText = "" then perform (.say "Please enter a message before sending." "Input validation")
  else handleUserText ui userText (starterModeForValues command content) false

def onRetryResponse (payload : Dict) : UiM Unit := do
  let userText := Python.stripText (ui.strOf.text ((payload.get? "message").getD (.str "")))
  let held ← getSelectedMode
  let selectedMode := normalizeModeValue ui.strOf ui.casefold ((payload.get? "mode").getD (.str held))
  if userText = "" then perform .removeAction
  else
    perform (.storeMode selectedMode)
    perform .removeAction
    perform (.sendModeSettings selectedMode)
    handleUserText ui userText none true

def onSettingsUpdate (settings : Dict) : UiM Unit := do
  let selectedMode := normalizeModeValue ui.strOf ui.casefold ((settings.get? "selected_mode").getD (.str modeAuto))
  perform (.storeMode selectedMode)
  perform (.say ("Response mode set to **" ++ modeLabel selectedMode ++ "**. " ++
    "Future messages in this chat will use this mode selection.") "")

def onSetMode (payload : Dict) : UiM Unit := do
  let selectedMode := normalizeModeValue ui.strOf ui.casefold ((payload.get? "mode").getD (.str modeAuto))
  perform (.storeMode selectedMode)
  perform .removeAction
  perform (.sendModeSettings selectedMode)
  perform (.say ("Response mode set to **" ++ modeLabel selectedMode ++ "**.") "")

def Handler.routine : Handler → UiM Unit
  | .chatStart => do
      perform (.storeMode modeAuto)
      perform (.storeLastUserMessage "")
      perform (.sendModeSettings modeAuto)
  | .chatResume user thread =>
      if threadBelongsToUser ui.repr thread user then do
        let selectedMode ← getSelectedMode
        perform (.sendModeSettings selectedMode)
      else pure ()
  | .settingsUpdate settings => onSettingsUpdate ui settings
  | .setMode payload => onSetMode ui payload
  | .retryResponse payload => onRetryResponse ui payload
  | .feedbackGood => do
      perform .removeAction
      perform (.say "Thanks for the feedback." "Feedback")
  | .feedbackNeedsCategory => do
      let res ← perform .askCategory
      if (res.getD []).isEmpty then pure ()
      else perform (.say "Thanks. I logged that feedback." "Feedback")
  | .message command content => onMessage ui command content

/-! ## The session -/

structure UiWorld where
  mode : Option String := none
  lastUserMessage : Option String := none
  sent : List ChatSent := []
  shown : List Chat := []

/-- What the backend and the user answer. -/
structure UiBackend where
  full : List ChatSent → ClientM Dict
  stream : List ChatSent → ClientM Unit × List Dict
  category : Nat → Option Dict

def uiExec (backend : UiBackend) (handler : Nat) (command : UiCommand) (w : UiWorld) :
    Option (command.Reply × UiWorld) :=
  match command with
  | .loadMode => some (w.mode, w)
  | .storeMode mode => some ((), { w with mode := some mode })
  | .storeLastUserMessage text => some ((), { w with lastUserMessage := some text })
  | .say _ _ | .sendModeSettings _ | .removeAction => some ((), w)
  | .askCategory => some (backend.category handler, w)
  | .chatFull message mode =>
      let sent := w.sent ++ [⟨false, message, mode⟩]
      some (backend.full sent, { w with sent })
  | .chatStream message mode =>
      let sent := w.sent ++ [⟨true, message, mode⟩]
      some (backend.stream sent, { w with sent })
  | .display chat => some ((), { w with shown := w.shown ++ [chat] })

def uiMachine (backend : UiBackend) : Machine uiSignature Nat UiWorld := ⟨uiExec backend⟩

abbrev UiSystem := Config uiSignature Nat UiWorld (Except PyError Unit × Unit)

/-- A chat in which all this happens. -/
def inChat (handlers : Nat → Handler) : UiSystem := ⟨[], {}, fun handler => (handlers handler).routine ui ()⟩

/-- A Web UI that streams. -/
def someUi : UiSettings where
  baseUrl := "http://localhost:8000"
  streamingEnabled := true
  strOf := plainStrOf
  casefold text := String.ofList (text.toList.map Char.toLower)
  repr := fun _ => ""

/-- Streams carry one token, and full responses one word. -/
def someBackend : UiBackend where
  full _ := .ok [("response", .str "Because.")]
  stream _ := (.ok (), [[("token", .str "Because.")], [("done", .bool true)]])
  category _ := none

end LanguageAgent.Webui
