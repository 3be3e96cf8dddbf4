import LanguageAgent.Webui.Client

/-! # A reply in the chat

What `ui_app` does with the messages of the chat while a reply arrives.
-/

namespace LanguageAgent.Webui

open Client

/-! ## Full responses as text -/

namespace Renderer

def stringValue : Option Json → String
  | some (.str text) => String.ofList (Python.strip text.toList)
  | _ => ""

/-- The lines `append_list` adds. -/
def listLines (title : String) (values : Option Json) (inline : Bool) : List String :=
  match values with
  | some (.arr values) =>
      match (values.map fun value => stringValue (some value)).filter (· ≠ "") with
      | [] => []
      | items =>
          if inline then ["", "**" ++ title ++ ":** " ++ ", ".intercalate items]
          else ["", "**" ++ title ++ ":**"] ++ items.map ("- " ++ ·)
  | _ => []

/-- `"\n".join(lines).strip()` -/
def joined (lines : List String) : String := String.ofList (Python.strip ("\n".intercalate lines).toList)

def renderDefinition (data result : Dict) : String :=
  let term := stringValue (data.get? "term")
  let partOfSpeech := stringValue (data.get? "part_of_speech")
  let language := stringValue (data.get? "language")
  let pronunciation := stringValue (data.get? "pronunciation")
  let meaning := stringValue (data.get? "meaning")
  let response := stringValue ((Json.ifTruthy (data.get? "response")).or (result.get? "response"))
  let etymology := stringValue (data.get? "etymology")
  let title := if term = "" then "Definition" else term
  let details :=
    (if language ≠ "" ∧ language ≠ "unknown" then ["Language: " ++ language] else []) ++
      (if pronunciation ≠ "" then ["Pronunciation: " ++ pronunciation] else [])
  let lines :=
    ["**" ++ (if partOfSpeech = "" then title else title ++ " (" ++ partOfSpeech ++ ")") ++ "**"] ++
      (if details = [] then [] else [" | ".intercalate details]) ++
      (if meaning ≠ "" then ["", meaning] else if response ≠ "" then ["", response] else []) ++
      listLines "Examples" (data.get? "examples") false ++
      listLines "Synonyms" (data.get? "synonyms") true ++
      listLines "Antonyms" (data.get? "antonyms") true ++
      (if etymology = "" then [] else ["", "**Etymology:** " ++ etymology])
  joined (lines ++ if response ≠ "" ∧ response ∉ lines ∧ response ≠ meaning then ["", response] else [])

def renderTranslation (data result : Dict) : String :=
  let translatedText := stringValue (data.get? "translated_text")
  let response := stringValue ((Json.ifTruthy (data.get? "response")).or (result.get? "response"))
  let sourceLanguage := stringValue (data.get? "source_language")
  let targetLanguage := stringValue (data.get? "target_language")
  let known (language : String) := if language = "" then "unknown" else language
  joined <|
    (if translatedText ≠ "" then [translatedText] else if response ≠ "" then [response] else []) ++
      if sourceLanguage ≠ "" ∨ targetLanguage ≠ "" then
        ["", "`" ++ known sourceLanguage ++ "` -> `" ++ known targetLanguage ++ "`"]
      else []

def renderLearning (data result : Dict) : String :=
  let response := stringValue ((Json.ifTruthy (data.get? "response")).or (result.get? "response"))
  let teachingPoint := stringValue (data.get? "teaching_point")
  let nextStep := stringValue (data.get? "next_suggested_step")
  joined <|
    (if response = "" then [] else [response]) ++
      (if teachingPoint ≠ "" ∧ teachingPoint ≠ response then ["", "**Teaching point:** " ++ teachingPoint] else []) ++
      listLines "Examples" (data.get? "examples") false ++
      listLines "Corrections" (data.get? "corrections") false ++
      listLines "Exercises" (data.get? "exercises") false ++
      (if nextStep = "" then [] else ["", "**Next step:** " ++ nextStep])

/-- The response as it is, where no mode renders it. -/
def renderPlain (result : Dict) : String :=
  match Dict.str? result "response" with
  | some response => if Python.strip response.toList = [] then "" else response
  | none => ""

def renderChatResponse (result : Dict) : String :=
  match result.get? "data" with
  | some (.obj data) =>
      match (Json.ifTruthy (Dict.get? data "mode")).or (result.get? "mode") with
      | some (.str "definition") => renderDefinition data result
      | some (.str "translation") => renderTranslation data result
      | some (.str "learning") => renderLearning data result
      | _ => renderPlain result
  | _ => renderPlain result

end Renderer

/-- `format_ui_error` -/
def formatUiError : BackendClientError → String
  | .unavailable _ => "**Service unavailable**\n\nThe language service is not reachable right now. Start the local " ++
      "service, then try again."
  | .timeout _ => "**Service timeout**\n\nThe language service took too long to answer. It may still be " ++
      "loading or working on your request. Try again in a moment."
  | .authentication _ _ _ => "**Backend authentication failed**\n\nThe Web UI could not authenticate with the backend. " ++
      "Check that the Web UI and FastAPI backend use the same API key."
  | .http _ _ errorCode | .userAuthentication _ _ errorCode | .validation _ _ errorCode | .conflict _ _ errorCode
  | .featureDisabled _ _ errorCode =>
      if errorCode = "unsupported_mode" then
        "**Unsupported mode**\n\nThis response mode is not available for that request. Try Auto or choose a different mode."
      else "**Request failed**\n\nThe language service could not complete the request. Try again, or choose a " ++
        "different response mode."
  | .invalidResponse _ => "**Response could not be displayed**\n\nThe language service answered in a format this chat " ++
      "could not display. Try again."
  | .stream _ => "**Streaming error**\n\nThe response was interrupted while it was being displayed. Try again, or " ++
      "choose a full-response mode."
  | .authConfiguration _ => "**Backend authentication is not configured**\n\nThe Web UI is missing the backend API key. " ++
      "Configure it on the server and try again."

/-! ## Messages -/

structure Action where
  name : String
  label : String
  tooltip : String
  icon : String
  payload : Dict

/-- `response_actions` -/
def responseActions (userText selectedMode : String) : List Action :=
  [{ name := "retry_response", label := "Retry", tooltip := "Retry the last request.", icon := "rotate-ccw"
     payload := [("message", .str userText), ("mode", .str selectedMode)] },
   { name := "feedback_good", label := "Helpful", tooltip := "Mark this response as helpful.", icon := "thumbs-up"
     payload := [("message", .str userText), ("rating", .str "positive")] },
   { name := "feedback_needs_category", label := "Needs improvement", tooltip := "Tell us what went wrong."
     icon := "thumbs-down", payload := [("message", .str userText), ("rating", .str "negative")] }]

/-- A message, and what the chat displays of it. -/
structure Message where
  content : String
  actions : List Action := []
  metadata : Dict := []
  displayed : Option String := none

/-- The message with the status and the one with the response. -/
inductive Slot where
  | status
  | response
  deriving DecidableEq

inductive Call where
  | send (slot : Slot)
  | update (slot : Slot)
  | remove (slot : Slot)
  | streamToken (slot : Slot) (token : String)
  /-- `client.chat_full` -/
  | chatFull
  deriving DecidableEq

/-- The two messages, and the calls that have been made. -/
structure Chat where
  message : Slot → Message
  calls : List Call

namespace Chat

def call (chat : Chat) (call : Call) : Chat := { chat with calls := chat.calls ++ [call] }

/-- Assign to fields of a message. -/
def edit (chat : Chat) (slot : Slot) (assign : Message → Message) : Chat :=
  { chat with message := Function.update chat.message slot (assign (chat.message slot)) }

def send (chat : Chat) (slot : Slot) : Chat :=
  (chat.edit slot fun message => { message with displayed := some message.content }).call (.send slot)

def remove (chat : Chat) (slot : Slot) : Chat :=
  (chat.edit slot fun message => { message with displayed := none }).call (.remove slot)

/-- A message the chat does not display stays hidden. -/
def update (chat : Chat) (slot : Slot) : Chat :=
  (chat.edit slot fun message => { message with displayed := message.displayed.map fun _ => message.content }).call
    (.update slot)

/-- `message.stream_token` appends to the content. -/
def streamToken (chat : Chat) (slot : Slot) (token : String) : Chat :=
  (chat.edit slot fun message =>
    { message with
      content := message.content ++ token
      displayed := message.displayed.map fun _ => message.content ++ token }).call (.streamToken slot token)

end Chat

/-! ## Streaming -/

section Streaming

variable (strOf : StrOf) (userText selectedMode : String)

/-- `STREAM_STATUS_MESSAGES` -/
def streamStatusMessages : List (String × String) :=
  [("queued", "Your request is queued and waiting for the model worker."),
   ("processing", "The worker is preparing your response with llama-server."),
   ("streaming", "The worker is streaming your response from llama-server."),
   ("cancelled", "This response was cancelled before completion.")]

/-- `STREAM_FLUSH_CHAR_LIMIT` -/
def streamFlushCharLimit : Nat := 96

/-- `has_unclosed_markdown_fence` -/
def hasUnclosedMarkdownFence (text : String) : Bool := Python.count "```".toList text.toList % 2 == 1

/-- `should_flush_stream_buffer` -/
def shouldFlushStreamBuffer (tokenBuffer streamedText : String) : Bool :=
  if streamFlushCharLimit ≤ tokenBuffer.length then true
  else if ["\n\n", ". ", "? ", "! "].any fun ending => ending.toList.isSuffixOf tokenBuffer.toList then
    !hasUnclosedMarkdownFence streamedText
  else false

/-- The locals of `stream_backend_response`. -/
structure Stream where
  chat : Chat
  streamedText : String
  tokenBuffer : String
  receivedToken : Bool
  responseStarted : Bool
  responseMode : Option String
  doneReceived : Bool
  latestStatus : String

namespace Stream

/-- The response takes the place of the status. -/
def startResponse (s : Stream) : Stream :=
  if s.responseStarted then s
  else { s with chat := (s.chat.remove .status).send .response, responseStarted := true }

def flush (s : Stream) : Stream := { s with chat := s.chat.streamToken .response s.tokenBuffer }

/-- What has been streamed, and how it ended. -/
def withEnding (s : Stream) (ending : String) : String := s.streamedText ++ "\n\n" ++ ending

/-- A `cancelled` or `error` event ends the response. -/
def endEarly (ending : String) (s : Stream) : Chat :=
  let s := if s.tokenBuffer = "" then s else s.startResponse.flush
  let content := if s.streamedText = "" then ending else s.withEnding ending
  let assign (message : Message) : Message :=
    { message with content := content, actions := responseActions userText selectedMode }
  let chat := s.chat.edit .response assign
  if s.responseStarted then chat.update .response else (chat.edit .status assign).update .status

/-- The status of an event is shown until the first token. -/
def noteStatus (event : Dict) (s : Stream) : Stream :=
  match event.str? "status" with
  | none => s
  | some status =>
      let s := { s with latestStatus := status }
      match streamStatusMessages.lookup status with
      | none => s
      | some text =>
          if s.receivedToken then s
          else { s with chat := (s.chat.edit .status fun message => { message with content := text }).update .status }

def takeToken (event : Dict) (s : Stream) : Stream :=
  match event.str? "token" with
  | none => s
  | some token =>
      if token = "" then s
      else
        let s := startResponse { s with receivedToken := true }
        let s := { s with streamedText := s.streamedText ++ token, tokenBuffer := s.tokenBuffer ++ token }
        if shouldFlushStreamBuffer s.tokenBuffer s.streamedText then { s.flush with tokenBuffer := "" } else s

/-- The function goes on with the next event, or has returned. -/
inductive Next where
  | goesOn (s : Stream)
  | returned (chat : Chat)

/-- Whether the event says the response was cancelled. -/
def isCancelled (event : Dict) : Bool := event.isTrue "cancelled" || event.str? "status" == some "cancelled"

/-- The message of an `error` event. -/
def errorMessage? (event : Dict) : Option String :=
  if ((event.get? "error").map Json.truthy).getD false then event.str? "message" else none

def handleEvent (event : Dict) (s : Stream) : Next :=
  if s.doneReceived then .goesOn s
  else
    let responseMode := match event.get? "mode" with
      | some mode => strOf.text mode
      | none => s.responseMode.getD ""
    let s := noteStatus event { s with responseMode := some responseMode }
    if isCancelled event then
      .returned (s.endEarly userText selectedMode ((streamStatusMessages.lookup "cancelled").getD ""))
    else match errorMessage? event with
      | some message => .returned (s.endEarly userText selectedMode message)
      | none =>
          let s := takeToken event s
          .goesOn (if event.isTrue "done" then { s with doneReceived := true } else s)

def handleEvents : List Dict → Stream → Next
  | [], s => .goesOn s
  | event :: rest, s =>
      match handleEvent strOf userText selectedMode event s with
      | .goesOn s => handleEvents rest s
      | .returned chat => .returned chat

/-- The buffer is emptied into the response. -/
def flushRest (s : Stream) : Stream := if s.tokenBuffer = "" then s else s.flush

/-- The response is replaced by its final content. -/
def finish (content : String) (s : Stream) : Chat :=
  (s.chat.edit .response fun message =>
    { message with content := content, actions := responseActions userText selectedMode }).update .response

/-- Under a response whose stream has failed. -/
def interruptedNote : String :=
  "The response was interrupted before it completed. The partial answer above is all that was received."

/-- Under a response without a last event. -/
def incompleteNote : String :=
  "The response ended before the completion signal arrived. The partial answer above is all that was received."

/-- The `except BackendClientError` of the function. -/
def interrupted (s : Stream) : Chat :=
  if s.receivedToken then
    s.flushRest.finish userText selectedMode
      (s.withEnding interruptedNote)
  else
    let error := BackendClientError.stream
      ((streamStatusMessages.lookup s.latestStatus).getD "The response stream was interrupted.")
    (s.chat.edit .status fun message =>
      { message with content := formatUiError error, actions := responseActions userText selectedMode }).update .status

/-- The end of a stream with tokens. -/
def completed (s : Stream) : Chat :=
  let s := s.flushRest
  if s.doneReceived then
    (s.chat.edit .response fun message =>
      { message with
        metadata := [("mode", Json.optStr s.responseMode), ("response_type", .str "stream")]
        actions := responseActions userText selectedMode }).update .response
  else s.finish userText selectedMode
    (s.withEnding incompleteNote)

end Stream

/-- `send_full_backend_response` into the status message. -/
def sendFullBackendResponse (full : ClientM Dict) (chat : Chat) : ClientM Unit × Chat :=
  let chat := chat.call .chatFull
  match full with
  | .error error => (.error error, chat)
  | .ok result =>
      let assistantText := Renderer.renderChatResponse result
      if assistantText = "" then
        (.error (.client (.invalidResponse "Backend response did not include assistant text.")), chat)
      else
        (.ok (), (chat.edit .status fun message =>
          { message with
            content := assistantText
            metadata := [("mode", (result.get? "mode").getD .null), ("response_type", .str "full")]
            actions := responseActions userText selectedMode }).update .status)

/-- The status message has been sent. -/
def startStream (status : String) (apiMode : Option String) : Stream where
  chat :=
    { message := fun
        | .status => { content := status, displayed := some status }
        | .response => { content := "" }
      calls := [] }
  streamedText := ""
  tokenBuffer := ""
  receivedToken := false
  responseStarted := false
  responseMode := apiMode
  doneReceived := false
  latestStatus := "queued"

/-- `stream_backend_response`, by the events of the stream and how it ended. The result is
    what `chat_full` is answered with. -/
def streamBackendResponse (status : String) (apiMode : Option String) (stream : ClientM Unit × List Dict)
    (full : ClientM Dict) : ClientM Unit × Chat :=
  match Stream.handleEvents strOf userText selectedMode stream.2 (startStream status apiMode) with
  | .returned chat => (.ok (), chat)
  | .goesOn s =>
      match stream.1 with
      | .error (.other error) => (.error (.other error), s.chat)
      | .error (.client _) => (.ok (), s.interrupted userText selectedMode)
      | .ok () =>
          if s.streamedText = "" then sendFullBackendResponse userText selectedMode full s.chat
          else (.ok (), s.completed userText selectedMode)

end Streaming

end LanguageAgent.Webui
