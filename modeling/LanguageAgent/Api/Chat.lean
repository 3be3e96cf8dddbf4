import LanguageAgent.Agent.Sessions
import LanguageAgent.Api.Accounts
import LanguageAgent.Gateway.JsonLoads
import LanguageAgent.Webui.SseFrames

/-! # Chats over HTTP

What the routes hand to the agent service, and how its answers become responses.
-/

namespace LanguageAgent.Api

open Agent Gateway Queue Webui.Client

/-! ## Requests -/

def requestMetadata (data : Dict) : RequestMetadata where
  sessionId := data.str? "session_id"
  client := data.str? "client"

/-- The `ChatCommand` for a body that is valid. -/
def chatCommand (data : Dict) : ChatCommand where
  message := textOf data "message"
  mode := data.str? "mode"
  metadata := match data.get? "metadata" with
    | some (.obj metadata) => some (requestMetadata metadata)
    | _ => none

/-- A route behind the key and the body it checks: the request to the agent service, or the
    response to one that is refused. -/
def chatRoute (auth : AuthConfig) (describe : List String → String → Dict) (strOf : StrOf) (fields : List RequestField)
    (request : ChatCommand → Request) (providedKey : Option String) (body : Json) : Except JSONResponse Request :=
  match validateApiKey providedKey auth with
  | .error failure => .error (failure.response strOf)
  | .ok () =>
      match validateBody describe fields body with
      | .error failure => .error (failure.response strOf)
      | .ok data => .ok (request (chatCommand data))

/-- `POST /api/chat` -/
def chatFull (auth : AuthConfig) (describe : List String → String → Dict) (strOf : StrOf) :
    Option String → Json → Except JSONResponse Request :=
  chatRoute auth describe strOf ChatRequest.fields .full

/-- `POST /api/chat/stream` -/
def chatStream (auth : AuthConfig) (describe : List String → String → Dict) (strOf : StrOf) :
    Option String → Json → Except JSONResponse Request :=
  chatRoute auth describe strOf StreamChatRequest.fields .stream

def confidenceText : Confidence → String
  | .low => "low"
  | .medium => "medium"
  | .high => "high"

/-- `IntentResult.model_dump()` -/
def intentDump (intent : IntentResult) : Dict :=
  [("mode", .str intent.mode.text), ("confidence", .str (confidenceText intent.confidence)),
   ("should_switch_mode", .bool intent.shouldSwitchMode), ("reason", .str intent.reason),
   ("clarification_question", .str intent.clarificationQuestion)]

/-- `ChatResponse.model_dump()` of the response. Its `data` is the dump of the answer, which
    the class of its mode accepts as it is. -/
def chatResponseFromResult (result : ChatResult) : Dict :=
  [("mode", .str result.mode.text), ("response", .str result.response), ("intent", .obj (intentDump result.intent)),
   ("data", match result.data with
    | some data => .obj data
    | none => .null),
   ("metadata", .obj [("session_id", .optStr result.metadata.sessionId)])]

/-- What ends a request that the agent service has raised from. A cancelled one has no
    caller any more. -/
def raisedFailure : Raised → Option Failure
  | .api raised => some (.api { toAPIError := raised })
  | .exception raised => some (.unexpected raised)
  | .cancelled => none

/-- The response to a request that is answered so, after it has sent these events. -/
def chatExchange (library : JsonLibrary) (strOf : StrOf) (sent : List Dict) : Response → Option Webui.Client.Exchange
  | .full result =>
      some (JSONResponse.exchange library.render { statusCode := 200, content := .obj (chatResponseFromResult result) })
  | .streamed => some (.response 200 (sent.flatMap (sseData library.floats)))
  | .failed raised => (raisedFailure raised).map fun failure => (failure.response strOf).exchange library.render

end LanguageAgent.Api
