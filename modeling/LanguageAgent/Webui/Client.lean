import LanguageAgent.Gateway.LlamaServer
import LanguageAgent.Python.Numbers

/-! # The backend client of the Web UI

What `FastAPIClient` makes of a response. The request it sends first does not affect how
the response is read.
-/

namespace LanguageAgent.Webui.Client

open Gateway Queue

/-! ## Errors -/

/-- `BackendClientError` and its subclasses. -/
inductive BackendClientError where
  | unavailable (message : String)
  | timeout (message : String)
  | http (message : String) (statusCode : Nat) (errorCode : String)
  | authentication (message : String) (statusCode : Nat) (errorCode : String)
  | userAuthentication (message : String) (statusCode : Nat) (errorCode : String)
  | validation (message : String) (statusCode : Nat) (errorCode : String)
  | conflict (message : String) (statusCode : Nat) (errorCode : String)
  | featureDisabled (message : String) (statusCode : Nat) (errorCode : String)
  | authConfiguration (message : String)
  | invalidResponse (message : String)
  | stream (message : String)

inductive ClientRaised where
  | client (error : BackendClientError)
  /-- Any other exception. -/
  | other (error : PyError)

abbrev ClientM := Except ClientRaised

/-- The message, status code and error code of a `BackendHTTPError`, of a subclass too. -/
def BackendClientError.httpError? : BackendClientError → Option (String × Nat × String)
  | .http message statusCode errorCode | .authentication message statusCode errorCode
  | .userAuthentication message statusCode errorCode | .validation message statusCode errorCode
  | .conflict message statusCode errorCode | .featureDisabled message statusCode errorCode =>
      some (message, statusCode, errorCode)
  | _ => none

/-! ## Conversions -/

/-- `str(value)`, which is the value where that is a string. -/
structure StrOf where
  text : Json → String
  ofString : ∀ s, text (.str s) = s

/-- The text of a text, and none of anything else. -/
def plainText (value : Json) : String := value.str?.getD ""

theorem plainText_str (s : String) : plainText (.str s) = s := rfl

def plainStrOf : StrOf where
  text := plainText
  ofString := plainText_str

/-- `int(value)` -/
def intOf : Json → Except PyError Int
  | .int n => .ok n
  | .bool b => .ok (if b then 1 else 0)
  | .float (.finite x) => .ok (x.num.tdiv x.den)
  | .float (.inf _) => .error
      { className := "OverflowError", message := "cannot convert float infinity to integer" }
  | .float .nan => .error
      { className := "ValueError", message := "cannot convert float NaN to integer", valueTypeOrKey := true }
  | .str text =>
      match Python.intOfText text.toList with
      | some n => .ok n
      | none => .error
          { className := "ValueError", message := "invalid literal for int() with base 10", valueTypeOrKey := true }
  | value => .error
      { className := "TypeError"
        message := "int() argument must be a string, a bytes-like object or a real number, not '" ++ value.typeName ++ "'"
        valueTypeOrKey := true }

/-- `data[key]` -/
def required (data : Dict) (key : String) : ClientM Json :=
  match data.get? key with
  | some value => .ok value
  | none => .error (.other { className := "KeyError", message := "'" ++ key ++ "'", valueTypeOrKey := true })

def converted (value : Json) : ClientM Int := (intOf value).mapError .other

/-- `data.get(key)` where it is not `None`. -/
def present (data : Dict) (key : String) : Option Json :=
  match data.get? key with
  | some .null => none
  | found => found

/-! ## Bodies -/

section Bodies

variable (loads : List Char → Except LoadsError Json)

/-- A streamed response whose body nobody has read has no content. -/
inductive Body where
  | read (text : List Char)
  | unread

def responseNotRead : PyError where
  className := "ResponseNotRead"
  message := "Attempted to access streaming response content, without having called `read()`."

/-- `response.json()` -/
def Body.json : Body → Except LoadsError Json
  | .read text => loads text
  | .unread => .error (.other responseNotRead)

/-- `format_backend_error` -/
def formatBackendError (status : Nat) (body : Body) : ClientM (String × String) :=
  let fallback := "Backend request failed with HTTP " ++ toString status ++ "."
  match body.json loads with
  | .error (.other error) => .error (.other error)
  | .error _ => .ok (fallback, "")
  | .ok (.obj data) =>
      match Dict.str? data "message", Dict.str? data "error" with
      | some message, some error => .ok (message ++ " (" ++ error ++ ")", error)
      | some message, none => .ok (message, "")
      | none, _ => .ok (fallback, "")
  | .ok _ => .ok (fallback, "")

/-- `response.raise_for_status` accepts the status. -/
def isSuccess (status : Nat) : Bool := 200 ≤ status && status < 300

/-- `response.is_error` -/
def isError (status : Nat) : Bool := 400 ≤ status && status < 600

/-- `_raise_for_error` -/
def raiseForError (invalidUserStatusCodes : List Nat) (status : Nat) (body : Body) : ClientM Unit :=
  if isSuccess status then .ok ()
  else do
    let (message, errorCode) ← formatBackendError loads status body
    if status ∈ invalidUserStatusCodes ∧ errorCode = "invalid_credentials" then
      .error (.client (.userAuthentication "Invalid username or password." status errorCode))
    else if status = 401 then
      .error (.client (.authentication "The Web UI could not authenticate with the backend." status errorCode))
    else .error (.client (.http message status errorCode))

/-- `_json_response` -/
def jsonResponse (invalidUserStatusCodes : List Nat) (status : Nat) (text : List Char) : ClientM Dict := do
  raiseForError loads invalidUserStatusCodes status (.read text)
  match loads text with
  | .ok (.obj data) => .ok data
  | .ok _ => .error (.client (.invalidResponse "Backend returned an unexpected response shape."))
  | .error (.other error) => .error (.other error)
  | .error _ => .error (.client (.invalidResponse "Backend returned an invalid JSON response."))

/-- `parse_sse_line` -/
def parseSseLine (line : List Char) : ClientM (Option Dict) :=
  if "data:".toList.isPrefixOf line then
    match Python.strip (line.drop 5) with
    | [] => .ok none
    | rawData =>
        match loads rawData with
        | .ok (.obj event) => .ok (some event)
        | .ok _ => .error (.client (.stream "Backend returned an unexpected streaming event."))
        | .error .decode => .error (.client (.stream "Backend returned an invalid streaming event."))
        | .error (.value message) =>
            .error (.other { className := "ValueError", message := message, valueTypeOrKey := true })
        | .error (.other error) => .error (.other error)
  else .ok none

end Bodies

/-! ## Requests -/

inductive RequestFailure where
  /-- `httpx.TimeoutException` -/
  | timeout
  /-- Any other `httpx.RequestError`, with its text. -/
  | request (text : List Char)

/-- A request, and the text of the response. -/
inductive Exchange where
  | failed (failure : RequestFailure)
  | response (status : Nat) (text : List Char)

/-- `format_request_error` -/
def formatRequestError (error : List Char) : String :=
  match Python.strip error with
  | [] => "Could not connect to the FastAPI backend."
  | message => "Could not connect to the FastAPI backend: " ++ String.ofList message

/-- The `except` clauses around a request. -/
def RequestFailure.raised (timedOut : String) : RequestFailure → ClientRaised
  | .timeout => .client (.timeout timedOut)
  | .request text => .client (.unavailable (formatRequestError text))

/-- What httpx raises for a header it cannot encode. -/
def headerNotAscii : PyError where
  className := "UnicodeEncodeError"
  message := "'ascii' codec can't encode characters: ordinal not in range(128)"
  valueTypeOrKey := true

/-- `_auth_headers`, and their encoding. -/
def authHeaders (apiKey : String) : ClientM Unit :=
  if apiKey = "" then .error (.client (.authConfiguration "The Web UI is missing the backend API key."))
  else if Python.isAscii apiKey then .ok () else .error (.other headerNotAscii)

/-- Send a request with the API key, and read its response. -/
def exchanged {α : Type} (apiKey timedOut : String) (exchange : Exchange)
    (read : (status : Nat) → (text : List Char) → ClientM α) : ClientM α :=
  match authHeaders apiKey, exchange with
  | .error raised, _ => .error raised
  | .ok (), .failed failure => .error (failure.raised timedOut)
  | .ok (), .response status text => read status text

section Exchanged

variable {α : Type} {apiKey timedOut : String} {exchange : Exchange} {read : Nat → List Char → ClientM α}

theorem exchanged_unsent {raised : ClientRaised} (unsent : authHeaders apiKey = .error raised) :
    exchanged apiKey timedOut exchange read = .error raised := by
  simp only [exchanged, unsent]

theorem exchanged_failed (sends : authHeaders apiKey = .ok ()) {failure : RequestFailure} :
    exchanged apiKey timedOut (.failed failure) read = .error (failure.raised timedOut) := by
  simp only [exchanged, sends]

theorem exchanged_response (sends : authHeaders apiKey = .ok ()) {status : Nat} {text : List Char} :
    exchanged apiKey timedOut (.response status text) read = read status text := by
  simp only [exchanged, sends]

theorem authHeaders_error {raised : ClientRaised} (unsent : authHeaders apiKey = .error raised) :
    raised = .client (.authConfiguration "The Web UI is missing the backend API key.") ∨
      (raised = .other headerNotAscii ∧ Python.isAscii apiKey = false) := by
  unfold authHeaders at unsent
  split_ifs at unsent with missing ascii
  · exact .inl (Except.error.inj unsent).symm
  · exact .inr ⟨(Except.error.inj unsent).symm, Bool.eq_false_iff.mpr ascii⟩

end Exchanged

structure AuthenticatedBackendUser where
  userId : Int
  username : String
  displayName : Option String
  role : String
  isAdmin : Bool
  preferredLanguage : Option String
  uiTheme : Option String

structure BackendSignupResult where
  success : Bool
  message : String
  userId : Option Int
  username : Option String
  createdAt : Option String

section Requests

variable (loads : List Char → Except LoadsError Json) (strOf : StrOf) (apiKey : String)

def readUser (data : Dict) : ClientM AuthenticatedBackendUser := do
  let userId ← required data "user_id" >>= converted
  let username ← required data "username"
  let role ← required data "role"
  let isAdmin ← required data "is_admin"
  pure
    { userId
      username := strOf.text username
      displayName := (present data "display_name").map strOf.text
      role := strOf.text role
      isAdmin := isAdmin.truthy
      preferredLanguage := (present data "preferred_language").map strOf.text
      uiTheme := (present data "ui_theme").map strOf.text }

/-- `authenticate_user` -/
def authenticateUser (exchange : Exchange) : ClientM AuthenticatedBackendUser :=
  exchanged apiKey "The FastAPI backend timed out while authenticating the user." exchange fun status text => do
    let data ← jsonResponse loads [403] status text
    readUser strOf data

/-- The `except BackendHTTPError` of `signup_user`. -/
def signupError (error : BackendClientError) : BackendClientError :=
  match error.httpError? with
  | none => error
  | some (message, statusCode, errorCode) =>
      if (statusCode = 403 ∨ statusCode = 404) ∧ errorCode = "signup_disabled" then
        .featureDisabled "Account sign-up is not available right now." statusCode errorCode
      else if statusCode = 409 ∧ errorCode = "username_unavailable" then
        .conflict "That username is unavailable." statusCode errorCode
      else if (statusCode = 400 ∨ statusCode = 422) ∧
          (errorCode = "invalid_signup" ∨ errorCode = "validation_error") then
        .validation message statusCode errorCode
      else error

def readSignup (data : Dict) : ClientM BackendSignupResult := do
  let message ← required data "message"
  let userId ← match present data "user_id" with
    | some value => some <$> converted value
    | none => pure none
  pure
    { success := ((data.get? "success").getD (.bool false)).truthy
      message := strOf.text message
      userId
      username := (present data "username").map strOf.text
      createdAt := (present data "created_at").map strOf.text }

/-- `signup_user` -/
def signupUser (exchange : Exchange) : ClientM BackendSignupResult :=
  exchanged apiKey "The FastAPI backend timed out while creating the account." exchange fun status text => do
    let data ← match jsonResponse loads [] status text with
      | .error (.client error) => throw (.client (signupError error))
      | outcome => outcome
    readSignup strOf data

/-- `chat_full` -/
def chatFull (exchange : Exchange) : ClientM Dict :=
  exchanged apiKey "The FastAPI backend timed out while generating a response." exchange fun status text =>
    jsonResponse loads [] status text

/-- The lines of a stream, which a failure may end: how it ends and the events it has
    yielded. -/
def readEvents (ending : Option RequestFailure) : List (List Char) → List Dict → ClientM Unit × List Dict
  | [], events =>
      match ending with
      | some failure => (.error (failure.raised "The FastAPI backend timed out while streaming a response."), events)
      | none => (.ok (), events)
  | line :: rest, events =>
      match parseSseLine loads line with
      | .error error => (.error error, events)
      | .ok (some event) => readEvents ending rest (events ++ [event])
      | .ok none => readEvents ending rest events

/-- `chat_stream`, read to its end. Only an error response is read before its status is
    checked. -/
def chatStream (exchange : Exchange) (ending : Option RequestFailure) : ClientM Unit × List Dict :=
  match authHeaders apiKey, exchange with
  | .error raised, _ => (.error raised, [])
  | .ok (), .failed failure => (.error (failure.raised "The FastAPI backend timed out while streaming a response."), [])
  | .ok (), .response status text =>
      match raiseForError loads [] status (if isError status then .read text else .unread) with
      | .error error => (.error error, [])
      | .ok () => readEvents loads ending (Python.splitlines text) []

end Requests

end LanguageAgent.Webui.Client
