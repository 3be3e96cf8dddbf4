import LanguageAgent.Gateway.QueuedGateway
import LanguageAgent.Webui.FailsClosed

/-! # Error responses of the API

Every failure of a request is answered with a JSON object that names it, and the Web UI's
client reads the name and the message back.
-/

namespace LanguageAgent.Api

open Gateway Queue Webui.Client

/-! ## Failures -/

/-- An `APIError`, with what only its handler reads. -/
structure DetailedError extends APIError where
  details : Option Dict := none
  headers : Option (List (String × String)) := none

def authenticationError : DetailedError where
  statusCode := 401
  error := "authentication_failed"
  message := "A valid API key is required."

def authConfigurationError : DetailedError where
  error := "auth_configuration_error"
  message := "API authentication is not configured correctly."

/-- `HTTPException` -/
structure HTTPException where
  statusCode : Nat
  detail : Json

/-- One of the `errors()` of a `RequestValidationError`. Only keys lead to a place in these
    bodies, and `rest` is what else pydantic says. -/
structure FieldError where
  loc : List String
  type : String
  rest : Dict := []

/-- What ends a request without a response of its route. -/
inductive Failure where
  | api (raised : DetailedError)
  | http (exc : HTTPException)
  | validation (errors : List FieldError)
  | unexpected (exc : PyError)

/-! ## Responses -/

/-- A `JSONResponse`, its content as a value. -/
structure JSONResponse where
  statusCode : Nat
  content : Json
  headers : List (String × String) := []

/-- `ErrorResponse.model_dump()` -/
def errorContent (error message : String) (details : Option Dict) : Dict :=
  [("error", .str error), ("message", .str message),
   ("details", match details with
    | some details => .obj details
    | none => .null)]

def errorResponse (statusCode : Nat) (error message : String) (details : Option Dict := none)
    (headers : Option (List (String × String)) := none) : JSONResponse where
  statusCode := statusCode
  content := .obj (errorContent error message details)
  headers := headers.getD []

def apiErrorHandler (exc : DetailedError) : JSONResponse :=
  errorResponse exc.statusCode exc.error exc.message exc.details exc.headers

/-- A detail that is no object has a code of its own, and headers of the exception are dropped. -/
def httpExceptionHandler (strOf : StrOf) (exc : HTTPException) : JSONResponse :=
  match exc.detail with
  | .obj detail =>
      errorResponse exc.statusCode (strOf.text ((Dict.get? detail "error").getD (.str "http_error")))
        (strOf.text ((Dict.get? detail "message").getD (.str "HTTP request failed.")))
        (match Dict.get? detail "details" with
          | some (.obj details) => some details
          | _ => none)
  | .str detail => errorResponse exc.statusCode "http_error" detail
  | _ => errorResponse exc.statusCode "http_error" "HTTP request failed."

/-- `_validation_status_code` -/
def validationStatusCode (errors : List FieldError) : Nat :=
  if errors.any fun validationError =>
      validationError.loc.getLast? == some "mode" && decide ("enum".toList <:+: validationError.type.toList) then
    400
  else 422

def FieldError.toJson (validationError : FieldError) : Json :=
  .obj ([("type", .str validationError.type), ("loc", .arr (validationError.loc.map .str))] ++
    validationError.rest)

def validationExceptionHandler (errors : List FieldError) : JSONResponse :=
  errorResponse (validationStatusCode errors) "validation_error" "Request validation failed."
    (some [("errors", .arr (errors.map FieldError.toJson))])

def unexpectedExceptionHandler : JSONResponse :=
  errorResponse 500 "internal_error" "An unexpected internal error occurred."

/-- The response of the handler the failure is registered for. -/
def Failure.response (strOf : StrOf) : Failure → JSONResponse
  | .api raised => apiErrorHandler raised
  | .http exc => httpExceptionHandler strOf exc
  | .validation errors => validationExceptionHandler errors
  | .unexpected _ => unexpectedExceptionHandler

theorem validationStatusCode_cases (errors : List FieldError) :
    validationStatusCode errors = 400 ∨ validationStatusCode errors = 422 := by
  unfold validationStatusCode
  split
  · exact .inl rfl
  · exact .inr rfl

/-! ## What the client reads -/

section Reading

variable (render : Json → List Char)

/-- The response as it arrives: `render` writes its body. -/
def JSONResponse.exchange (response : JSONResponse) : Webui.Client.Exchange := .response response.statusCode (render response.content)

end Reading

/-- The error of the client for an error code and a message with this status. -/
def clientError (invalidUserStatusCodes : List Nat) (statusCode : Nat) (error message : String) : BackendClientError :=
  if statusCode ∈ invalidUserStatusCodes ∧ error = "invalid_credentials" then
    .userAuthentication "Invalid username or password." statusCode error
  else if statusCode = 401 then
    .authentication "The Web UI could not authenticate with the backend." statusCode error
  else .http (message ++ " (" ++ error ++ ")") statusCode error

section Reading

variable {loads : List Char → Except LoadsError Json} {statusCode : Nat} {error message : String}
  {details : Option Dict} {text : List Char} {invalidUserStatusCodes : List Nat}

theorem isSuccess_of_isError (failed : isError statusCode = true) : isSuccess statusCode = false := by
  simp only [isError, Bool.and_eq_true, decide_eq_true_eq] at failed
  simp only [isSuccess, Bool.and_eq_false_iff, decide_eq_false_iff_not]
  omega

theorem formatBackendError_errorContent (decoded : loads text = .ok (.obj (errorContent error message details))) :
    formatBackendError loads statusCode (.read text) = .ok (message ++ " (" ++ error ++ ")", error) := by
  simp only [formatBackendError, Body.json, decoded]
  rfl

theorem raiseForError_errorContent (failed : isError statusCode = true)
    (decoded : loads text = .ok (.obj (errorContent error message details))) :
    raiseForError loads invalidUserStatusCodes statusCode (.read text) =
      .error (.client (clientError invalidUserStatusCodes statusCode error message)) := by
  simp only [raiseForError, isSuccess_of_isError failed, Bool.false_eq_true, if_false,
    formatBackendError_errorContent decoded, bind, Except.bind, clientError]
  split_ifs <;> rfl

theorem jsonResponse_errorContent (failed : isError statusCode = true)
    (decoded : loads text = .ok (.obj (errorContent error message details))) :
    jsonResponse loads invalidUserStatusCodes statusCode text =
      .error (.client (clientError invalidUserStatusCodes statusCode error message)) := by
  rw [jsonResponse, raiseForError_errorContent failed decoded]
  rfl

end Reading

end LanguageAgent.Api
