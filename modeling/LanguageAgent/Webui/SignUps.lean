import LanguageAgent.Accounts.UserAuthService
import LanguageAgent.Api.Errors

/-! # The sign-up route of the Web UI

It passes the fields of the form on to the API, and says in words of its own why no account
was created.
-/

namespace LanguageAgent.Webui

open Api Gateway Queue Client

/-- What an attribute access on a body that is no object raises. -/
def noGet (payload : Json) : PyError where
  className := "AttributeError"
  message := "'" ++ payload.typeName ++ "' object has no attribute 'get'"

/-- The fields `client.signup_user` is called with. -/
structure SignupForm where
  username : String
  password : String
  confirmPassword : Option String
  displayName : Option String
  preferredLanguage : Option String

/-- The form of a body: whatever is there is made a text, and the username is stripped. -/
def SignupForm.ofPayload (strOf : StrOf) (payload : Dict) : SignupForm where
  username := Python.stripText (strOf.text ((payload.get? "username").getD (.str "")))
  password := strOf.text ((payload.get? "password").getD (.str ""))
  confirmPassword := (present payload "confirm_password").map strOf.text
  displayName := (present payload "display_name").map strOf.text
  preferredLanguage := (present payload "preferred_language").map strOf.text

/-- The form as the API reads it. -/
def SignupForm.command (form : SignupForm) : Accounts.UserSignupCommand where
  username := form.username
  password := form.password
  confirmPassword := form.confirmPassword
  displayName := form.displayName
  preferredLanguage := form.preferredLanguage

/-- The `payload` of `client.signup_user`. -/
def SignupForm.request (form : SignupForm) : Json :=
  .obj ([("username", .str form.username), ("password", .str form.password),
      ("confirm_password", .optStr form.confirmPassword)] ++
    (form.displayName.map fun name => ("display_name", Json.str name)).toList ++
    (form.preferredLanguage.map fun language => ("preferred_language", Json.str language)).toList)

def signupRefusal (statusCode : Nat) (error message : String) : JSONResponse where
  statusCode := statusCode
  content := .obj [("success", .bool false), ("message", .str message), ("error", .str error)]

def signupDisabled : JSONResponse :=
  signupRefusal 404 "signup_disabled" "Account sign-up is not available right now."

/-- The `except` clauses of `auth_signup`. -/
def signupFailed : BackendClientError → JSONResponse
  | .featureDisabled _ _ _ => signupDisabled
  | .conflict _ _ _ => signupRefusal 409 "username_unavailable" "That username is unavailable."
  | .validation message _ errorCode =>
      signupRefusal 400 (if errorCode = "" then "invalid_signup" else errorCode) message
  | _ => signupRefusal 502 "signup_unavailable" "Account sign-up is unavailable right now. Please try again shortly."

def signupCreated (result : BackendSignupResult) : JSONResponse where
  statusCode := 201
  content := .obj
    [("success", .bool result.success), ("message", .str result.message), ("username", .optStr result.username),
     ("user_id", match result.userId with
       | some userId => .int userId
       | none => .null),
     ("created_at", .optStr result.createdAt)]

/-- What the route makes of the client's answer. -/
def signupAnswered : ClientM BackendSignupResult → Except PyError JSONResponse
  | .ok result => .ok (signupCreated result)
  | .error (.client raised) => .ok (signupFailed raised)
  | .error (.other raised) => .error raised

theorem signupFailed_statusCode (raised : BackendClientError) : (signupFailed raised).statusCode ∈ [400, 404, 409, 502] := by
  cases raised <;> simp [signupFailed, signupDisabled, signupRefusal]

end LanguageAgent.Webui
