import LanguageAgent.Accounts.SignIn
import LanguageAgent.Api.Requests

/-! # Accounts over HTTP

The routes behind the Web UI's sign-in and sign-up. A request that is refused before it
reaches its route changes nothing.
-/

namespace LanguageAgent.Api

open Accounts Queue Webui.Client

/-! ## Endpoints -/

/-- A route behind its checks. -/
def endpoint {World : Type} (auth : AuthConfig) (describe : List String → String → Dict) (strOf : StrOf)
    (fields : List RequestField) (route : Dict → World → Except Failure Dict × World) (providedKey : Option String)
    (body : Json) (world : World) : JSONResponse × World :=
  match validateApiKey providedKey auth with
  | .error failure => (failure.response strOf, world)
  | .ok () =>
      match validateBody describe fields body with
      | .error failure => (failure.response strOf, world)
      | .ok data =>
          match route data world with
          | (.ok content, after) => ({ statusCode := 200, content := .obj content }, after)
          | (.error failure, after) => (failure.response strOf, after)

/-- A required text of a body that is valid. -/
def textOf (data : Dict) (key : String) : String := (data.str? key).getD ""

section Endpoints

variable {World : Type} {auth : AuthConfig} {describe : List String → String → Dict} {strOf : StrOf}
  {fields : List RequestField} {route : Dict → World → Except Failure Dict × World} {providedKey : Option String}
  {body : Json} {data : Dict} {world after : World} {response : JSONResponse}

/-- All an endpoint can have done. -/
theorem endpoint_cases (answered : endpoint auth describe strOf fields route providedKey body world = (response, after)) :
    (after = world ∧ ∃ failure, response = failure.response strOf ∧
      (validateApiKey providedKey auth = .error failure ∨
        (validateApiKey providedKey auth = .ok () ∧ validateBody describe fields body = .error failure))) ∨
      (validateApiKey providedKey auth = .ok () ∧ ∃ data, validateBody describe fields body = .ok data ∧
        ((∃ content, route data world = (.ok content, after) ∧ response = { statusCode := 200, content := .obj content }) ∨
          ∃ failure, route data world = (.error failure, after) ∧ response = failure.response strOf)) := by
  unfold endpoint at answered
  split at answered
  · rename_i failure refused
    cases answered
    exact .inl ⟨rfl, failure, rfl, .inl refused⟩
  · rename_i accepted
    split at answered
    · rename_i failure refused
      cases answered
      exact .inl ⟨rfl, failure, rfl, .inr ⟨accepted, refused⟩⟩
    · rename_i data valid
      split at answered
      · rename_i content after routed
        cases answered
        exact .inr ⟨accepted, data, valid, .inl ⟨content, routed, rfl⟩⟩
      · rename_i failure after routed
        cases answered
        exact .inr ⟨accepted, data, valid, .inr ⟨failure, routed, rfl⟩⟩

end Endpoints

/-! ## Sign-in -/

/-- An exception of the database or of the password library. -/
inductive LibraryError where
  | valueError (message : String)
  | other (exc : PyError)

/-- What the routes are configured with. -/
structure AccountsApi (Salt Time : Type) where
  auth : AuthConfig
  settings : SignupSettings
  signupEnabled : Bool
  hashing : PasswordHashing Salt
  casefold : String → String
  /-- What the database checks besides the username. -/
  accepts : UserProfile Time → Bool
  libraryError : LibraryError
  isoformat : Time → String
  strOf : StrOf
  describe : List String → String → Dict

variable {Salt Time : Type} (api : AccountsApi Salt Time)

/-- The `detail` of an `HTTPException` with an error code. -/
def coded (statusCode : Nat) (error message : String) : Failure :=
  .http { statusCode := statusCode, detail := .obj [("error", .str error), ("message", .str message)] }

def invalidCredentials : Failure := coded 403 "invalid_credentials" "Invalid username or password."

/-- `AuthenticatedUserResponse.model_dump()` of the response. -/
def authenticatedUserResponseFromProfile (user : UserProfile Time) : Dict :=
  [("user_id", .int user.id), ("username", .str user.username), ("display_name", .optStr user.displayName),
   ("role", .str user.role), ("is_admin", .bool user.isAdmin), ("preferred_language", .optStr user.preferredLanguage),
   ("ui_theme", .optStr user.uiTheme)]

def internalUserLogin (now : Time) (request : Dict) (table : UserTable Time) : Except Failure Dict × UserTable Time :=
  match authenticatePasswordUser api.hashing now (textOf request "username") (textOf request "password") table with
  | (none, after) => (.error invalidCredentials, after)
  | (some user, after) => (.ok (authenticatedUserResponseFromProfile user), after)

/-- `POST /api/internal/auth/login` -/
def loginEndpoint (now : Time) : Option String → Json → UserTable Time → JSONResponse × UserTable Time :=
  endpoint api.auth api.describe api.strOf UserPasswordLoginRequest.fields (internalUserLogin api now)

/-! ## Sign-up -/

/-- `UserSignupResponse.model_dump()` of the response. -/
def userSignupResponseFromProfile (isoformat : Time → String) (user : UserProfile Time) (message : String) : Dict :=
  [("success", .bool true), ("message", .str message), ("user_id", .int user.id), ("username", .str user.username),
   ("created_at", .str (isoformat user.createdAt))]

def signupMessage (requireAdminApproval : Bool) : String :=
  if requireAdminApproval then "Account created. Please wait for approval before signing in."
  else "Account created. Please sign in."

def signupCommand (request : Dict) : UserSignupCommand where
  username := textOf request "username"
  password := textOf request "password"
  confirmPassword := request.str? "confirm_password"
  displayName := request.str? "display_name"
  preferredLanguage := request.str? "preferred_language"

/-- The `except` clauses of `user_signup`. -/
def signupFailure (libraryError : LibraryError) : CreationError → Failure
  | .usernameAlreadyExists _ => coded 409 "username_unavailable" "That username is unavailable."
  | .valueError message => coded 400 "invalid_signup" message
  | .other =>
      match libraryError with
      | .valueError message => coded 400 "invalid_signup" message
      | .other exc => .unexpected exc

def userSignup (salt : Salt) (now : Time) (request : Dict) (table : UserTable Time) :
    Except Failure Dict × UserTable Time :=
  if api.signupEnabled = false then
    (.error (coded 404 "signup_disabled" "Account sign-up is not available right now."), table)
  else
    match signupUser api.hashing api.casefold api.accepts api.settings salt now (signupCommand request) table with
    | .error raised => (.error (signupFailure api.libraryError raised), table)
    | .ok (user, after) =>
        (.ok (userSignupResponseFromProfile api.isoformat user (signupMessage api.settings.requireAdminApproval)), after)

/-- `POST /api/auth/signup` -/
def signupEndpoint (salt : Salt) (now : Time) : Option String → Json → UserTable Time → JSONResponse × UserTable Time :=
  endpoint api.auth api.describe api.strOf UserSignupRequest.fields (userSignup api salt now)

end LanguageAgent.Api
