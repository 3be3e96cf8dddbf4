import LanguageAgent.Site.Transport
import LanguageAgent.Webui.SignUps

/-! # Signing in and signing up through the whole site

The Web UI's client, the HTTP routes and the table of users together.
-/

namespace LanguageAgent.Site

open Accounts Api Gateway Queue Webui Webui.Client

/-- One Web UI before one API. -/
structure Setup (Salt Time : Type) where
  api : AccountsApi Salt Time
  library : JsonLibrary
  /-- `config.api_key` of the client. -/
  apiKey : String
  /-- `signup_enabled` of the Web UI. -/
  signupEnabled : Bool

/-- What the database and pydantic are known for: the column of the ids is a 32-bit integer. -/
structure Setup.Sound {Salt Time : Type} (site : Setup Salt Time) : Prop where
  ids : ∀ user, site.api.accepts user = true → user.id < 2 ^ 31
  describes : Describes site.library site.api.describe

variable {Salt Time : Type} (site : Setup Salt Time)

/-- The `payload` of `client.authenticate_user`. -/
def loginPayload (username password : String) : Json := .obj [("username", .str username), ("password", .str password)]

/-- `client.authenticate_user` -/
def Setup.authenticate (delivery : Delivery) (now : Time) (username password : String) (table : UserTable Time) :
    ClientM Client.AuthenticatedBackendUser × UserTable Time :=
  let (exchange, after) :=
    delivery.exchange site.library site.apiKey (loginEndpoint site.api now) (loginPayload username password) table
  (Client.authenticateUser site.library.loads site.api.strOf site.apiKey exchange, after)

/-- `POST /webui/auth/signup` -/
def Setup.signUp (delivery : Delivery) (salt : Salt) (now : Time) (payload : Json) (table : UserTable Time) :
    Except PyError JSONResponse × UserTable Time :=
  if site.signupEnabled = false then (.ok signupDisabled, table)
  else match payload with
    | .obj payload =>
        let form := SignupForm.ofPayload site.api.strOf payload
        let (exchange, after) :=
          delivery.exchange site.library site.apiKey (signupEndpoint site.api salt now) form.request table
        (signupAnswered (Client.signupUser site.library.loads site.api.strOf site.apiKey exchange), after)
    | payload => (.error (noGet payload), table)

/-! ## Failures before the route -/

section Refusals

variable {site} {auth : AuthConfig} {describe : List String → String → Dict} {strOf : StrOf} {library : JsonLibrary}
  {fields : List RequestField} {body : Json} {failure : Failure} {key : Option String}

theorem validateApiKey_error (refused : validateApiKey key auth = .error failure) :
    failure = .api authConfigurationError ∨ failure = .api authenticationError ∨ failure = .unexpected notAscii := by
  unfold validateApiKey at refused
  dsimp only at refused
  split_ifs at refused
  · exact .inl (Except.error.inj refused).symm
  · exact .inr (.inl (Except.error.inj refused).symm)
  · split at refused
    · rename_i raised compared
      have raises : raised = notAscii := by
        unfold compareDigest at compared
        split at compared
        · cases compared
        · exact (Except.error.inj compared).symm
      exact .inr (.inr (by rw [← Except.error.inj refused, raises]))
    · cases refused
    · exact .inr (.inl (Except.error.inj refused).symm)

theorem coded_response {statusCode : Nat} {error message : String} :
    (coded statusCode error message).response strOf = errorResponse statusCode error message := by
  simp [coded, Failure.response, httpExceptionHandler, Dict.get?, List.lookup_cons, strOf.ofString]

/-- An error response the client can read, and which refuses no credentials. -/
structure Readable (library : JsonLibrary) (response : JSONResponse) : Prop where
  fails : isError response.statusCode = true
  holds : library.Holds response.content
  content : ∃ error message details, response.content = .obj (errorContent error message details) ∧
    error ≠ "invalid_credentials"

theorem readable_refusal (strOf : StrOf) (describes : Describes library describe)
    (refused : validateApiKey key auth = .error failure ∨ validateBody describe fields body = .error failure) :
    Readable library (failure.response strOf) := by
  rcases refused with refused | refused
  · rcases validateApiKey_error refused with rfl | rfl | rfl
    · exact ⟨rfl, errorContent_holds describes, _, _, _, rfl, by decide⟩
    · exact ⟨rfl, errorContent_holds describes, _, _, _, rfl, by decide⟩
    · exact ⟨rfl, errorContent_holds describes, _, _, _, rfl, by decide⟩
  · obtain ⟨errors, rfl⟩ := validateBody_error refused
    refine ⟨?_, validationResponse_holds describes (validateBody_described refused), _, _, _, rfl, by decide⟩
    rcases validationStatusCode_cases errors with status | status <;>
      simp [Failure.response, validationExceptionHandler, errorResponse, status, isError]

end Refusals

/-! ## Signing in -/

section SigningIn

variable {site} {now : Time} {username password : String} {table after : UserTable Time}

/-- The client's user for a row of the table. -/
def backendUser (user : UserProfile Time) : Client.AuthenticatedBackendUser where
  userId := user.id
  username := user.username
  displayName := user.displayName
  role := user.role
  isAdmin := user.isAdmin
  preferredLanguage := user.preferredLanguage
  uiTheme := user.uiTheme

theorem readUser_profile (strOf : StrOf) (user : UserProfile Time) :
    readUser strOf (authenticatedUserResponseFromProfile user) = .ok (backendUser user) := by
  obtain ⟨id, username, displayName, passwordHash, role, isActive, isAdmin, createdAt, updatedAt, lastLoginAt,
    preferredLanguage, uiTheme, profileMetadata⟩ := user
  cases displayName <;> cases preferredLanguage <;> cases uiTheme <;>
    simp [readUser, authenticatedUserResponseFromProfile, required, Dict.get?, List.lookup_cons, converted, intOf, present,
      Json.optStr, Json.truthy, strOf.ofString, backendUser, bind, Except.bind, pure, Except.pure, Except.mapError]

theorem fewDigits {n : Nat} (small : n < 2 ^ 31) : n < 10 ^ Json.maxDigits :=
  calc n < 2 ^ 31 := small
    _ ≤ 10 ^ 10 := by decide
    _ ≤ 10 ^ Json.maxDigits := Nat.pow_le_pow_right (by decide) (by decide)

theorem profile_holds {library : JsonLibrary} {describe : List String → String → Dict} (describes : Describes library describe)
    {user : UserProfile Time} (small : user.id < 2 ^ 31) :
    library.Holds (.obj (authenticatedUserResponseFromProfile user)) := by
  obtain ⟨depth, same, -⟩ := describes.held
  have optional : ∀ text : Option String, Json.Held library.floats library.floatOf (depth + 4) (.optStr text) := by
    intro text
    cases text <;> simp [Json.optStr, Json.Held]
  rw [JsonLibrary.Holds, same, Json.Held]
  refine ⟨by simp [authenticatedUserResponseFromProfile], ?_⟩
  simp only [authenticatedUserResponseFromProfile, Json.HeldFields, optional, and_true, Json.Held]
  exact fewDigits small

/-- What `client.authenticate_user` may come to, and what it leaves in the table. -/
inductive SignInAnswer (apiKey : String) (hashing : PasswordHashing Salt) (now : Time) (username password : String)
    (table after : UserTable Time) : ClientM Client.AuthenticatedBackendUser → Prop where
  | signedIn (user : UserProfile Time)
      (authenticated : authenticatePasswordUser hashing now username password table = (some user, after)) :
      SignInAnswer apiKey hashing now username password table after (.ok (backendUser user))
  | refused (authenticated : authenticatePasswordUser hashing now username password table = (none, after)) :
      SignInAnswer apiKey hashing now username password table after
        (.error (.client (.userAuthentication "Invalid username or password." 403 "invalid_credentials")))
  | failed (error : BackendClientError) (other : error.reply = .clientError error.category)
      (changed : after = table ∨ after = (authenticatePasswordUser hashing now username password table).2) :
      SignInAnswer apiKey hashing now username password table after (.error (.client error))
  /-- The key cannot be sent. -/
  | unsent (notAscii : Python.isAscii apiKey = false) (unchanged : after = table) :
      SignInAnswer apiKey hashing now username password table after (.error (.other headerNotAscii))

theorem clientError_reply (statusCode : Nat) {error : String} (message : String) (other : error ≠ "invalid_credentials") :
    (clientError [403] statusCode error message).reply =
      .clientError (clientError [403] statusCode error message).category := by
  unfold clientError
  simp only [other, and_false, if_false]
  split_ifs <;> rfl

/-- The client reads an error response that refuses no credentials as another error. -/
theorem authenticateUser_readable {library : JsonLibrary} {strOf : StrOf} {apiKey : String} {response : JSONResponse}
    (sends : authHeaders apiKey = .ok ()) (readable : Readable library response) :
    ∃ error : BackendClientError, Client.authenticateUser library.loads strOf apiKey (response.exchange library.render) =
      .error (.client error) ∧ error.reply = .clientError error.category := by
  obtain ⟨fails, holds, error, message, details, content, other⟩ := readable
  have decoded := JsonLibrary.loads_render holds
  rw [content] at decoded
  refine ⟨_, ?_, clientError_reply response.statusCode message other⟩
  rw [Client.authenticateUser, JSONResponse.exchange, content, exchanged_response sends, jsonResponse_errorContent fails decoded]
  rfl

/-- What the route of the sign-in does with the credentials it is sent. -/
theorem internalUserLogin_cases {data : Dict} {outcome : Except Failure Dict}
    (valid : validateBody site.api.describe UserPasswordLoginRequest.fields (loginPayload username password) = .ok data)
    (routed : internalUserLogin site.api now data table = (outcome, after)) :
    (∃ user, authenticatePasswordUser site.api.hashing now username password table = (some user, after) ∧
        outcome = .ok (authenticatedUserResponseFromProfile user)) ∨
      (authenticatePasswordUser site.api.hashing now username password table = (none, after) ∧
        outcome = .error invalidCredentials) := by
  obtain rfl := Json.obj.inj (validateBody_ok valid).1
  unfold internalUserLogin at routed
  split at routed
  · rename_i authenticated
    cases routed
    exact .inr ⟨authenticated, rfl⟩
  · rename_i user after authenticated
    cases routed
    exact .inl ⟨user, authenticated, rfl⟩

/-- The route changes the table only as `authenticate_password_user` does. -/
theorem loginEndpoint_after (key : Option String) :
    (loginEndpoint site.api now key (loginPayload username password) table).2 = table ∨
      (loginEndpoint site.api now key (loginPayload username password) table).2 =
        (authenticatePasswordUser site.api.hashing now username password table).2 := by
  cases answered : loginEndpoint site.api now key (loginPayload username password) table with
  | mk response after =>
      rcases endpoint_cases answered with ⟨unchanged, -⟩ | ⟨-, data, valid, ⟨content, routed, -⟩ | ⟨failure, routed, -⟩⟩
      · exact .inl unchanged
      all_goals
        right
        rcases internalUserLogin_cases valid routed with ⟨user, authenticated, -⟩ | ⟨authenticated, -⟩
        all_goals rw [authenticated]

/-- Whoever is authenticated is a row of the table but for the times, and is a row of what is left. -/
theorem authenticate_some {hashing : PasswordHashing Salt} {user : UserProfile Time}
    (authenticated : authenticatePasswordUser hashing now username password table = (some user, after)) :
    (∃ row ∈ table.rows, row.isActive = true ∧ SameAccount row user) ∧ user ∈ after.rows ∧
      user.username = normalizeUsername username ∧ hashing.verifyPassword password user.passwordHash = true := by
  unfold authenticatePasswordUser at authenticated
  split at authenticated
  · cases authenticated
  · rename_i row found
    obtain ⟨member, name⟩ := UserTable.getByUsername_some found
    split at authenticated
    · cases authenticated
    · rename_i active
      split at authenticated
      · cases authenticated
      · rename_i accepted
        have byId : table.getById row.id = some row := Sequences.findBy_mem table.ids member
        simp only [UserTable.updateLastLogin, byId, Prod.mk.injEq, Option.some.injEq] at authenticated
        obtain ⟨rfl, rfl⟩ := authenticated
        refine ⟨⟨row, member, by simpa using active, rfl⟩, ?_, name, by simpa using accepted⟩
        exact List.mem_map.mpr ⟨row, member, if_pos rfl⟩

/-- The client reads the response of a sign-in as the user it is about. -/
theorem authenticateUser_profile (sound : site.Sound) (sends : authHeaders site.apiKey = .ok ()) {user : UserProfile Time}
    (small : user.id < 2 ^ 31) :
    Client.authenticateUser site.library.loads site.api.strOf site.apiKey
      (JSONResponse.exchange site.library.render ⟨200, .obj (authenticatedUserResponseFromProfile user), []⟩) =
        .ok (backendUser user) := by
  have decoded := JsonLibrary.loads_render (profile_holds sound.describes small)
  have read : jsonResponse site.library.loads [403] 200 (site.library.render
      (.obj (authenticatedUserResponseFromProfile user))) = .ok (authenticatedUserResponseFromProfile user) :=
    jsonResponse_ok.mpr ⟨rfl, decoded⟩
  rw [Client.authenticateUser, JSONResponse.exchange, exchanged_response sends]
  simp only [read, bind, Except.bind]
  exact readUser_profile site.api.strOf user

theorem authenticate_answer (sound : site.Sound) (ids : ∀ user ∈ table.rows, user.id < 2 ^ 31) (delivery : Delivery) :
    SignInAnswer site.apiKey site.api.hashing now username password table
      (site.authenticate delivery now username password table).2 (site.authenticate delivery now username password table).1 := by
  unfold Setup.authenticate Delivery.exchange
  cases sends : authHeaders site.apiKey with
  | error raised =>
      dsimp only
      rw [Client.authenticateUser, exchanged_unsent sends]
      rcases authHeaders_error sends with rfl | ⟨rfl, notAscii⟩
      · exact .failed _ rfl (.inl rfl)
      · exact .unsent notAscii rfl
  | ok _ =>
    have raises : ∀ failure, ∃ error : BackendClientError,
        Client.authenticateUser site.library.loads site.api.strOf site.apiKey (.failed failure) = .error (.client error) ∧
          error.reply = .clientError error.category := by
      intro failure
      rw [Client.authenticateUser, exchanged_failed sends]
      cases failure <;> exact ⟨_, rfl, rfl⟩
    cases delivery with
    | lost failure =>
        obtain ⟨error, raised, other⟩ := raises failure
        simp only [raised]
        exact .failed error other (.inl rfl)
    | unanswered failure =>
        obtain ⟨error, raised, other⟩ := raises failure
        simp only [raised]
        exact .failed error other (loginEndpoint_after (some site.apiKey))
    | answered =>
        cases answered : loginEndpoint site.api now (some site.apiKey) (loginPayload username password) table with
        | mk response after =>
            dsimp only
            rcases endpoint_cases answered with
              ⟨rfl, failure, rfl, refused⟩ | ⟨accepted, data, valid, ⟨content, routed, rfl⟩ | ⟨failure, routed, rfl⟩⟩
            · have readable := readable_refusal site.api.strOf sound.describes (refused.imp id And.right)
              obtain ⟨error, raised, other⟩ := authenticateUser_readable sends readable
              rw [raised]
              exact .failed error other (.inl rfl)
            · rcases internalUserLogin_cases valid routed with ⟨user, authenticated, same⟩ | ⟨-, other⟩
              · obtain rfl := Except.ok.inj same
                obtain ⟨⟨row, member, -, account⟩, -⟩ := authenticate_some authenticated
                have small : user.id < 2 ^ 31 := account.id ▸ ids row member
                rw [authenticateUser_profile sound sends small]
                exact .signedIn user authenticated
              · cases other
            · rcases internalUserLogin_cases valid routed with ⟨user, -, other⟩ | ⟨authenticated, same⟩
              · cases other
              · obtain rfl := Except.error.inj same
                have decoded := JsonLibrary.loads_render (@errorContent_holds _ _ "invalid_credentials"
                  "Invalid username or password." sound.describes)
                simp only [invalidCredentials, coded_response, Client.authenticateUser, JSONResponse.exchange, errorResponse]
                rw [exchanged_response sends, jsonResponse_errorContent rfl decoded]
                exact .refused authenticated

end SigningIn

/-! ## Signing up -/

section SigningUp

variable {site} {salt : Salt} {now : Time} {form : SignupForm} {table after : UserTable Time} {user : UserProfile Time}

/-- The account is created with what the form says. -/
def Setup.Creates (site : Setup Salt Time) (salt : Salt) (now : Time) (form : SignupForm) (user : UserProfile Time)
    (table after : UserTable Time) : Prop :=
  signupUser site.api.hashing site.api.casefold site.api.accepts site.api.settings salt now form.command table =
    .ok (user, after)

/-- What the client reads of the response for an account. -/
def createdResult (api : AccountsApi Salt Time) (user : UserProfile Time) : BackendSignupResult where
  success := true
  message := signupMessage api.settings.requireAdminApproval
  userId := some user.id
  username := some user.username
  createdAt := some (api.isoformat user.createdAt)

/-- What the sign-up route may answer, and what it leaves in the table. -/
inductive SignUpAnswer (site : Setup Salt Time) (salt : Salt) (now : Time) (form : SignupForm)
    (table after : UserTable Time) : Except PyError JSONResponse → Prop where
  | created (user : UserProfile Time) (creates : site.Creates salt now form user table after) :
      SignUpAnswer site salt now form table after (.ok (signupCreated (createdResult site.api user)))
  | refused (response : JSONResponse) (status : response.statusCode ∈ [400, 404, 409, 502]) (unchanged : after = table) :
      SignUpAnswer site salt now form table after (.ok response)
  /-- The response that said so is lost. -/
  | unanswered (response : JSONResponse) (status : response.statusCode = 502) (user : UserProfile Time)
      (creates : site.Creates salt now form user table after) : SignUpAnswer site salt now form table after (.ok response)
  /-- The key cannot be sent. -/
  | unsent (unchanged : after = table) : SignUpAnswer site salt now form table after (.error headerNotAscii)

theorem signupCommand_request {data : Dict} (same : form.request = .obj data) : signupCommand data = form.command := by
  obtain ⟨username, password, confirmPassword, displayName, preferredLanguage⟩ := form
  obtain rfl := Json.obj.inj same
  cases confirmPassword <;> cases displayName <;> cases preferredLanguage <;>
    simp [signupCommand, textOf, Dict.str?, Dict.get?, Json.str?, Json.optStr, List.lookup_cons,
      SignupForm.command]

theorem userSignup_cases {data : Dict} {outcome : Except Failure Dict}
    (valid : validateBody site.api.describe UserSignupRequest.fields form.request = .ok data)
    (routed : userSignup site.api salt now data table = (outcome, after)) :
    (∃ user, site.Creates salt now form user table after ∧ outcome = .ok (userSignupResponseFromProfile
        site.api.isoformat user (signupMessage site.api.settings.requireAdminApproval))) ∨
      (after = table ∧ ((∃ raised, outcome = .error (signupFailure site.api.libraryError raised)) ∨
        outcome = .error (coded 404 "signup_disabled" "Account sign-up is not available right now."))) := by
  have command := signupCommand_request (validateBody_ok valid).1
  unfold userSignup at routed
  rw [command] at routed
  split_ifs at routed
  · cases routed
    exact .inr ⟨rfl, .inr rfl⟩
  · split at routed
    · rename_i raised refused
      cases routed
      exact .inr ⟨rfl, .inl ⟨raised, rfl⟩⟩
    · rename_i user after creates
      cases routed
      exact .inl ⟨user, creates, rfl⟩

/-- All `create_user` checks of a row. -/
theorem createUser_accepted {accepts : UserProfile Time → Bool} {new : NewUser}
    (created : table.createUser accepts now new = .ok (user, after)) : accepts user = true := by
  unfold UserTable.createUser at created
  dsimp only at created
  split_ifs at created with taken refused
  cases created
  simpa using refused

/-- The row of a sign-up: its username is the stripped one, and it waits for approval where
    that is required. -/
theorem creates_spec (creates : site.Creates salt now form user table after) :
    ∃ new : NewUser, table.createUser site.api.accepts now new = .ok (user, after) ∧
      new.username = normalizeUsername form.username ∧ new.role = site.api.settings.defaultRole ∧
      new.isActive = !site.api.settings.requireAdminApproval ∧ new.isAdmin = false ∧
      site.api.hashing.hashPassword salt form.password = some new.passwordHash := by
  simp only [Setup.Creates, Accounts.signupUser, bind, Except.bind] at creates
  split at creates
  · cases creates
  · split at creates
    · cases creates
    · split at creates
      · cases creates
      · split at creates
        · cases creates
        · split at creates
          · cases creates
          · rename_i hashed
            exact ⟨_, creates, rfl, rfl, rfl, rfl, hashed⟩

theorem readSignup_response (strOf : StrOf) (api : AccountsApi Salt Time) :
    readSignup strOf (userSignupResponseFromProfile api.isoformat user (signupMessage api.settings.requireAdminApproval)) =
      .ok (createdResult api user) := by
  simp [readSignup, userSignupResponseFromProfile, createdResult, required, Dict.get?, List.lookup_cons, present, converted,
    intOf, Json.truthy, strOf.ofString, bind, Except.bind, pure, Except.pure, Except.mapError, Functor.map, Except.map]

theorem signupResponse_holds {library : JsonLibrary} {describe : List String → String → Dict}
    (describes : Describes library describe) (isoformat : Time → String) (message : String) (small : user.id < 2 ^ 31) :
    library.Holds (.obj (userSignupResponseFromProfile isoformat user message)) := by
  obtain ⟨depth, same, -⟩ := describes.held
  rw [JsonLibrary.Holds, same, Json.Held]
  refine ⟨by simp [userSignupResponseFromProfile], ?_⟩
  simp only [userSignupResponseFromProfile, Json.HeldFields, and_true, true_and, Json.Held]
  exact fewDigits small

/-- The client reads every error response as an error of its own. -/
theorem signupUser_readable {library : JsonLibrary} (strOf : StrOf) {apiKey : String} {response : JSONResponse}
    (sends : authHeaders apiKey = .ok ()) (readable : Readable library response) :
    ∃ error : BackendClientError,
      Client.signupUser library.loads strOf apiKey (response.exchange library.render) = .error (.client error) := by
  obtain ⟨fails, holds, error, message, details, content, -⟩ := readable
  have decoded := JsonLibrary.loads_render holds
  rw [content] at decoded
  refine ⟨signupError (clientError [] response.statusCode error message), ?_⟩
  rw [Client.signupUser, JSONResponse.exchange, content, exchanged_response sends, jsonResponse_errorContent fails decoded]
  rfl

theorem coded_readable {library : JsonLibrary} {describe : List String → String → Dict} {strOf : StrOf}
    (describes : Describes library describe) {statusCode : Nat} {error message : String}
    (fails : isError statusCode = true) (other : error ≠ "invalid_credentials") :
    Readable library ((coded statusCode error message).response strOf) := by
  rw [coded_response]
  exact ⟨fails, errorContent_holds describes, error, message, none, rfl, other⟩

theorem signupFailure_readable {library : JsonLibrary} {describe : List String → String → Dict} {strOf : StrOf}
    (describes : Describes library describe) (libraryError : LibraryError) (raised : CreationError) :
    Readable library ((signupFailure libraryError raised).response strOf) := by
  cases raised with
  | usernameAlreadyExists username => exact coded_readable describes rfl (by decide)
  | valueError message => exact coded_readable describes rfl (by decide)
  | other =>
      cases libraryError with
      | valueError message => exact coded_readable describes rfl (by decide)
      | other exc => exact ⟨rfl, errorContent_holds describes, _, _, _, rfl, by decide⟩

/-- The endpoint of the sign-up: an account is created, or nothing is. -/
theorem signupEndpoint_answer (sound : site.Sound) (key : Option String) {response : JSONResponse}
    (answered : signupEndpoint site.api salt now key form.request table = (response, after)) :
    (∃ user, site.Creates salt now form user table after ∧ response = ⟨200, (.obj (userSignupResponseFromProfile
        site.api.isoformat user (signupMessage site.api.settings.requireAdminApproval))), []⟩) ∨
      (after = table ∧ Readable site.library response) := by
  rcases endpoint_cases answered with
    ⟨unchanged, failure, rfl, refused⟩ | ⟨-, data, valid, ⟨content, routed, rfl⟩ | ⟨failure, routed, rfl⟩⟩
  · exact .inr ⟨unchanged, readable_refusal site.api.strOf sound.describes (refused.imp id And.right)⟩
  · rcases userSignup_cases valid routed with ⟨user, creates, same⟩ | ⟨-, ⟨raised, other⟩ | other⟩
    · obtain rfl := Except.ok.inj same
      exact .inl ⟨user, creates, rfl⟩
    · cases other
    · cases other
  · rcases userSignup_cases valid routed with ⟨user, -, other⟩ | ⟨unchanged, ⟨raised, same⟩ | same⟩
    · cases other
    · obtain rfl := Except.error.inj same
      exact .inr ⟨unchanged, signupFailure_readable sound.describes _ raised⟩
    · obtain rfl := Except.error.inj same
      exact .inr ⟨unchanged, coded_readable sound.describes rfl (by decide)⟩

/-- The sign-up route answers as its name says, but for a request that is lost halfway. -/
theorem signUp_answer (sound : site.Sound) (delivery : Delivery) (salt : Salt) (now : Time) (payload : Dict)
    (table : UserTable Time) :
    SignUpAnswer site salt now (SignupForm.ofPayload site.api.strOf payload) table
      (site.signUp delivery salt now (.obj payload) table).2 (site.signUp delivery salt now (.obj payload) table).1 := by
  have refused : ∀ (raised : BackendClientError) (after : UserTable Time), after = table →
      SignUpAnswer site salt now (SignupForm.ofPayload site.api.strOf payload) table after (.ok (signupFailed raised)) :=
    fun raised after unchanged => .refused _ (signupFailed_statusCode raised) unchanged
  unfold Setup.signUp
  split_ifs with disabled
  · exact .refused _ (by simp [signupDisabled, signupRefusal]) rfl
  dsimp only
  unfold Delivery.exchange
  cases sends : authHeaders site.apiKey with
  | error raised =>
      dsimp only
      rw [Client.signupUser, exchanged_unsent sends]
      rcases authHeaders_error sends with rfl | ⟨rfl, -⟩
      · exact refused _ _ rfl
      · exact .unsent rfl
  | ok _ =>
    have raises : ∀ failure, ∃ raised : BackendClientError, (signupFailed raised).statusCode = 502 ∧
        Client.signupUser site.library.loads site.api.strOf site.apiKey (.failed failure) = .error (.client raised) := by
      intro failure
      rw [Client.signupUser, exchanged_failed sends]
      cases failure with
      | timeout => exact ⟨_, by rfl, rfl⟩
      | request text => exact ⟨_, by rfl, rfl⟩
    cases delivery with
    | lost failure =>
        obtain ⟨raised, -, same⟩ := raises failure
        simp only [same]
        exact refused raised _ rfl
    | unanswered failure =>
        obtain ⟨raised, status, same⟩ := raises failure
        simp only [same]
        cases answered : signupEndpoint site.api salt now (some site.apiKey)
            (SignupForm.ofPayload site.api.strOf payload).request table with
        | mk response after =>
            rcases signupEndpoint_answer sound _ answered with ⟨user, creates, -⟩ | ⟨unchanged, -⟩
            · exact .unanswered _ status user creates
            · exact refused raised _ unchanged
    | answered =>
        cases answered : signupEndpoint site.api salt now (some site.apiKey)
            (SignupForm.ofPayload site.api.strOf payload).request table with
        | mk response after =>
            rcases signupEndpoint_answer sound _ answered with ⟨user, creates, rfl⟩ | ⟨unchanged, readable⟩
            · obtain ⟨new, created, -⟩ := creates_spec creates
              have small : user.id < 2 ^ 31 := sound.ids user (createUser_accepted created)
              have decoded := JsonLibrary.loads_render (signupResponse_holds sound.describes site.api.isoformat
                (signupMessage site.api.settings.requireAdminApproval) small)
              have read := (@jsonResponse_ok site.library.loads 200 _ _ []).mpr ⟨rfl, decoded⟩
              have answer := @readSignup_response _ _ user site.api.strOf site.api
              dsimp only
              rw [Client.signupUser, JSONResponse.exchange, exchanged_response sends]
              simp only [read, bind, Except.bind, answer]
              exact .created user creates
            · obtain ⟨raised, same⟩ := signupUser_readable site.api.strOf sends readable
              rw [same]
              exact refused raised _ unchanged

end SigningUp

end LanguageAgent.Site
