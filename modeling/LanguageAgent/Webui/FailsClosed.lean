import LanguageAgent.Interleaving.Contract
import LanguageAgent.Webui.Authentication
import LanguageAgent.Webui.Client

/-! # Bad responses of the backend

Which responses the client answers with a value or an error of its own, and which with
another exception.
-/

namespace LanguageAgent.Webui.Client

open Gateway Queue Interleaving

/-- A value, or a `BackendClientError`. -/
def FailsClosed {α : Type} (outcome : ClientM α) : Prop := ∀ error, outcome ≠ .error (.other error)

/-- The text is JSON, or `json.loads` raises a `ValueError`. -/
def Decodes (loads : List Char → Except LoadsError Json) (text : List Char) : Prop :=
  ∀ error, loads text ≠ .error (.other error)

/-- The fields a user is made of are there, and the id is a number or the text of one. -/
structure UserFields (data : Dict) : Prop where
  userId : ∃ value n, data.get? "user_id" = some value ∧ intOf value = .ok n
  username : ∃ value, data.get? "username" = some value
  role : ∃ value, data.get? "role" = some value
  isAdmin : ∃ value, data.get? "is_admin" = some value

structure SignupFields (data : Dict) : Prop where
  message : ∃ value, data.get? "message" = some value
  userId : ∀ value, present data "user_id" = some value → ∃ n, intOf value = .ok n

/-- The body can be decoded, and that of a success has the fields. -/
def Exchange.Readable (loads : List Char → Except LoadsError Json) (fields : Dict → Prop) : Exchange → Prop
  | .failed _ => True
  | .response status text => Decodes loads text ∧
      (isSuccess status = true → ∀ data, loads text = .ok (.obj data) → fields data)

/-- The data of a line, where there is any. -/
def lineData (line : List Char) : Option (List Char) :=
  if "data:".toList.isPrefixOf line then
    match Python.strip (line.drop 5) with
    | [] => none
    | rawData => some rawData
  else none

/-- The data of a line is JSON, or no JSON at all. -/
def LineDecodes (loads : List Char → Except LoadsError Json) (line : List Char) : Prop :=
  ∀ data raised, lineData line = some data → loads data = .error raised → raised = .decode

/-- A line with no event on it, or with one that is an object: the next line is read. -/
def Continues (loads : List Char → Except LoadsError Json) (line : List Char) : Prop :=
  ∀ data, lineData line = some data → ∃ event, loads data = .ok (.obj event)

/-- Every line that is read can be decoded. -/
def LinesDecode (loads : List Char → Except LoadsError Json) (lines : List (List Char)) : Prop :=
  ∀ before line after, lines = before ++ line :: after → (∀ earlier ∈ before, Continues loads earlier) →
    LineDecodes loads line

/-- A stream whose lines can be decoded, or an error response with a body that can. -/
def Exchange.Streamable (loads : List Char → Except LoadsError Json) : Exchange → Prop
  | .failed _ => True
  | .response status text =>
      if isSuccess status then LinesDecode loads (Python.splitlines text)
      else isError status = true ∧ Decodes loads text

/-! ## The login -/

/-- `error.category` -/
def BackendClientError.category : BackendClientError → String
  | .unavailable _ => "backend_unavailable"
  | .timeout _ => "backend_timeout"
  | .http _ _ _ => "backend_http_error"
  | .authentication _ _ _ => "backend_authentication"
  | .userAuthentication _ _ _ => "backend_user_authentication"
  | .validation _ _ _ => "backend_validation"
  | .conflict _ _ _ => "backend_conflict"
  | .featureDisabled _ _ _ => "backend_feature_disabled"
  | .authConfiguration _ => "backend_auth_configuration"
  | .invalidResponse _ => "backend_invalid_response"
  | .stream _ => "backend_stream_error"

/-- The `except` clauses of the login. -/
def BackendClientError.reply : BackendClientError → BackendReply
  | .userAuthentication _ _ _ => .authenticationError
  | error => .clientError error.category

/-- How the login goes on once the client has answered, or what it raises. -/
def loginAnswered (store : StoreKind) (settings : AuthRateLimitSettings) (username : String) :
    ClientM AuthenticatedBackendUser → Except PyError (AuthProgram (Option User))
  | .ok user => .ok (handleReply store settings username (.user user))
  | .error (.client error) => .ok (handleReply store settings username error.reply)
  | .error (.other error) => .error error

section Outcomes

variable {α β : Type} {m : ClientM α} {f : α → ClientM β} {a : α}

@[simp] theorem failsClosed_ok : FailsClosed (.ok a : ClientM α) := fun _ same => by cases same

@[simp] theorem failsClosed_pure : FailsClosed (pure a : ClientM α) := failsClosed_ok

@[simp] theorem failsClosed_client {error : BackendClientError} : FailsClosed (.error (.client error) : ClientM α) :=
  fun _ same => by cases same

@[simp] theorem failsClosed_other {error : PyError} : ¬ FailsClosed (.error (.other error) : ClientM α) :=
  fun closed => closed error rfl

theorem failsClosed_bind : FailsClosed (m >>= f) ↔ FailsClosed m ∧ ∀ a, m = .ok a → FailsClosed (f a) := by
  cases m with
  | ok a =>
      refine Iff.trans (b := FailsClosed (f a)) Iff.rfl ?_
      simp
  | error error =>
      refine Iff.trans (b := FailsClosed (.error error : ClientM β)) Iff.rfl ?_
      cases error <;> simp

end Outcomes

section Responses

variable {loads : List Char → Except LoadsError Json} {strOf : StrOf} {apiKey : String} {exchange : Exchange}
  {status : Nat} {text : List Char} {data : Dict} {key : String} {value : Json} {β : Type}

theorem required_bind {f : Json → ClientM β} :
    FailsClosed (required data key >>= f) ↔ ∃ value, data.get? key = some value ∧ FailsClosed (f value) := by
  rw [failsClosed_bind, required]
  cases data.get? key <;> simp

theorem converted_bind {f : Int → ClientM β} :
    FailsClosed (converted value >>= f) ↔ ∃ n, intOf value = .ok n ∧ FailsClosed (f n) := by
  rw [failsClosed_bind, converted]
  cases intOf value <;> simp [Except.mapError]

theorem readUser_closed : FailsClosed (readUser strOf data) ↔ UserFields data := by
  simp only [readUser, bind_assoc, required_bind, converted_bind, failsClosed_pure, and_true]
  constructor
  · rintro ⟨userId, hasId, n, isInt, username, hasName, role, hasRole, isAdmin, hasAdmin⟩
    exact ⟨⟨userId, n, hasId, isInt⟩, ⟨username, hasName⟩, ⟨role, hasRole⟩, ⟨isAdmin, hasAdmin⟩⟩
  · rintro ⟨⟨userId, n, hasId, isInt⟩, ⟨username, hasName⟩, ⟨role, hasRole⟩, ⟨isAdmin, hasAdmin⟩⟩
    exact ⟨userId, hasId, n, isInt, username, hasName, role, hasRole, isAdmin, hasAdmin⟩

theorem readSignup_closed : FailsClosed (readSignup strOf data) ↔ SignupFields data := by
  rw [readSignup, required_bind]
  constructor
  · rintro ⟨message, hasMessage, closed⟩
    refine ⟨⟨message, hasMessage⟩, fun value has => ?_⟩
    rw [has] at closed
    simp only [map_eq_pure_bind, bind_assoc, converted_bind] at closed
    obtain ⟨n, isInt, -⟩ := closed
    exact ⟨n, isInt⟩
  · rintro ⟨⟨message, hasMessage⟩, userId⟩
    refine ⟨message, hasMessage, ?_⟩
    cases has : present data "user_id" with
    | none => simp
    | some value =>
        obtain ⟨n, isInt⟩ := userId value has
        simp only [map_eq_pure_bind, bind_assoc, converted_bind]
        exact ⟨n, isInt, by simp⟩

theorem formatBackendError_closed {body : Body} :
    FailsClosed (formatBackendError loads status body) ↔ ∀ error, body.json loads ≠ .error (.other error) := by
  unfold formatBackendError
  cases decoded : body.json loads with
  | error error => cases error <;> simp
  | ok value =>
      cases value with
      | obj data =>
          simp only [ne_eq, reduceCtorEq, not_false_eq_true, implies_true, iff_true]
          split <;> simp
      | _ => simp

/-- Nothing but the body can make an error response raise another exception. -/
theorem raiseForError_closed {codes : List Nat} {body : Body} (failed : isSuccess status = false) :
    FailsClosed (raiseForError loads codes status body) ↔ ∀ error, body.json loads ≠ .error (.other error) := by
  simp only [raiseForError, failed, Bool.false_eq_true, if_false, failsClosed_bind, formatBackendError_closed]
  refine and_iff_left fun described _ => ?_
  split_ifs <;> simp

theorem raiseForError_success {codes : List Nat} {body : Body} (success : isSuccess status = true) :
    raiseForError loads codes status body = .ok () := by
  simp [raiseForError, success]

theorem raiseForError_raises {codes : List Nat} {body : Body} (failed : isSuccess status = false) :
    raiseForError loads codes status body ≠ .ok () := by
  unfold raiseForError
  cases formatBackendError loads status body with
  | error error => simp [failed, bind, Except.bind]
  | ok described =>
      simp only [failed, Bool.false_eq_true, if_false, bind, Except.bind]
      split_ifs <;> simp

theorem jsonResponse_closed {codes : List Nat} :
    FailsClosed (jsonResponse loads codes status text) ↔ Decodes loads text := by
  rw [jsonResponse, failsClosed_bind]
  cases success : isSuccess status with
  | false =>
      rw [raiseForError_closed success]
      exact and_iff_left fun _ ok => absurd ok (raiseForError_raises success)
  | true =>
      simp only [raiseForError_success success, failsClosed_ok, true_and, Decodes]
      cases decoded : loads text with
      | error error => cases error <;> simp
      | ok value => cases value <;> simp

theorem jsonResponse_ok {codes : List Nat} :
    jsonResponse loads codes status text = .ok data ↔ isSuccess status = true ∧ loads text = .ok (.obj data) := by
  unfold jsonResponse
  cases success : isSuccess status with
  | false =>
      cases raised : raiseForError loads codes status (.read text) with
      | error error => simp [bind, Except.bind]
      | ok done => exact absurd raised (raiseForError_raises success)
  | true =>
      rw [raiseForError_success success]
      cases decoded : loads text with
      | error error => cases error <;> simp [bind, Except.bind]
      | ok value => cases value <;> simp [bind, Except.bind]

/-- Reading a response, and then the fields of the object it holds. -/
theorem jsonResponse_bind {codes : List Nat} {f : Dict → ClientM β} {fields : Dict → Prop}
    (reads : ∀ data, FailsClosed (f data) ↔ fields data) :
    FailsClosed (jsonResponse loads codes status text >>= f) ↔
      (Exchange.response status text).Readable loads fields := by
  simp only [failsClosed_bind, jsonResponse_closed, jsonResponse_ok, Exchange.Readable, reads, and_imp]
  exact and_congr_right fun _ => ⟨fun closed success data => closed data success,
    fun closed data success => closed success data⟩

/-- The request can be sent, or the client says that its key is missing. -/
theorem authHeaders_closed {closed : Prop} :
    (∀ raised, authHeaders apiKey = .error raised → FailsClosed (.error raised : ClientM β)) ∧
        (authHeaders apiKey = .ok () → closed) ↔
      apiKey = "" ∨ (Python.isAscii apiKey = true ∧ closed) := by
  unfold authHeaders
  by_cases missing : apiKey = ""
  · simp [missing]
  · cases ascii : Python.isAscii apiKey <;> simp [missing]

theorem exchanged_closed {α : Type} {timedOut : String} {read : Nat → List Char → ClientM α} {fields : Dict → Prop}
    (reads : ∀ status text, FailsClosed (read status text) ↔ (Exchange.response status text).Readable loads fields) :
    FailsClosed (exchanged apiKey timedOut exchange read) ↔
      apiKey = "" ∨ (Python.isAscii apiKey = true ∧ exchange.Readable loads fields) := by
  have headers : _ ↔ _ := @authHeaders_closed apiKey α (exchange.Readable loads fields)
  rw [← headers, exchanged.eq_def]
  cases authHeaders apiKey with
  | error raised => simp
  | ok _ =>
      cases exchange with
      | failed failure => cases failure <;> simp [RequestFailure.raised, Exchange.Readable]
      | response status text => simpa using reads status text

theorem authenticateUser_closed :
    FailsClosed (authenticateUser loads strOf apiKey exchange) ↔
      apiKey = "" ∨ (Python.isAscii apiKey = true ∧ exchange.Readable loads UserFields) :=
  exchanged_closed fun _ _ => jsonResponse_bind fun _ => readUser_closed

theorem signupUser_closed :
    FailsClosed (signupUser loads strOf apiKey exchange) ↔
      apiKey = "" ∨ (Python.isAscii apiKey = true ∧ exchange.Readable loads SignupFields) := by
  refine exchanged_closed fun status text => ?_
  have reads : ∀ data, FailsClosed (readSignup strOf data) ↔ SignupFields data := fun _ => readSignup_closed
  rw [← jsonResponse_bind reads]
  cases jsonResponse loads [] status text with
  | ok data => exact Iff.rfl
  | error error => cases error <;> simp [bind, Except.bind, throw, throwThe, MonadExceptOf.throw]

theorem chatFull_closed :
    FailsClosed (chatFull loads apiKey exchange) ↔
      apiKey = "" ∨ (Python.isAscii apiKey = true ∧ exchange.Readable loads fun _ => True) := by
  refine exchanged_closed fun status text => ?_
  simp [jsonResponse_closed, Exchange.Readable]

/-! ## The stream -/

theorem linesDecode_nil : LinesDecode loads [] := by
  intro before line after same
  simp at same

theorem linesDecode_cons {line : List Char} {rest : List (List Char)} :
    LinesDecode loads (line :: rest) ↔ LineDecodes loads line ∧ (Continues loads line → LinesDecode loads rest) := by
  constructor
  · intro decode
    refine ⟨decode [] line rest rfl (by simp), fun goesOn before later after same goOn => ?_⟩
    refine decode (line :: before) later after (by simp [same]) ?_
    simpa [goesOn] using goOn
  · rintro ⟨here, later⟩ before other after same goOn
    cases before with
    | nil =>
        obtain ⟨rfl, rfl⟩ := List.cons.inj same
        exact here
    | cons first before =>
        obtain ⟨rfl, rfl⟩ := List.cons.inj same
        refine later (goOn line List.mem_cons_self) before other after rfl fun earlier member => ?_
        exact goOn earlier (List.mem_cons_of_mem _ member)

theorem parseSseLine_none {line : List Char} (absent : lineData line = none) : parseSseLine loads line = .ok none := by
  unfold lineData at absent
  unfold parseSseLine
  split_ifs at absent ⊢
  · cases stripped : Python.strip (line.drop 5) with
    | nil => rfl
    | cons first rest => simp [stripped] at absent
  · rfl

/-- The data of a line is decoded. -/
theorem parseSseLine_some {line rawData : List Char} (found : lineData line = some rawData) :
    parseSseLine loads line = match loads rawData with
      | .ok (.obj event) => .ok (some event)
      | .ok _ => .error (.client (.stream "Backend returned an unexpected streaming event."))
      | .error .decode => .error (.client (.stream "Backend returned an invalid streaming event."))
      | .error (.value message) =>
          .error (.other { className := "ValueError", message := message, valueTypeOrKey := true })
      | .error (.other error) => .error (.other error) := by
  unfold lineData at found
  unfold parseSseLine
  split_ifs at found ⊢
  cases stripped : Python.strip (line.drop 5) with
  | nil => simp [stripped] at found
  | cons first rest =>
      simp only [stripped, Option.some.injEq] at found
      subst found
      rfl

theorem lineDecodes_some {line rawData : List Char} (found : lineData line = some rawData) :
    LineDecodes loads line ↔ ∀ raised, loads rawData = .error raised → raised = .decode := by
  constructor
  · exact fun decodes raised => decodes rawData raised found
  · intro decodes data raised here
    obtain rfl : rawData = data := Option.some.inj (found.symm.trans here)
    exact decodes raised

theorem continues_some {line rawData : List Char} (found : lineData line = some rawData) :
    Continues loads line ↔ ∃ event, loads rawData = .ok (.obj event) := by
  simp [Continues, found]

theorem parseSseLine_closed {line : List Char} : FailsClosed (parseSseLine loads line) ↔ LineDecodes loads line := by
  cases found : lineData line with
  | none => simp [parseSseLine_none found, LineDecodes, found]
  | some rawData =>
      rw [parseSseLine_some found, lineDecodes_some found]
      cases loads rawData with
      | error error => cases error <;> simp
      | ok value => cases value <;> simp

/-- The next line is read after one that continues. -/
theorem parseSseLine_ok {line : List Char} : (∃ event, parseSseLine loads line = .ok event) ↔ Continues loads line := by
  cases found : lineData line with
  | none => simp [parseSseLine_none found, Continues, found]
  | some rawData =>
      rw [parseSseLine_some found, continues_some found]
      cases loads rawData with
      | error error => cases error <;> simp
      | ok value => cases value <;> simp

theorem readEvents_closed {ending : Option RequestFailure} {lines : List (List Char)} {events : List Dict} :
    FailsClosed (readEvents loads ending lines events).1 ↔ LinesDecode loads lines := by
  induction lines generalizing events with
  | nil =>
      simp only [linesDecode_nil, iff_true]
      cases ending with
      | none => simp [readEvents]
      | some failure => cases failure <;> simp [readEvents, RequestFailure.raised]
  | cons line rest ih =>
      rw [linesDecode_cons, ← parseSseLine_closed, ← parseSseLine_ok, readEvents]
      cases parseSseLine loads line with
      | error error => cases error <;> simp
      | ok event => cases event <;> simp [ih]

theorem chatStream_closed {ending : Option RequestFailure} :
    FailsClosed (chatStream loads apiKey exchange ending).1 ↔
      apiKey = "" ∨ (Python.isAscii apiKey = true ∧ exchange.Streamable loads) := by
  have headers : _ ↔ _ := @authHeaders_closed apiKey Unit (exchange.Streamable loads)
  rw [← headers, chatStream.eq_def]
  cases authHeaders apiKey with
  | error raised => simp
  | ok _ =>
      simp only [reduceCtorEq, false_implies, implies_true, true_implies, true_and]
      cases exchange with
      | failed failure => cases failure <;> simp [RequestFailure.raised, Exchange.Streamable]
      | response status text =>
          simp only [Exchange.Streamable]
          cases success : isSuccess status with
          | true => simp [raiseForError_success success, readEvents_closed]
          | false =>
              -- only what `is_error` covers has been read when the status is checked
              obtain ⟨body, read⟩ : ∃ body, body = if isError status then Body.read text else .unread := ⟨_, rfl⟩
              rw [← read]
              have refused : FailsClosed (raiseForError loads [] status body) ↔ _ := raiseForError_closed success
              cases raised : raiseForError loads [] status body with
              | ok done => exact absurd raised (raiseForError_raises success)
              | error error =>
                  rw [raised] at refused
                  refine refused.trans ?_
                  rw [read]
                  cases isError status <;> simp [Body.json, Decodes]

/-! ## The login -/

/-- The login goes on where the client fails closed. -/
theorem loginAnswered_ok {store : StoreKind} {settings : AuthRateLimitSettings} {username : String}
    {outcome : ClientM AuthenticatedBackendUser} :
    (∃ program, loginAnswered store settings username outcome = .ok program) ↔ FailsClosed outcome := by
  cases outcome with
  | ok user => simp [loginAnswered]
  | error error => cases error <;> simp [loginAnswered]

/-- Whatever the commands reply. -/
def anyReply : Contract authSignature where
  reply _ _ := True
  command _ := True

theorem honours_anyReply {α : Type} {p : AuthProgram α} : p.Honours anyReply fun _ => True := by
  induction p with
  | done a => trivial
  | issue command next ih => exact ⟨trivial, fun reply _ => ih reply⟩

/-- After an error of the client the login answers `None`. -/
theorem loginAnswered_none {store : StoreKind} {settings : AuthRateLimitSettings} {username : String}
    {error : BackendClientError} {program : AuthProgram (Option User)}
    (answered : loginAnswered store settings username (.error (.client error)) = .ok program) :
    program.Honours anyReply (· = none) := by
  obtain rfl := Except.ok.inj answered
  cases error with
  | userAuthentication => exact honours_anyReply.bind fun _ _ => rfl
  | _ => rfl

end Responses

/-- With a key that can be sent, the calls fail closed on a body that can be decoded and, where
    the status says success, has the fields; on a stream, also no response but a success or an
    error may arrive. The login then goes on, and answers `None` after an error. -/
theorem calls_fail_closed (loads : List Char → Except LoadsError Json) (strOf : StrOf) (apiKey : String)
    (exchange : Exchange) (ending : Option RequestFailure) (store : StoreKind) (settings : AuthRateLimitSettings)
    (username : String) :
    (FailsClosed (authenticateUser loads strOf apiKey exchange) ↔
        apiKey = "" ∨ (Python.isAscii apiKey = true ∧ exchange.Readable loads UserFields)) ∧
      (FailsClosed (signupUser loads strOf apiKey exchange) ↔
        apiKey = "" ∨ (Python.isAscii apiKey = true ∧ exchange.Readable loads SignupFields)) ∧
      (FailsClosed (chatFull loads apiKey exchange) ↔
        apiKey = "" ∨ (Python.isAscii apiKey = true ∧ exchange.Readable loads fun _ => True)) ∧
      (FailsClosed (chatStream loads apiKey exchange ending).1 ↔
        apiKey = "" ∨ (Python.isAscii apiKey = true ∧ exchange.Streamable loads)) ∧
      ((∃ program, loginAnswered store settings username (authenticateUser loads strOf apiKey exchange) = .ok program) ↔
        apiKey = "" ∨ (Python.isAscii apiKey = true ∧ exchange.Readable loads UserFields)) ∧
      ∀ error program, authenticateUser loads strOf apiKey exchange = .error (.client error) →
        loginAnswered store settings username (authenticateUser loads strOf apiKey exchange) = .ok program →
        program.Honours anyReply (· = none) := by
  refine ⟨authenticateUser_closed, signupUser_closed, chatFull_closed, chatStream_closed,
    loginAnswered_ok.trans authenticateUser_closed, fun error program failed answered => ?_⟩
  rw [failed] at answered
  exact loginAnswered_none answered

/-- A login without a username, and a redirected stream. -/
theorem other_exceptions_escape :
    authenticateUser (fun _ => .ok (.obj [("user_id", .int 1)]))
        ⟨fun value => (value.str?).getD "", fun _ => rfl⟩ "key" (.response 200 "\x7b\"user_id\": 1\x7d".toList) =
      .error (.other { className := "KeyError", message := "'username'", valueTypeOrKey := true }) ∧
      (chatStream (fun _ => .error .decode) "key" (.response 302 []) none).1 = .error (.other responseNotRead) := by
  constructor <;> rfl

end LanguageAgent.Webui.Client
