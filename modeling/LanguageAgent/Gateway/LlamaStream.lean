import LanguageAgent.Gateway.LlamaServer
import LanguageAgent.Gateway.ThinkFilter

/-! # What the llama-server gateway raises

`stream_llm_sync` over the lines of a response, and which of its exceptions, and of those
of `ask_llm_sync` and `generate_text_sync`, are the gateway's own.
-/

namespace LanguageAgent.Gateway

open Queue

/-! ## The stream -/

inductive HttpxError where
  /-- `httpx.TimeoutException` -/
  | timeout
  /-- `httpx.ConnectError` -/
  | connect
  /-- Any other `httpx.RequestError`. -/
  | request

/-- What `client.stream` comes to: a response with its lines, and the error that ends them,
    if one does. -/
inductive Opened where
  | failed (error : HttpxError)
  | response (status : Nat) (lines : List (List Char)) (ending : Option HttpxError)

def llamaServerInterruptedError (message : String) : PyError :=
  { className := "LlamaServerInterruptedError", message := message }

/-- The `except` clauses around the stream. -/
def HttpxError.raised : HttpxError → PyError
  | .timeout => llamaServerTimeoutError "llama-server timed out."
  | .connect => llamaServerUnavailableError "llama-server is unavailable."
  | .request => llamaServerGatewayError "llama-server request failed."

/-- What an event of the stream says. -/
structure StreamEvent where
  finished : Bool
  token : Option (List Char)

/-- `value is not None` -/
def isNotNone : Option Json → Bool
  | none | some .null => false
  | _ => true

def streamChoiceOf : Option Json → Except PyError Json
  | some (.arr (choice :: _)) => .ok choice
  | _ => .error (llamaServerMalformedResponseError "llama-server stream event did not contain choices.")

/-- The token of a delta, where both have the right type. -/
def deltaToken : Option Json → Option (List Char)
  | some (.obj delta) =>
      match Dict.get? delta "content" with
      | some (.str token) => if token = "" then none else some token.toList
      | _ => none
  | _ => none

def readEvent (event : Json) : Except PyError StreamEvent := do
  let choices ← getOf event "choices"
  let choice ← streamChoiceOf choices
  let finishReason ← getOf choice "finish_reason"
  let delta ← getOf choice "delta"
  pure { finished := isNotNone finishReason, token := deltaToken delta }

/-- `json.loads(raw_event)` -/
def loadEvent (loads : List Char → Except LoadsError Json) (rawEvent : List Char) : Except PyError Json :=
  match loads rawEvent with
  | .ok event => .ok event
  | .error .decode => .error (llamaServerMalformedResponseError "llama-server returned malformed stream data.")
  | .error (.value message) => .error { className := "ValueError", message := message, valueTypeOrKey := true }
  | .error (.other error) => .error error

/-- The data of a line, where there is any. -/
def rawEvent (line : List Char) : Option (List Char) :=
  if "data:".toList.isPrefixOf line then
    match Python.strip (line.drop 5) with
    | [] => none
    | data => some data
  else none

structure StreamState where
  sawTerminalEvent : Bool := false
  thinkFilter : ThinkStreamFilter := {}
  /-- The contents yielded so far. -/
  yielded : List (List Char) := []

/-- Yield a content that is not empty. -/
def StreamState.yieldVisible (s : StreamState) (content : List Char) : StreamState :=
  if content = [] then s else { s with yielded := s.yielded ++ [content] }

section Stream

variable (lower : List Char → List Char) (loads : List Char → Except LoadsError Json)

def StreamState.receive (s : StreamState) (event : StreamEvent) : StreamState :=
  let s := { s with sawTerminalEvent := s.sawTerminalEvent || event.finished }
  match event.token with
  | none => s
  | some token =>
      let (visibleToken, thinkFilter) := s.thinkFilter.feed lower token
      { s with thinkFilter }.yieldVisible visibleToken

/-- The loop over the lines. -/
def readLines (ending : Option HttpxError) : List (List Char) → StreamState → Except PyError Unit × StreamState
  | [], s =>
      match ending with
      | some error => (.error error.raised, s)
      | none => (.ok (), s)
  | line :: rest, s =>
      match rawEvent line with
      | none => readLines ending rest s
      | some data =>
          if data = "[DONE]".toList then (.ok (), { s with sawTerminalEvent := true })
          else match loadEvent loads data >>= readEvent with
            | .error error => (.error error, s)
            | .ok event => readLines ending rest (s.receive lower event)

/-- `stream_llm_sync`, read to its end: how it ends and what it has yielded. -/
def streamLlmSync : Opened → Except PyError Unit × List (List Char)
  | .failed error => (.error error.raised, [])
  | .response status lines ending =>
      if status ≠ 200 then
        (.error (llamaServerGatewayError ("llama-server returned HTTP " ++ toString status ++ ".")), [])
      else match readLines lower loads ending lines {} with
        | (.error error, s) => (.error error, s.yielded)
        | (.ok (), s) =>
            if s.sawTerminalEvent then (.ok (), (s.yieldVisible (s.thinkFilter.flush).1).yielded)
            else (.error (llamaServerInterruptedError "llama-server interrupted generation."), s.yielded)

end Stream

/-! ## The gateway's own errors -/

/-- `LlamaServerGatewayError` with its subclasses, and `LlamaServerTimeoutError`. -/
def gatewayErrors : List String :=
  ["LlamaServerGatewayError", "LlamaServerUnavailableError", "LlamaServerMalformedResponseError",
    "LlamaServerInterruptedError", "LlamaServerTimeoutError"]

def PyError.Sanitised (error : PyError) : Prop := error.className ∈ gatewayErrors

/-- It finishes, or raises an error of the gateway. -/
def Sanitises {α : Type} (outcome : Except PyError α) : Prop := ∀ error, outcome = .error error → PyError.Sanitised error

/-- What `json.loads` raises is none of these. -/
def ForeignErrors (loads : List Char → Except LoadsError Json) : Prop :=
  ∀ text error, loads text = .error (.other error) → ¬ PyError.Sanitised error

/-- A POST, with the text of the response. -/
inductive Exchange where
  | failed (error : HttpxError)
  | response (status : Nat) (text : List Char)

/-- `response.json()` is `json.loads` of the text. -/
def Exchange.posted (loads : List Char → Except LoadsError Json) : Exchange → Posted
  | .failed .timeout => .timedOut
  | .failed .connect => .notConnected
  | .failed .request => .requestFailed
  | .response status text => .response status (loads text)

def isObject : Json → Bool
  | .obj _ => true
  | _ => false

/-- The value is a dictionary, and so is the first of its choices, if it has any. -/
def walkable : Json → Bool
  | .obj fields =>
      match Dict.get? fields "choices" with
      | some (.arr (choice :: _)) => isObject choice
      | _ => true
  | _ => false

/-- A text that is no JSON, or a value of which `accepts` holds. -/
def Loadable (loads : List Char → Except LoadsError Json) (accepts : Json → Bool) (text : List Char) : Prop :=
  match loads text with
  | .ok value => accepts value = true
  | .error .decode => True
  | .error _ => False

/-- The body is no JSON, be it only for a number, or a value that can be walked. -/
def Exchange.Walkable (loads : List Char → Except LoadsError Json) : Exchange → Prop
  | .failed _ => True
  | .response status text => status = 200 →
      match loads text with
      | .ok payload => walkable payload = true
      | .error (.other _) => False
      | .error _ => True

/-- The content of the message is JSON or no JSON at all. -/
def Exchange.Structured (loads : List Char → Except LoadsError Json) : Exchange → Prop
  | .failed _ => True
  | .response status text => status = 200 → ∀ payload content, loads text = .ok payload →
      extractMessageContent payload = .ok content → Loadable loads (fun _ => true) content

/-- The data of the lines that are read. -/
def dataRead (loads : List Char → Except LoadsError Json) : List (List Char) → List (List Char)
  | [] => []
  | line :: rest =>
      match rawEvent line with
      | none => dataRead loads rest
      | some data =>
          if data = "[DONE]".toList then [data]
          else match loadEvent loads data >>= readEvent with
            | .error _ => [data]
            | .ok _ => data :: dataRead loads rest

def Opened.Walkable (loads : List Char → Except LoadsError Json) : Opened → Prop
  | .failed _ => True
  | .response status lines _ => status = 200 →
      ∀ data ∈ dataRead loads lines, data = "[DONE]".toList ∨ Loadable loads walkable data

/-- `[DONE]`, or an event with a reason why it is the last. -/
def TerminalData (loads : List Char → Except LoadsError Json) (data : List Char) : Prop :=
  data = "[DONE]".toList ∨ ∃ value event, loads data = .ok value ∧ readEvent value = .ok event ∧ event.finished = true

section Errors

variable {lower : List Char → List Char} {loads : List Char → Except LoadsError Json} {value : Json}

@[simp] theorem sanitises_ok {α : Type} {a : α} : Sanitises (.ok a : Except PyError α) := fun _ fails => by cases fails

@[simp] theorem sanitises_error {α : Type} {error : PyError} :
    Sanitises (.error error : Except PyError α) ↔ PyError.Sanitised error :=
  ⟨fun sanitises => sanitises error rfl, fun sanitised _ same => Except.error.inj same ▸ sanitised⟩

@[simp] theorem sanitised_malformed {message : String} :
    PyError.Sanitised (llamaServerMalformedResponseError message) := by
  simp [PyError.Sanitised, gatewayErrors, llamaServerMalformedResponseError]

@[simp] theorem sanitised_gateway {message : String} : PyError.Sanitised (llamaServerGatewayError message) := by
  simp [PyError.Sanitised, gatewayErrors, llamaServerGatewayError]

@[simp] theorem sanitised_raised {error : HttpxError} : PyError.Sanitised error.raised := by
  cases error <;>
    simp [PyError.Sanitised, gatewayErrors, HttpxError.raised, llamaServerTimeoutError, llamaServerUnavailableError,
      llamaServerGatewayError]

/-- `.get` of a value that is no dictionary. -/
theorem getOf_sanitises {key : String} : Sanitises (getOf value key) ↔ isObject value = true := by
  cases value <;> simp [getOf, isObject, PyError.Sanitised, gatewayErrors]

theorem Sanitises.bind {α β : Type} {m : Except PyError α} {f : α → Except PyError β} (first : Sanitises m)
    (rest : ∀ a, Sanitises (f a)) : Sanitises (m >>= f) := by
  cases m with
  | ok a => exact rest a
  | error error => exact sanitises_error.mpr (first error rfl)

theorem sanitises_bind {α β : Type} {m : Except PyError α} {f : α → Except PyError β} :
    Sanitises (m >>= f) ↔ Sanitises m ∧ ∀ a, m = .ok a → Sanitises (f a) := by
  cases m with
  | ok a =>
      refine Iff.trans (b := Sanitises (f a)) Iff.rfl ?_
      simp
  | error error =>
      refine Iff.trans (b := Sanitises (.error error : Except PyError β)) Iff.rfl ?_
      simp

/-- The first of the choices, or an error of the gateway. -/
def TakesFirst (first : Option Json → Except PyError Json) : Prop :=
  ∀ found : Option Json, match found with
    | some (.arr (choice :: _)) => first found = .ok choice
    | found => ∃ error, first found = .error error ∧ PyError.Sanitised error

/-- The walk from a value to a key of its first choice. -/
theorem walk_sanitises {α : Type} {first : Option Json → Except PyError Json} {key : String}
    {rest : Json → Option Json → Except PyError α} (takesFirst : TakesFirst first)
    (goesOn : ∀ choice found, isObject choice = true → Sanitises (rest choice found)) :
    Sanitises (getOf value "choices" >>= fun choices => first choices >>= fun choice =>
      getOf choice key >>= rest choice) ↔ walkable value = true := by
  cases value with
  | obj fields =>
      have refused : ∀ {found}, (∃ error, first found = .error error ∧ PyError.Sanitised error) →
          Sanitises (first found >>= fun choice => getOf choice key >>= rest choice) := by
        rintro found ⟨error, fails, sanitised⟩
        rw [fails]
        exact sanitises_error.mpr sanitised
      change Sanitises (first (Dict.get? fields "choices") >>= _) ↔ _
      have taken := takesFirst (Dict.get? fields "choices")
      rw [walkable]
      split
      · rename_i choice others found
        rw [found] at taken ⊢
        rw [show first _ = .ok choice from taken]
        change Sanitises (getOf choice key >>= rest choice) ↔ _
        refine ⟨fun walks => getOf_sanitises.mp fun error fails => walks error (by rw [fails]; rfl), fun object => ?_⟩
        exact (getOf_sanitises.mpr object).bind fun found => goesOn choice found object
      · rename_i other
        refine iff_of_true (refused ?_) rfl
        split at taken
        · exact absurd ‹_› (other _ _)
        · exact taken
  | _ => simp [walkable, getOf, Bind.bind, Except.bind, PyError.Sanitised, gatewayErrors]

theorem TakesFirst.intro {first : Option Json → Except PyError Json} (message : String)
    (choice : ∀ choice others, first (some (.arr (choice :: others))) = .ok choice)
    (refused : ∀ found, (∀ choice others, found ≠ some (.arr (choice :: others))) →
      first found = .error (llamaServerMalformedResponseError message)) : TakesFirst first := by
  intro found
  split
  · exact choice _ _
  · rename_i other
    exact ⟨_, refused _ fun choice others same => other choice others same, sanitised_malformed⟩

theorem streamChoiceOf_takesFirst : TakesFirst streamChoiceOf := by
  refine .intro "llama-server stream event did not contain choices." (fun _ _ => rfl) fun found other => ?_
  unfold streamChoiceOf
  split
  · exact absurd rfl (other _ _)
  · rfl

theorem choiceOf_takesFirst : TakesFirst choiceOf := by
  refine .intro "llama-server response did not contain any choices." (fun _ _ => rfl) fun found other => ?_
  unfold choiceOf
  split
  · exact absurd rfl (other _ _)
  · rfl

/-- An event is refused with an error of the gateway when it can be walked. -/
theorem readEvent_sanitises : Sanitises (readEvent value) ↔ walkable value = true := by
  refine walk_sanitises streamChoiceOf_takesFirst fun choice found object => ?_
  exact (getOf_sanitises.mpr object).bind fun delta => sanitises_ok

theorem extractMessageContent_sanitises : Sanitises (extractMessageContent value) ↔ walkable value = true := by
  refine walk_sanitises choiceOf_takesFirst fun choice found _ => ?_
  refine Sanitises.bind ?_ fun message => Sanitises.bind ?_ fun content => sanitises_ok
  · unfold messageOf
    split <;> simp
  · unfold contentOf
    split <;> simp

theorem loadEvent_sanitises {data : List Char} (foreign : ForeignErrors loads) :
    Sanitises (loadEvent loads data >>= readEvent) ↔ Loadable loads walkable data := by
  unfold loadEvent Loadable
  cases loaded : loads data with
  | ok value => exact readEvent_sanitises
  | error raised =>
      cases raised with
      | decode => exact iff_of_true (sanitises_error.mpr sanitised_malformed) trivial
      | value message =>
          refine iff_of_false (fun sanitises => ?_) not_false
          have sanitised := sanitises_error.mp sanitises
          simp [PyError.Sanitised, gatewayErrors] at sanitised
      | other error =>
          exact iff_of_false (fun sanitises => foreign data error loaded (sanitises_error.mp sanitises)) not_false

/-! ## The three calls -/

/-- The loop raises only errors of the gateway when all data that is read can be walked. -/
theorem readLines_sanitises {ending : Option HttpxError} {lines : List (List Char)} {s : StreamState}
    (foreign : ForeignErrors loads) :
    Sanitises (readLines lower loads ending lines s).1 ↔
      ∀ data ∈ dataRead loads lines, data = "[DONE]".toList ∨ Loadable loads walkable data := by
  induction lines generalizing s with
  | nil => cases ending <;> simp [readLines, dataRead]
  | cons line rest ih =>
      cases found : rawEvent line with
      | none => simpa only [readLines, dataRead, found] using ih
      | some data =>
          by_cases done : data = "[DONE]".toList
          · simp only [readLines, dataRead, found, done, if_true]
            simp
          · have walks := @loadEvent_sanitises loads data foreign
            simp only [readLines, dataRead, found, done, if_false]
            cases read : loadEvent loads data >>= readEvent with
            | error error =>
                rw [read] at walks
                simp only [List.forall_mem_singleton, done, false_or]
                exact sanitises_error.trans (sanitises_error.symm.trans walks)
            | ok event =>
                rw [read] at walks
                have loadable := walks.mp sanitises_ok
                simp [ih, loadable]

@[simp] theorem yieldVisible_saw {s : StreamState} {content : List Char} :
    (s.yieldVisible content).sawTerminalEvent = s.sawTerminalEvent := by
  unfold StreamState.yieldVisible
  split <;> rfl

theorem receive_saw {s : StreamState} {event : StreamEvent} :
    (s.receive lower event).sawTerminalEvent = (s.sawTerminalEvent || event.finished) := by
  unfold StreamState.receive
  cases event.token <;> simp

theorem loadEvent_ok {data : List Char} {event : StreamEvent} (read : loadEvent loads data >>= readEvent = .ok event) :
    ∃ value, loads data = .ok value ∧ readEvent value = .ok event := by
  unfold loadEvent at read
  cases loaded : loads data with
  | ok value =>
      rw [loaded] at read
      exact ⟨value, rfl, read⟩
  | error raised =>
      rw [loaded] at read
      cases raised <;> cases read

/-- A stream that finishes has seen its last event. -/
theorem readLines_terminal {lines : List (List Char)} {ending : Option HttpxError} {s : StreamState}
    (finishes : (readLines lower loads ending lines s).1 = .ok ())
    (saw : (readLines lower loads ending lines s).2.sawTerminalEvent = true) :
    s.sawTerminalEvent = true ∨ ∃ data ∈ dataRead loads lines, TerminalData loads data := by
  induction lines generalizing s with
  | nil => cases ending <;> exact .inl saw
  | cons line rest ih =>
      cases found : rawEvent line with
      | none =>
          simp only [readLines, dataRead, found] at finishes saw ⊢
          exact ih finishes saw
      | some data =>
          by_cases done : data = "[DONE]".toList
          · refine .inr ⟨data, ?_, .inl done⟩
            simp [dataRead, found, done]
          · simp only [readLines, dataRead, found, done, if_false] at finishes saw ⊢
            cases read : loadEvent loads data >>= readEvent with
            | error error =>
                rw [read] at finishes
                cases finishes
            | ok event =>
                rw [read] at finishes saw
                simp only at finishes saw ⊢
                rcases ih finishes saw with before | ⟨other, member, terminal⟩
                · rw [receive_saw, Bool.or_eq_true] at before
                  refine before.imp_right fun finished => ⟨data, List.mem_cons_self, .inr ?_⟩
                  obtain ⟨value, loaded, reads⟩ := loadEvent_ok read
                  exact ⟨value, event, loaded, reads, finished⟩
                · exact .inr ⟨other, List.mem_cons_of_mem _ member, terminal⟩

theorem postJson_sanitises {exchange : Exchange} {α : Type} {f : Json → Except PyError α} (foreign : ForeignErrors loads) :
    Sanitises (postJson (exchange.posted loads) >>= f) ↔
      match exchange with
      | .failed _ => True
      | .response status text => status = 200 →
          match loads text with
          | .ok payload => Sanitises (f payload)
          | .error (.other _) => False
          | .error _ => True := by
  cases exchange with
  | failed error =>
      cases error <;> exact iff_of_true (sanitises_error.mpr (by
        simp [PyError.Sanitised, gatewayErrors, llamaServerTimeoutError, llamaServerUnavailableError,
          llamaServerGatewayError])) trivial
  | response status text =>
      by_cases ok : status = 200
      · subst ok
        simp only [Exchange.posted, postJson, ne_eq, not_true_eq_false, if_false, forall_const]
        cases loaded : loads text with
        | ok payload => rfl
        | error raised =>
            cases raised with
            | other error =>
                exact iff_of_false (fun sanitises => foreign text error loaded (sanitises_error.mp sanitises)) not_false
            | _ => exact iff_of_true (sanitises_error.mpr sanitised_malformed) trivial
      · simp only [Exchange.posted, postJson, ne_eq, ok, not_false_eq_true, if_true, false_implies, iff_true]
        exact sanitises_error.mpr sanitised_gateway

theorem generateTextSync_sanitises {exchange : Exchange} (foreign : ForeignErrors loads) :
    Sanitises (generateTextSync (exchange.posted loads)) ↔ exchange.Walkable loads := by
  unfold generateTextSync
  rw [postJson_sanitises foreign]
  cases exchange with
  | failed error => rfl
  | response status text =>
      refine forall_congr' fun _ => ?_
      cases loads text with
      | ok payload =>
          change Sanitises (extractMessageContent payload >>= fun content => .ok (String.ofList content)) ↔
            walkable payload = true
          rw [← extractMessageContent_sanitises, sanitises_bind]
          exact and_iff_left fun _ _ => sanitises_ok
      | error raised => cases raised <;> rfl

/-- The content of a message is loaded. -/
theorem loadStructured_sanitises {content : List Char} (foreign : ForeignErrors loads) :
    Sanitises (loadStructured loads content) ↔ Loadable loads (fun _ => true) content := by
  unfold loadStructured Loadable
  cases loaded : loads content with
  | ok value => simp
  | error raised =>
      cases raised with
      | decode => simp
      | value message => simp [PyError.Sanitised, gatewayErrors]
      | other error => simpa using foreign content error loaded

theorem askLlmSync_sanitises {exchange : Exchange} (foreign : ForeignErrors loads) :
    Sanitises (askLlmSync loads (exchange.posted loads)) ↔ exchange.Walkable loads ∧ exchange.Structured loads := by
  unfold askLlmSync
  rw [postJson_sanitises foreign]
  cases exchange with
  | failed error => simp [Exchange.Walkable, Exchange.Structured]
  | response status text =>
      rw [Exchange.Walkable, Exchange.Structured, ← forall_and]
      refine forall_congr' fun _ => ?_
      cases loaded : loads text with
      | ok payload =>
          simp only [sanitises_bind, extractMessageContent_sanitises, loadStructured_sanitises foreign, Except.ok.injEq]
          refine and_congr_right fun _ => ⟨?_, fun structured content => structured payload content rfl⟩
          rintro structured _ content rfl
          exact structured content
      | error raised => cases raised <;> simp

theorem streamLlmSync_sanitises {opened : Opened} (foreign : ForeignErrors loads) :
    Sanitises (streamLlmSync lower loads opened).1 ↔ opened.Walkable loads := by
  cases opened with
  | failed error => simp [streamLlmSync, Opened.Walkable]
  | response status lines ending =>
      by_cases ok : status = 200
      · subst ok
        have reads := @readLines_sanitises lower loads ending lines {} foreign
        simp only [streamLlmSync, Opened.Walkable, ne_eq, not_true_eq_false, if_false, forall_const]
        rw [← reads]
        rcases readLines lower loads ending lines {} with ⟨_ | _, s⟩
        · rfl
        · cases saw : s.sawTerminalEvent <;> simp [saw, PyError.Sanitised, gatewayErrors, llamaServerInterruptedError]
      · simp [streamLlmSync, Opened.Walkable, ok]

theorem streamLlmSync_terminal {opened : Opened} (finishes : (streamLlmSync lower loads opened).1 = .ok ()) :
    ∃ lines ending, opened = .response 200 lines ending ∧ ∃ data ∈ dataRead loads lines, TerminalData loads data := by
  cases opened with
  | failed error => cases finishes
  | response status lines ending =>
      by_cases ok : status = 200
      · subst ok
        refine ⟨lines, ending, rfl, ?_⟩
        have terminal := @readLines_terminal lower loads lines ending {}
        simp only [streamLlmSync, ne_eq, not_true_eq_false, if_false] at finishes
        generalize readLines lower loads ending lines {} = reading at terminal finishes
        obtain ⟨error | _, s⟩ := reading
        · cases finishes
        · cases saw : s.sawTerminalEvent with
          | false => simp [saw] at finishes
          | true => exact (terminal rfl saw).resolve_left Bool.false_ne_true
      · simp [streamLlmSync, ok] at finishes

/-- The three calls finish or raise an error of the gateway just when what they read can be
    walked, and a stream finishes only after its last event. -/
theorem gateway_sanitises {exchange : Exchange} {opened : Opened} (foreign : ForeignErrors loads) :
    (Sanitises (askLlmSync loads (exchange.posted loads)) ↔ exchange.Walkable loads ∧ exchange.Structured loads) ∧
    (Sanitises (generateTextSync (exchange.posted loads)) ↔ exchange.Walkable loads) ∧
    (Sanitises (streamLlmSync lower loads opened).1 ↔ opened.Walkable loads) ∧
    ((streamLlmSync lower loads opened).1 = .ok () → ∃ lines ending, opened = .response 200 lines ending ∧
      ∃ data ∈ dataRead loads lines, TerminalData loads data) :=
  ⟨askLlmSync_sanitises foreign, generateTextSync_sanitises foreign, streamLlmSync_sanitises foreign,
    streamLlmSync_terminal⟩

end Errors

/-! ## A list for an answer -/

/-- `json.loads` on two texts. -/
def listLoads (text : List Char) : Except LoadsError Json :=
  if text = "[]".toList then .ok (.arr []) else .error .decode

theorem listLoads_foreign : ForeignErrors listLoads := by
  intro text error fails
  unfold listLoads at fails
  split at fails <;> cases fails

theorem gateway_sanitises_demo :
    Sanitises (generateTextSync (Exchange.posted listLoads (.response 200 "no json".toList))) :=
  (@gateway_sanitises id listLoads (.response 200 "no json".toList) (.failed .timeout) listLoads_foreign).2.1.mpr fun _ => by
      change match listLoads "no json".toList with
        | .ok payload => walkable payload = true
        | .error (.other _) => False
        | .error _ => True
      rw [show listLoads "no json".toList = .error .decode from if_neg (by decide)]
      trivial

/-- The `AttributeError` of `response_payload.get` is no error of the gateway. -/
theorem list_body_escapes : ∃ error, generateTextSync (Exchange.posted listLoads (.response 200 "[]".toList)) = .error error ∧
    error.className = "AttributeError" ∧ ¬ PyError.Sanitised error := by
  refine ⟨_, rfl, rfl, ?_⟩
  simp [PyError.Sanitised, gatewayErrors]

end LanguageAgent.Gateway
