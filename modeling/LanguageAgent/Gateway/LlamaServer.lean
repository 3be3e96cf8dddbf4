import LanguageAgent.Gateway.ThinkBlocks
import LanguageAgent.Queue.Commands

/-! # The llama-server gateway

What `LlamaServerGateway` makes of one HTTP exchange. The request it builds first
does not affect how a reply is read, so an exchange is given by its reply alone.
-/

namespace LanguageAgent

/-- `type(value).__name__` -/
def Json.typeName : Json → String
  | .null => "NoneType"
  | .bool _ => "bool"
  | .int _ => "int"
  | .float _ => "float"
  | .str _ => "str"
  | .arr _ => "list"
  | .obj _ => "dict"

namespace Gateway

open Queue

/-- How `json.loads` raises: on a text that is not JSON, on a number it refuses to
    convert (another `ValueError`), or otherwise. -/
inductive LoadsError where
  /-- `json.JSONDecodeError` -/
  | decode
  | value (message : String)
  | other (error : PyError)

/-- What `client.post` comes to. -/
inductive Posted where
  /-- `httpx.TimeoutException` -/
  | timedOut
  /-- `httpx.ConnectError` -/
  | notConnected
  /-- `httpx.RequestError` -/
  | requestFailed
  /-- A response, and what `response.json()` makes of its body. -/
  | response (status : Nat) (body : Except LoadsError Json)

def llamaServerTimeoutError (message : String) : PyError :=
  { className := "LlamaServerTimeoutError", message := message }

def llamaServerUnavailableError (message : String) : PyError :=
  { className := "LlamaServerUnavailableError", message := message }

def llamaServerGatewayError (message : String) : PyError :=
  { className := "LlamaServerGatewayError", message := message }

def llamaServerMalformedResponseError (message : String) : PyError :=
  { className := "LlamaServerMalformedResponseError", message := message }

/-- `value.get(key)`; only a dictionary has the method. -/
def getOf (value : Json) (key : String) : Except PyError (Option Json) :=
  match value with
  | .obj fields => .ok (Dict.get? fields key)
  | other => .error
      { className := "AttributeError"
        message := "'" ++ other.typeName ++ "' object has no attribute 'get'" }

/-- `_post_json` -/
def postJson : Posted → Except PyError Json
  | .timedOut => .error (llamaServerTimeoutError "llama-server timed out.")
  | .notConnected => .error (llamaServerUnavailableError "llama-server is unavailable.")
  | .requestFailed => .error (llamaServerGatewayError "llama-server request failed.")
  | .response status body =>
      if status ≠ 200 then
        .error (llamaServerGatewayError ("llama-server returned HTTP " ++ toString status ++ "."))
      else match body with
        | .ok payload => .ok payload
        | .error (.other error) => .error error
        | .error _ =>
            .error (llamaServerMalformedResponseError "llama-server returned malformed JSON.")

/-- `choices[0]`, where `choices` is a list that is not empty. -/
def choiceOf : Option Json → Except PyError Json
  | some (.arr (choice :: _)) => .ok choice
  | _ => .error (llamaServerMalformedResponseError
      "llama-server response did not contain any choices.")

/-- The message, where it is a dictionary. -/
def messageOf : Option Json → Except PyError Dict
  | some (.obj message) => .ok message
  | _ => .error (llamaServerMalformedResponseError
      "llama-server response did not contain a message payload.")

/-- The content, where it is a string. -/
def contentOf : Option Json → Except PyError (List Char)
  | some (.str content) => .ok content.toList
  | _ => .error (llamaServerMalformedResponseError
      "llama-server response did not contain text content.")

/-- `_extract_message_content` -/
def extractMessageContent (responsePayload : Json) : Except PyError (List Char) := do
  let choices ← getOf responsePayload "choices"
  let choice ← choiceOf choices
  let message ← getOf choice "message"
  let message ← messageOf message
  let content ← contentOf (Dict.get? message "content")
  pure (Python.strip (stripThinkBlocks content))

/-- `json.loads(content)`; only a `json.JSONDecodeError` becomes the gateway's own error. -/
def loadStructured (loads : List Char → Except LoadsError Json) (content : List Char) :
    Except PyError Json :=
  match loads content with
  | .ok value => .ok value
  | .error .decode => .error (llamaServerMalformedResponseError
      "llama-server returned malformed structured output.")
  | .error (.value message) =>
      .error { className := "ValueError", message := message, valueTypeOrKey := true }
  | .error (.other error) => .error error

/-- `ask_llm_sync` -/
def askLlmSync (loads : List Char → Except LoadsError Json) (posted : Posted) :
    Except PyError Json := do
  let responsePayload ← postJson posted
  let content ← extractMessageContent responsePayload
  loadStructured loads content

/-- `generate_text_sync` -/
def generateTextSync (posted : Posted) : Except PyError String := do
  let responsePayload ← postJson posted
  let content ← extractMessageContent responsePayload
  .ok (String.ofList content)

/-! ## Structured responses -/

/-- A field of an object. -/
def field (key : String) : Json → Option Json
  | .obj fields => Dict.get? fields key
  | _ => none

def firstItem : Json → Option Json
  | .arr (item :: _) => some item
  | _ => none

/-- The text of the first choice's message. -/
def messageText (payload : Json) : Option (List Char) := do
  let choices ← field "choices" payload
  let choice ← firstItem choices
  let message ← field "message" choice
  let content ← field "content" message
  content.str?.map String.toList

/-- The value a well-formed body carries: the first message holds a text that is JSON
    once its think blocks are gone. -/
def structuredResponse (loads : List Char → Except LoadsError Json) (body : Except LoadsError Json) :
    Option Json := do
  let payload ← body.toOption
  let content ← messageText payload
  (loads (Python.strip (stripThinkBlocks content))).toOption

/-- `json.loads` gives up on a text, and does not say that it is no JSON. -/
def LoadsError.Refuses : LoadsError → Prop
  | .decode => False
  | .value _ => True
  | .other error => error.valueTypeOrKey = true

/-- `json.loads` gives up with a `ValueError`, `TypeError` or `KeyError` of its own: on the
    message, or (the last two) on the body. -/
def RefusedByLoads (loads : List Char → Except LoadsError Json) (body : Except LoadsError Json) :
    Prop :=
  match body with
  | .ok payload => ∃ content raised, messageText payload = some content ∧
      loads (Python.strip (stripThinkBlocks content)) = .error raised ∧ raised.Refuses
  | .error (.other error) => error.valueTypeOrKey = true
  | .error _ => False

/-- A value is found just when there is one, and otherwise an error is raised that the
    worker would retry. -/
def Finds {α : Type} (found : Except PyError α) (present : Option α) : Prop :=
  match found with
  | .ok a => present = some a
  | .error error => present = none ∧ error.valueTypeOrKey = false

section Replies

variable {α β : Type} {loads : List Char → Except LoadsError Json} {body : Except LoadsError Json}

theorem Finds.bind {found : Except PyError α} {present : Option α} {f : α → Except PyError β}
    {g : α → Option β} (finds : Finds found present) (next : ∀ a, Finds (f a) (g a)) :
    Finds (found >>= f) (present.bind g) := by
  cases found with
  | ok a =>
      obtain rfl : present = some a := finds
      exact next a
  | error error =>
      obtain ⟨rfl, retried⟩ := finds
      exact ⟨rfl, retried⟩

private theorem getOf_finds {f : Option Json → Except PyError α} {g : Json → Option α}
    (key : String) (value : Json) (finds : ∀ found, Finds (f found) (found.bind g)) :
    Finds (getOf value key >>= f) ((field key value).bind g) := by
  cases value with
  | obj fields => exact finds (Dict.get? fields key)
  | _ => exact ⟨rfl, rfl⟩

private theorem choiceOf_finds (choices : Option Json) :
    Finds (choiceOf choices) (choices.bind firstItem) := by
  cases choices with
  | none => exact ⟨rfl, rfl⟩
  | some choices =>
      cases choices with
      | arr items =>
          cases items with
          | nil => exact ⟨rfl, rfl⟩
          | cons choice rest => exact rfl
      | _ => exact ⟨rfl, rfl⟩

private theorem contentOf_finds (content : Option Json) :
    Finds (contentOf content) (content.bind fun content => content.str?.map String.toList) := by
  cases content with
  | none => exact ⟨rfl, rfl⟩
  | some content =>
      cases content with
      | str text => exact rfl
      | _ => exact ⟨rfl, rfl⟩

private theorem messageOf_finds (message : Option Json) :
    Finds (messageOf message >>= fun message => contentOf (Dict.get? message "content"))
      (message.bind fun message =>
        (field "content" message).bind fun content => content.str?.map String.toList) := by
  cases message with
  | none => exact ⟨rfl, rfl⟩
  | some message =>
      cases message with
      | obj fields => exact contentOf_finds (Dict.get? fields "content")
      | _ => exact ⟨rfl, rfl⟩

theorem extractMessageContent_finds (payload : Json) :
    Finds (extractMessageContent payload)
      ((messageText payload).map fun content => Python.strip (stripThinkBlocks content)) := by
  have choice := getOf_finds "choices" payload choiceOf_finds
  have content := choice.bind fun choice => getOf_finds "message" choice messageOf_finds
  have stripped := content.bind
    (f := fun content => pure (Python.strip (stripThinkBlocks content)))
    (g := fun content => some (Python.strip (stripThinkBlocks content))) fun _ => rfl
  convert stripped using 1
  · simp only [extractMessageContent, bind_assoc]
  · simp only [messageText, Option.bind_eq_bind, Option.bind_assoc, Option.map_eq_bind,
      Function.comp_def]

theorem loadStructured_error {content : List Char} {raised : LoadsError}
    (gaveUp : loads content = .error raised) :
    ∃ error, loadStructured loads content = .error error ∧
      (error.valueTypeOrKey = true ↔ raised.Refuses) := by
  unfold loadStructured
  rw [gaveUp]
  cases raised with
  | decode => exact ⟨_, rfl, nofun, nofun⟩
  | value message => exact ⟨_, rfl, fun _ => trivial, fun _ => rfl⟩
  | other error => exact ⟨error, rfl, Iff.rfl⟩

/-- An invalid structured response always raises; which class is left to `json.loads`. -/
theorem askLlmSync_invalid (invalid : structuredResponse loads body = none) :
    ∃ error, askLlmSync loads (.response 200 body) = .error error ∧
      (error.valueTypeOrKey = true ↔ RefusedByLoads loads body) := by
  cases body with
  | error raised =>
      cases raised with
      | other error => exact ⟨error, rfl, Iff.rfl⟩
      | _ => exact ⟨_, rfl, nofun, nofun⟩
  | ok payload =>
      have finds := extractMessageContent_finds payload
      have asked : askLlmSync loads (.response 200 (.ok payload)) =
          extractMessageContent payload >>= loadStructured loads := rfl
      rw [asked]
      cases extracted : extractMessageContent payload with
      | error error =>
          rw [extracted] at finds
          have missing := Option.map_eq_none_iff.mp finds.1
          refine ⟨error, rfl, fun refuses => ?_, ?_⟩
          · exact absurd (finds.2.symm.trans refuses) Bool.false_ne_true
          · rintro ⟨content, raised, text, _⟩
            cases missing.symm.trans text
      | ok shown =>
          rw [extracted] at finds
          obtain ⟨content, text, rfl⟩ := Option.map_eq_some_iff.mp finds
          cases loaded : loads (Python.strip (stripThinkBlocks content)) with
          | ok value => simp [structuredResponse, Except.toOption, text, loaded] at invalid
          | error raised =>
              obtain ⟨error, failed, refuses⟩ := loadStructured_error loaded
              refine ⟨error, failed, fun refused => ?_, ?_⟩
              · exact ⟨content, raised, text, loaded, refuses.mp refused⟩
              · rintro ⟨other, again, text', loaded', refused⟩
                obtain rfl := Option.some.inj (text.symm.trans text')
                obtain rfl := Except.error.inj (loaded.symm.trans loaded')
                exact refuses.mpr refused

end Replies

end Gateway

end LanguageAgent
