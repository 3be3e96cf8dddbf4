import LanguageAgent.Api.Errors
import LanguageAgent.Domain.Conversation

/-! # Requests to the API

The API key is checked before the fields of the body are.
-/

namespace LanguageAgent.Api

open Queue

/-! ## The API key -/

structure AuthConfig where
  enabled : Bool
  apiKey : Option String

/-- What `secrets.compare_digest` raises. -/
def notAscii : PyError where
  className := "TypeError"
  message := "comparing strings with non-ASCII characters is not supported"
  valueTypeOrKey := true

/-- `secrets.compare_digest` of two texts -/
def compareDigest (providedKey expectedKey : String) : Except PyError Bool :=
  if Python.isAscii providedKey && Python.isAscii expectedKey then .ok (providedKey = expectedKey) else .error notAscii

def validateApiKey (providedKey : Option String) (config : AuthConfig) : Except Failure Unit :=
  if config.enabled = false then .ok ()
  else
    let expectedKey := config.apiKey.getD ""
    if expectedKey = "" then .error (.api authConfigurationError)
    else if providedKey.getD "" = "" then .error (.api authenticationError)
    else match compareDigest (providedKey.getD "") expectedKey with
      | .error raised => .error (.unexpected raised)
      | .ok true => .ok ()
      | .ok false => .error (.api authenticationError)

/-- The key is let through. -/
def AuthConfig.Accepts (config : AuthConfig) (key : String) : Prop :=
  config.enabled = false ∨ (config.apiKey = some key ∧ key ≠ "" ∧ Python.isAscii key = true)

theorem compareDigest_true {providedKey expectedKey : String} :
    compareDigest providedKey expectedKey = .ok true ↔ providedKey = expectedKey ∧ Python.isAscii providedKey = true := by
  unfold compareDigest
  by_cases same : providedKey = expectedKey
  · subst same
    cases Python.isAscii providedKey <;> simp
  · split <;> simp [same]

theorem validateApiKey_ok {config : AuthConfig} {key : String} :
    validateApiKey (some key) config = .ok () ↔ config.Accepts key := by
  obtain ⟨enabled, apiKey⟩ := config
  unfold validateApiKey AuthConfig.Accepts
  cases enabled with
  | false => simp
  | true =>
      cases apiKey with
      | none => simp
      | some expectedKey =>
          have compared := @compareDigest_true key expectedKey
          simp only [Bool.true_eq_false, if_false, Option.getD_some, false_or, Option.some.injEq]
          split_ifs with missing absent
          · subst missing
            simp only [false_iff, not_and]
            intro same present
            exact absurd same.symm present
          · simp [absent]
          · rw [eq_comm (a := expectedKey), ← and_assoc, and_right_comm, and_iff_left absent]
            split
            · rename_i raised
              rw [raised] at compared
              simpa using compared
            · rename_i equal
              rw [equal] at compared
              simpa using compared
            · rename_i differs
              rw [differs] at compared
              simpa using compared

/-! ## Bodies -/

/-- What a field of a request may hold. -/
inductive RequestType where
  | str (minLength : Nat)
  | optStr
  | optEnum (values : List String)
  /-- `Literal[True]`, which a number that equals `True` is too. -/
  | literalTrue
  /-- A model of `str | None` fields that allows other keys, or `None`. -/
  | optModel (names : List String)

structure RequestField where
  name : String
  type : RequestType
  required : Bool := false

/-- What is wrong with a value, by the place in it and the type of the error. -/
def RequestType.problems : RequestType → Json → List (List String × String)
  | .str minLength, .str s => if s.length < minLength then [([], "string_too_short")] else []
  | .str _, _ => [([], "string_type")]
  | .optStr, .null | .optStr, .str _ => []
  | .optStr, _ => [([], "string_type")]
  | .optEnum _, .null => []
  | .optEnum values, .str s => if s ∈ values then [] else [([], "enum")]
  | .optEnum _, _ => [([], "enum")]
  | .literalTrue, .bool true | .literalTrue, .int 1 | .literalTrue, .float (.finite 1) => []
  | .literalTrue, _ => [([], "literal_error")]
  | .optModel _, .null => []
  | .optModel names, .obj data =>
      names.filterMap fun name =>
        match Dict.get? data name with
        | none | some .null | some (.str _) => none
        | some _ => some ([name], "string_type")
  | .optModel _, _ => [([], "model_attributes_type")]

section Bodies

-- what pydantic says of an error besides its place and its type
variable (describe : List String → String → Dict)

def fieldError (loc : List String) (type : String) : FieldError where
  loc := loc
  type := type
  rest := describe loc type

def RequestField.errors (data : Dict) (field : RequestField) : List FieldError :=
  match data.get? field.name with
  | some value => (field.type.problems value).map fun problem =>
      fieldError describe ("body" :: field.name :: problem.1) problem.2
  | none => if field.required then [fieldError describe ["body", field.name] "missing"] else []

/-- The errors of a body whose model forbids other keys. -/
def bodyErrors (fields : List RequestField) (data : Dict) : List FieldError :=
  fields.flatMap (RequestField.errors describe data) ++
    (data.filter fun entry => entry.1 ∉ fields.map RequestField.name).map fun entry =>
      fieldError describe ["body", entry.1] "extra_forbidden"

/-- The object in the body, once it fits the model. -/
def validateBody (fields : List RequestField) : Json → Except Failure Dict
  | .obj data =>
      match bodyErrors describe fields data with
      | [] => .ok data
      | errors => .error (.validation errors)
  | _ => .error (.validation [fieldError describe ["body"] "model_attributes_type"])

variable {describe}

theorem validateBody_obj {fields : List RequestField} {data : Dict} (clean : bodyErrors describe fields data = []) :
    validateBody describe fields (.obj data) = .ok data := by
  simp [validateBody, clean]

theorem validateBody_ok {fields : List RequestField} {body : Json} {data : Dict}
    (valid : validateBody describe fields body = .ok data) :
    body = .obj data ∧ bodyErrors describe fields data = [] := by
  cases body with
  | obj fieldsOf =>
      unfold validateBody at valid
      dsimp only at valid
      split at valid
      · rename_i clean
        obtain rfl := Except.ok.inj valid
        exact ⟨rfl, clean⟩
      · cases valid
  | _ => cases valid

/-- A body is refused only as invalid. -/
theorem validateBody_error {fields : List RequestField} {body : Json} {failure : Failure}
    (refused : validateBody describe fields body = .error failure) : ∃ errors, failure = .validation errors := by
  cases body with
  | obj data =>
      unfold validateBody at refused
      dsimp only at refused
      split at refused
      · cases refused
      · exact ⟨_, (Except.error.inj refused).symm⟩
  | _ => exact ⟨_, (Except.error.inj refused).symm⟩

end Bodies

/-! ## The models of the requests -/

def ApiMode.values : List String := ["translation", "definition", "learning", "general"]

def ChatRequest.fields : List RequestField :=
  [{ name := "message", type := .str 1, required := true },
   { name := "mode", type := .optEnum ApiMode.values },
   { name := "metadata", type := .optModel ["session_id", "client"] }]

def StreamChatRequest.fields : List RequestField :=
  ChatRequest.fields ++ [{ name := "stream", type := .literalTrue }]

def UserPasswordLoginRequest.fields : List RequestField :=
  [{ name := "username", type := .str 1, required := true }, { name := "password", type := .str 1, required := true }]

def UserSignupRequest.fields : List RequestField :=
  [{ name := "username", type := .str 1, required := true },
   { name := "password", type := .str 1, required := true },
   { name := "confirm_password", type := .optStr },
   { name := "display_name", type := .optStr },
   { name := "preferred_language", type := .optStr }]

section Modes

variable {describe : List String → String → Dict} {data : Dict} {fields : List RequestField}

/-- The types of the errors that are not about an enum. -/
def plainProblems : List String :=
  ["string_too_short", "string_type", "literal_error", "model_attributes_type", "missing", "extra_forbidden"]

theorem plainProblems_enum {problem : String} (plain : problem ∈ plainProblems) :
    ¬ "enum".toList <:+: problem.toList := by
  revert problem
  decide +kernel

/-- Only the value of an enum is reported as such. -/
theorem RequestType.problems_cases {type : RequestType} {value : Json} {loc : List String} {problem : String}
    (reported : (loc, problem) ∈ type.problems value) :
    (loc = [] ∧ problem = "enum" ∧ ∃ values, type = .optEnum values) ∨ problem ∈ plainProblems := by
  cases type with
  | str minLength => cases value <;> simp_all [problems, plainProblems]
  | optStr => cases value <;> simp_all [problems, plainProblems]
  | optEnum values => cases value <;> simp_all [problems, plainProblems]
  | literalTrue =>
      unfold problems at reported
      split at reported <;> simp_all [plainProblems]
  | optModel names =>
      cases value with
      | obj data =>
          obtain ⟨name, -, here⟩ := List.mem_filterMap.mp reported
          split at here <;> simp_all [plainProblems]
      | _ => simp_all [problems, plainProblems]

/-- The error that makes it a 400. -/
def FieldError.ofMode (raised : FieldError) : Prop :=
  raised.loc.getLast? = some ("mode") ∧ "enum".toList <:+: raised.type.toList

theorem validationStatusCode_400 {errors : List FieldError} :
    validationStatusCode errors = 400 ↔ ∃ raised ∈ errors, raised.ofMode := by
  unfold validationStatusCode FieldError.ofMode
  split <;> simp_all

/-- A field reports a mode just when it is the mode. -/
theorem RequestField.errors_ofMode {field : RequestField} {raised : FieldError}
    (reported : raised ∈ RequestField.errors describe data field) (ofMode : raised.ofMode) :
    field.name = "mode" ∧ ∃ values value, field.type = .optEnum values ∧ data.get? "mode" = some value ∧
      field.type.problems value ≠ [] := by
  obtain ⟨last, enum⟩ := ofMode
  unfold RequestField.errors at reported
  split at reported
  · rename_i value found
    obtain ⟨⟨loc, problem⟩, isProblem, rfl⟩ := List.mem_map.mp reported
    rcases RequestType.problems_cases isProblem with ⟨rfl, -, values, type⟩ | plain
    · obtain named : field.name = "mode" := by simpa [fieldError] using last
      exact ⟨named, values, value, type, named ▸ found, List.ne_nil_of_mem isProblem⟩
    · exact absurd enum (plainProblems_enum plain)
  · split at reported
    · obtain rfl := List.mem_singleton.mp reported
      have plain : "missing" ∈ plainProblems := by decide
      exact absurd enum (plainProblems_enum plain)
    · cases reported

/-- The body has a mode that is none. -/
def InvalidMode (body : Json) : Prop :=
  ∃ (data : Dict) (value : Json), body = .obj data ∧ data.get? "mode" = some value ∧ value ≠ .null ∧
    ∀ mode ∈ ApiMode.values, value ≠ .str mode

theorem optEnum_problems {values : List String} {value : Json} :
    RequestType.problems (.optEnum values) value ≠ [] ↔ value ≠ .null ∧ ∀ mode ∈ values, value ≠ .str mode := by
  cases value with
  | str s =>
      by_cases listed : s ∈ values
      · simp [RequestType.problems, listed]
      · simp only [RequestType.problems, listed, if_false, ne_eq, List.cons_ne_nil, not_false_eq_true, reduceCtorEq,
          true_and, Json.str.injEq, true_iff]
        rintro mode member rfl
        exact listed member
  | _ => simp [RequestType.problems]

/-- The errors of a chat request make it a 400 just when its mode is invalid. -/
theorem validationStatusCode_mode (chat : fields = ChatRequest.fields ∨ fields = StreamChatRequest.fields) :
    validationStatusCode (bodyErrors describe fields data) = 400 ↔ InvalidMode (.obj data) := by
  have modes : ∀ field ∈ fields, ∀ values, field.type = .optEnum values → values = ApiMode.values := by
    rcases chat with rfl | rfl <;> simp [ChatRequest.fields, StreamChatRequest.fields]
  have there : (⟨"mode", .optEnum ApiMode.values, false⟩ : RequestField) ∈ fields := by
    rcases chat with rfl | rfl <;> simp [ChatRequest.fields, StreamChatRequest.fields]
  rw [validationStatusCode_400]
  constructor
  · rintro ⟨raised, reported, ofMode⟩
    rcases List.mem_append.mp reported with ofField | other
    · obtain ⟨field, member, reported⟩ := List.mem_flatMap.mp ofField
      obtain ⟨-, values, value, type, found, invalid⟩ := RequestField.errors_ofMode reported ofMode
      obtain rfl := modes field member values type
      exact ⟨data, value, rfl, found, optEnum_problems.mp (type ▸ invalid)⟩
    · obtain ⟨entry, -, rfl⟩ := List.mem_map.mp other
      have plain : "extra_forbidden" ∈ plainProblems := by decide
      exact absurd ofMode.2 (plainProblems_enum plain)
  · rintro ⟨_, value, same, found, invalid⟩
    obtain rfl := Json.obj.inj same
    have invalid := optEnum_problems.mpr invalid
    have enum : RequestType.problems (.optEnum ApiMode.values) value = [([], "enum")] := by
      cases value <;> simp_all [RequestType.problems]
    refine ⟨fieldError describe ["body", "mode"] "enum", ?_, rfl, List.infix_rfl⟩
    refine List.mem_append_left _ (List.mem_flatMap.mpr ⟨_, there, ?_⟩)
    simp [RequestField.errors, found, enum]

/-- An invalid mode is refused with a 400, and a body that is refused with a valid one, or
    with none, with a 422. -/
theorem validateBody_mode (chat : fields = ChatRequest.fields ∨ fields = StreamChatRequest.fields) {body : Json} :
    (InvalidMode body → ∃ errors, validateBody describe fields body = .error (.validation errors) ∧
      validationStatusCode errors = 400) ∧
    ∀ failure, validateBody describe fields body = .error failure → ¬ InvalidMode body →
      ∃ errors, failure = .validation errors ∧ validationStatusCode errors = 422 := by
  constructor
  · rintro ⟨data, value, rfl, invalid⟩
    have refused : validationStatusCode (bodyErrors describe fields data) = 400 :=
      (validationStatusCode_mode chat).mpr ⟨data, value, rfl, invalid⟩
    cases errors : bodyErrors describe fields data with
    | nil =>
        rw [errors] at refused
        cases refused
    | cons first rest => exact ⟨_, by simp only [validateBody, errors], errors ▸ refused⟩
  · intro failure refused valid
    cases body with
    | obj data =>
        unfold validateBody at refused
        dsimp only at refused
        split at refused
        · cases refused
        · obtain rfl := Except.error.inj refused
          exact ⟨_, rfl, (validationStatusCode_cases _).resolve_left
            fun bad => valid ((validationStatusCode_mode chat).mp bad)⟩
    | _ => exact ⟨_, (Except.error.inj refused).symm, rfl⟩

end Modes

end LanguageAgent.Api
