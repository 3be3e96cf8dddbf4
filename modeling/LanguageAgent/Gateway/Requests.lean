import LanguageAgent.Gateway.ModelProfiles
import LanguageAgent.Queue.Asked
import LanguageAgent.Queue.StreamCursor
import LanguageAgent.Webui.Persistence

/-! # Requests to the model server

What is posted for a call: the parameters of a profile and of the call, and the messages with
the directive of the profile in them. A job is posted as a call without a queue would be.
-/

namespace LanguageAgent.Gateway

open Queue

/-! ## Prompt control -/

/-- A message, as `dict[str, str]`. -/
abbrev PromptMessage := List (String × String)

namespace PromptMessage

/-- `message[key] = value` -/
def set (key value : String) : PromptMessage → PromptMessage
  | [] => [(key, value)]
  | (k, v) :: rest => if k = key then (k, value) :: rest else (k, v) :: set key value rest

def isSystem (message : PromptMessage) : Bool := message.lookup "role" == some "system"

/-- `message.get("content", "")` -/
def content (message : PromptMessage) : List Char := ((message.lookup "content").getD "").toList

/-- The content with the directive after it. -/
def directed (promptControl content : List Char) : List Char :=
  if Python.strip content ≠ [] then Python.rstrip content ++ '\n' :: '\n' :: promptControl else promptControl

def control (promptControl : List Char) (message : PromptMessage) : PromptMessage :=
  if promptControl ∈ Python.splitlines message.content then message
  else message.set "content" (String.ofList (directed promptControl message.content))

end PromptMessage

/-- The first system message is given the directive, if there is one. -/
def controlFirst (promptControl : List Char) : List PromptMessage → Option (List PromptMessage)
  | [] => none
  | message :: rest =>
      if message.isSystem then some (message.control promptControl :: rest)
      else (controlFirst promptControl rest).map (message :: ·)

/-- `_apply_prompt_control` -/
def applyPromptControl (messages : List PromptMessage) (promptControl : String) : List PromptMessage :=
  if promptControl = "" then messages
  else
    match controlFirst promptControl.toList messages with
    | some normalizedMessages => normalizedMessages
    | none => [("role", "system"), ("content", promptControl)] :: messages

/-- The message is given the directive on a line of its own, and loses none of its text but
    for space at the end. -/
structure Directs (promptControl : List Char) (message after : PromptMessage) : Prop where
  line : promptControl ∈ Python.splitlines after.content
  text : Python.rstrip message.content <+: after.content
  others : ∀ key ≠ "content", after.lookup key = message.lookup key

/-- One message is given the directive, or is put before the others for it. -/
inductive Controlled (promptControl : String) : List PromptMessage → List PromptMessage → Prop where
  | first {before message directed after} (others : ∀ other ∈ before, PromptMessage.isSystem other = false)
      (system : message.isSystem = true) (directs : Directs promptControl.toList message directed) :
      Controlled promptControl (before ++ message :: after) (before ++ directed :: after)
  | inserted {messages} (others : ∀ other ∈ messages, PromptMessage.isSystem other = false) :
      Controlled promptControl messages ([("role", "system"), ("content", promptControl)] :: messages)

section Control

variable {message : PromptMessage} {messages : List PromptMessage} {promptControl : List Char}

theorem PromptMessage.lookup_set {key other value : String} :
    (message.set key value).lookup other = if key = other then some value else message.lookup other := by
  induction message with
  | nil =>
      by_cases same : key = other
      · simp [set, same]
      · simp [set, same, List.lookup_cons, beq_false_of_ne (Ne.symm same)]
  | cons entry rest ih =>
      obtain ⟨k, v⟩ := entry
      by_cases found : k = key
      · subst found
        by_cases same : k = other
        · simp [set, same]
        · simp [set, same, List.lookup_cons, beq_false_of_ne (Ne.symm same)]
      · rw [set, if_neg found, List.lookup_cons, List.lookup_cons, ih]
        by_cases here : other = k
        · simp [here, Ne.symm found]
        · simp [beq_false_of_ne here]

/-- What is one line is a line of the content that it is put into. -/
theorem PromptMessage.control_directs (some_ : promptControl ≠ []) (whole : ∀ c ∈ promptControl, Python.isLineBoundary c = false)
    (message : PromptMessage) : Directs promptControl message (message.control promptControl) := by
  unfold PromptMessage.control
  split_ifs with present
  · exact ⟨present, Python.rstrip_prefix _, fun _ _ => rfl⟩
  · have content : (message.set "content" (String.ofList (directed promptControl message.content))).content =
        directed promptControl message.content := by
      simp [PromptMessage.content, PromptMessage.lookup_set]
    refine ⟨?_, ?_, fun key other => ?_⟩
    · rw [content, directed]
      split_ifs with visible
      · simp [Python.splitlines_rstrip visible some_ whole]
      · simp [Python.splitlines_single some_ whole]
    · rw [content, directed]
      split_ifs with visible
      · exact List.prefix_append _ _
      · rw [Python.rstrip_eq_nil.mpr (not_not.mp visible)]
        exact List.nil_prefix
    · rw [PromptMessage.lookup_set, if_neg (Ne.symm other)]

theorem controlFirst_none : controlFirst promptControl messages = none ↔ ∀ other ∈ messages, other.isSystem = false := by
  induction messages with
  | nil => simp [controlFirst]
  | cons message rest ih =>
      rw [controlFirst, List.forall_mem_cons]
      split_ifs with system
      · simp [system]
      · simp [system, ih]

theorem controlFirst_some {after : List PromptMessage} (found : controlFirst promptControl messages = some after) :
    ∃ before message rest, messages = before ++ message :: rest ∧ (∀ other ∈ before, other.isSystem = false) ∧
      message.isSystem = true ∧ after = before ++ message.control promptControl :: rest := by
  induction messages generalizing after with
  | nil => cases found
  | cons first rest ih =>
      rw [controlFirst] at found
      split_ifs at found with system
      · exact ⟨[], first, rest, rfl, List.forall_mem_nil _, system, (Option.some.inj found).symm⟩
      · obtain ⟨later, foundLater, rfl⟩ := Option.map_eq_some_iff.mp found
        obtain ⟨before, message, rest, rfl, others, isSystem, rfl⟩ := ih foundLater
        exact ⟨first :: before, message, rest, rfl, List.forall_mem_cons.mpr ⟨by simpa using system, others⟩, isSystem, rfl⟩

/-- A system message that has the directive is the end of the search. -/
theorem controlFirst_present {before after : List PromptMessage} (others : ∀ other ∈ before, other.isSystem = false)
    (system : message.isSystem = true) (present : promptControl ∈ Python.splitlines message.content) :
    controlFirst promptControl (before ++ message :: after) = some (before ++ message :: after) := by
  induction before with
  | nil => simp [controlFirst, system, PromptMessage.control, present]
  | cons first before ih =>
      obtain ⟨own, rest⟩ := List.forall_mem_cons.mp others
      simp [controlFirst, own, ih rest]

end Control

theorem PromptControl.text_line (control : PromptControl) :
    control.text.toList ≠ [] ∧ ∀ c ∈ control.text.toList, Python.isLineBoundary c = false := by
  have whole : control.text.toList.any Python.isLineBoundary = false := by cases control <;> decide
  exact ⟨by cases control <;> decide, fun c member => by simpa using List.any_eq_false.mp whole c member⟩

theorem PromptControl.text_ne (control : PromptControl) : control.text ≠ "" := by
  cases control <;> decide

theorem applyPromptControl_controls (control : PromptControl) (messages : List PromptMessage) :
    Controlled control.text messages (applyPromptControl messages control.text) := by
  obtain ⟨some_, whole⟩ := control.text_line
  simp only [applyPromptControl, if_neg control.text_ne]
  cases found : controlFirst control.text.toList messages with
  | some after =>
      obtain ⟨before, message, rest, rfl, others, system, rfl⟩ := controlFirst_some found
      exact .first others system (PromptMessage.control_directs some_ whole message)
  | none => exact .inserted (controlFirst_none.mp found)

/-- Once the messages have the directive, they are left as they are. -/
theorem applyPromptControl_controlled (control : PromptControl) {messages after : List PromptMessage}
    (controlled : Controlled control.text messages after) : applyPromptControl after control.text = after := by
  obtain ⟨some_, whole⟩ := control.text_line
  simp only [applyPromptControl, if_neg control.text_ne]
  cases controlled with
  | @first before message directed rest others system directs =>
      have still : PromptMessage.isSystem directed = true := by
        rw [PromptMessage.isSystem, directs.others "role" (by decide)]
        exact system
      simp only [controlFirst_present others still directs.line]
  | inserted others =>
      have line : control.text.toList ∈
          Python.splitlines (PromptMessage.content [("role", "system"), ("content", control.text)]) := by
        change _ ∈ Python.splitlines control.text.toList
        simp [Python.splitlines_single some_ whole]
      have again := @controlFirst_present _ _ [] messages (List.forall_mem_nil _) rfl line
      rw [List.nil_append] at again
      simp only [again]

/-- Whatever the messages are, just one of them is changed or put in: the first system message
    has the directive on a line of its own and keeps its text. Doing it again changes
    nothing. -/
theorem prompt_controlled (control : PromptControl) (messages : List PromptMessage) :
    Controlled control.text messages (applyPromptControl messages control.text) ∧
      applyPromptControl (applyPromptControl messages control.text) control.text =
        applyPromptControl messages control.text :=
  ⟨applyPromptControl_controls control messages, applyPromptControl_controlled control (applyPromptControl_controls control messages)⟩

/-! ## Payloads -/

/-- `value is not None` of a parameter. -/
def given : Json → Bool
  | .null => false
  | _ => true

/-- `LlamaServerGateway`, by its profiles and `settings.llama_server_model_name`. -/
structure LlamaServerGateway where
  modelProfiles : ModelProfiles
  modelName : String

def messagesJson (messages : List PromptMessage) : Json :=
  .arr (messages.map fun message => .obj (message.map fun (key, value) => (key, .str value)))

def responseFormat (schema : Dict) : Json :=
  .obj [("type", .str "json_schema"),
    ("json_schema", .obj [("name", .str "structured_response"), ("schema", .obj schema)])]

namespace LlamaServerGateway

variable (gateway : LlamaServerGateway)

/-- `_merge_generation_parameters` -/
def mergeGenerationParameters (profile : ModelProfile) (generationParameters : Dict) (stream : Bool) : Dict :=
  let resolved := profile.generationParameters.update (generationParameters.filter fun entry => given entry.2)
  let resolved := resolved.set "stream" (.bool stream)
  if (resolved.get? "model").any Json.truthy then resolved
  else if gateway.modelName ≠ "" then resolved.set "model" (.str gateway.modelName)
  else resolved.pop "model"

/-- `_build_payload`, where no parameter is named like one of its own arguments. -/
def buildPayload (messages : List PromptMessage) (mode : Option String) (stream : Bool) (schema : Option Dict)
    (generationParameters : Dict) : Dict :=
  let profile := gateway.modelProfiles.select mode
  let payload := gateway.mergeGenerationParameters profile generationParameters stream
  let payload := payload.set "messages" (messagesJson (applyPromptControl messages profile.promptControl.text))
  match schema with
  | some schema => payload.set "response_format" (responseFormat schema)
  | none => payload

/-- What the calls of a worker post; a stream does so once its first chunk is asked for. -/
def posted : Queue.Command → Option Dict
  | .askModel request schema =>
      some (gateway.buildPayload request.messages request.mode false (some schema) request.parameters)
  | .generateText request => some (gateway.buildPayload request.messages request.mode false none request.parameters)
  | .openStream request => some (gateway.buildPayload request.messages request.mode true none request.parameters)
  | _ => none

end LlamaServerGateway

/-! ## The two gateways -/

/-- The arguments of `ask_llm`, or of `stream_llm` without a schema. -/
structure PromptCall where
  systemPrompt : String
  userPrompt : String
  mode : Option String
  schema : Option Dict

def PromptCall.messages (call : PromptCall) : List PromptMessage :=
  [[("role", "system"), ("content", call.systemPrompt)], [("role", "user"), ("content", call.userPrompt)]]

/-- What `LlamaServerGateway.ask_llm` or `stream_llm` posts. -/
def LlamaServerGateway.payload (gateway : LlamaServerGateway) (call : PromptCall) : Dict :=
  gateway.buildPayload call.messages call.mode call.schema.isNone call.schema []

/-- The job of `QueuedLLMGateway.ask_llm` or `stream_llm`. -/
def PromptCall.job (call : PromptCall) (jobId : String) (createdAt : Timestamp) : NewCall where
  jobId := jobId
  callType := if call.schema.isSome then .structuredJson else .streamingTextGeneration
  prompt := some call.userPrompt
  messages := call.messages
  mode := call.mode
  generationParameters := []
  responseSchema := call.schema
  createdAt := createdAt

/-- What a body asks for. A parameter of the call that is not `None` goes before that of the
    profile, and the model is never one without a name. -/
structure Asks (gateway : LlamaServerGateway) (messages : List PromptMessage) (mode : Option String) (stream : Bool)
    (schema : Option Dict) (generationParameters payload : Dict) : Prop where
  messages : ∃ normalizedMessages, payload.get? "messages" = some (messagesJson normalizedMessages) ∧
    Controlled (gateway.modelProfiles.select mode).promptControl.text messages normalizedMessages
  stream : payload.get? "stream" = some (.bool stream)
  format : payload.get? "response_format" =
    (schema.map responseFormat).or ((generationParameters.get? "response_format").filter given)
  model : payload.get? "model" =
    let asked := ((generationParameters.get? "model").filter given).getD
      (.str (gateway.modelProfiles.select mode).model.text)
    if asked.truthy then some asked else if gateway.modelName ≠ "" then some (.str gateway.modelName) else none
  parameters : ∀ key ∉ ["messages", "stream", "response_format", "model"], payload.get? key =
    ((generationParameters.get? key).filter given).or ((gateway.modelProfiles.select mode).generationParameters.get? key)

section Payloads

variable {gateway : LlamaServerGateway} {call : PromptCall} {settings : Settings} {polls : Nat → Nat} {env : Environment}
  {d : System} {jobId : String} {createdAt : Timestamp} {profile : ModelProfile} {generationParameters : Dict}
  {stream : Bool} {key : String}

theorem get?_filter (distinct : (generationParameters.map Prod.fst).Nodup) (keeps : Json → Bool) :
    Dict.get? (generationParameters.filter fun entry => keeps entry.2) key = (generationParameters.get? key).filter keeps := by
  induction generationParameters with
  | nil => rfl
  | cons entry rest ih =>
      obtain ⟨k, value⟩ := entry
      obtain ⟨fresh, others⟩ := List.nodup_cons.mp distinct
      unfold Dict.get? at ih ⊢
      by_cases same : key = k
      · subst same
        cases kept : keeps value with
        | true => simp [kept, Option.filter]
        | false =>
            have absent : rest.lookup key = none := by
              rw [List.lookup_eq_none_iff]
              intro entry member
              exact bne_iff_ne.mpr fun same => fresh (List.mem_map.mpr ⟨entry, member, same.symm⟩)
            simp [kept, Option.filter, ih others, absent]
      · cases kept : keeps value with
        | true => simp [kept, List.lookup_cons, beq_false_of_ne same, ih others]
        | false => simp [kept, List.lookup_cons, beq_false_of_ne same, ih others]

theorem get?_pop_self {d : Dict} : (d.pop key).get? key = none := by
  rw [Dict.get?, List.lookup_eq_none_iff]
  intro entry member
  exact bne_iff_ne.mpr (Ne.symm (bne_iff_ne.mp (List.mem_filter.mp member).2))

/-- The parameters before the model is looked at. -/
theorem given_get? (distinct : (generationParameters.map Prod.fst).Nodup) (other : key ≠ "stream") :
    ((profile.generationParameters.update (generationParameters.filter fun entry => given entry.2)).set "stream"
      (.bool stream)).get? key =
        ((generationParameters.get? key).filter given).or (profile.generationParameters.get? key) := by
  have kept : ((generationParameters.filter fun entry => given entry.2).map Prod.fst).Nodup :=
    distinct.sublist (List.filter_sublist.map _)
  rw [Dict.get?_set, if_neg (Ne.symm other), Dict.get?_update_distinct kept, get?_filter distinct]

theorem merged_get? (distinct : (generationParameters.map Prod.fst).Nodup) (other : key ≠ "stream") (noModel : key ≠ "model") :
    (gateway.mergeGenerationParameters profile generationParameters stream).get? key =
      ((generationParameters.get? key).filter given).or (profile.generationParameters.get? key) := by
  unfold LlamaServerGateway.mergeGenerationParameters
  dsimp only
  split_ifs
  · exact given_get? distinct other
  · rw [Dict.get?_set, if_neg (Ne.symm noModel)]
    exact given_get? distinct other
  · rw [Dict.get?_pop noModel]
    exact given_get? distinct other

theorem merged_stream :
    (gateway.mergeGenerationParameters profile generationParameters stream).get? "stream" = some (.bool stream) := by
  unfold LlamaServerGateway.mergeGenerationParameters
  dsimp only
  split_ifs
  · rw [Dict.get?_set, if_pos rfl]
  · rw [Dict.get?_set, if_neg (by decide), Dict.get?_set, if_pos rfl]
  · rw [Dict.get?_pop (by decide), Dict.get?_set, if_pos rfl]

theorem merged_model (distinct : (generationParameters.map Prod.fst).Nodup) :
    (gateway.mergeGenerationParameters profile generationParameters stream).get? "model" =
      let asked := ((generationParameters.get? "model").filter given).getD (.str profile.model.text)
      if asked.truthy then some asked else if gateway.modelName ≠ "" then some (.str gateway.modelName) else none := by
  have found := @given_get? profile generationParameters stream "model" distinct (by decide)
  have own : profile.generationParameters.get? "model" = some (.str profile.model.text) := rfl
  rw [own, Option.or_some] at found
  unfold LlamaServerGateway.mergeGenerationParameters
  dsimp only
  rw [found, Option.any_some]
  split_ifs with named configured
  · exact found
  · rw [Dict.get?_set, if_pos rfl]
  · exact get?_pop_self

theorem buildPayload_asks (distinct : (generationParameters.map Prod.fst).Nodup) (messages : List PromptMessage)
    (mode : Option String) (schema : Option Dict) :
    Asks gateway messages mode stream schema generationParameters
      (gateway.buildPayload messages mode stream schema generationParameters) := by
  have elsewhere : ∀ key, key ≠ "messages" → key ≠ "response_format" →
      (gateway.buildPayload messages mode stream schema generationParameters).get? key =
        (gateway.mergeGenerationParameters (gateway.modelProfiles.select mode) generationParameters stream).get? key := by
    intro key noMessages noFormat
    cases schema with
    | none => exact Dict.get?_set.trans (if_neg (Ne.symm noMessages))
    | some schema =>
        exact Dict.get?_set.trans ((if_neg (Ne.symm noFormat)).trans (Dict.get?_set.trans (if_neg (Ne.symm noMessages))))
  refine ⟨⟨_, ?_, (applyPromptControl_controls _ _)⟩, ?_, ?_, ?_, fun key others => ?_⟩
  · cases schema with
    | none => exact Dict.get?_set.trans (if_pos rfl)
    | some schema => exact Dict.get?_set.trans ((if_neg (by decide)).trans (Dict.get?_set.trans (if_pos rfl)))
  · rw [elsewhere _ (by decide) (by decide), merged_stream]
  · cases schema with
    | none =>
        have own : (gateway.modelProfiles.select mode).generationParameters.get? "response_format" = none := rfl
        refine Dict.get?_set.trans ((if_neg (by decide)).trans ?_)
        rw [merged_get? distinct (by decide) (by decide), own, Option.or_none]
        rfl
    | some schema => exact Dict.get?_set.trans (if_pos rfl)
  · rw [elsewhere _ (by decide) (by decide), merged_model distinct]
  · simp only [List.mem_cons, List.not_mem_nil, or_false, not_or] at others
    obtain ⟨noMessages, noStream, noFormat, noModel⟩ := others
    rw [elsewhere _ noMessages noFormat, merged_get? distinct noStream noModel]

open Interleaving in
/-- However the queue treats the job of a call, with re-runs, and wherever in its `try` block
    an exception strikes an attempt, each body that a worker posts for it is the one that is
    posted without a queue, and asks for what the profile of its mode says. -/
theorem queued_as_direct
    (run : machine.Reach Machine.anyStep (boot settings (call.job jobId createdAt) polls env) d)
    {label : Label signature Party} (issued : label ∈ d.trace) {payload : Dict}
    (posts : gateway.posted label.command = some payload) :
    payload = gateway.payload call ∧ Asks gateway call.messages call.mode call.schema.isNone call.schema [] payload := by
  have same : payload = gateway.payload call := by
    have asked := reached_of run label issued
    obtain ⟨party, command⟩ := label
    cases asks : call.schema with
    | some schema =>
        have structured : (call.job jobId createdAt).callType = .structuredJson := by simp [PromptCall.job, asks]
        cases command with
        | askModel request format =>
            obtain ⟨-, rfl, rfl⟩ := asked
            simpa [PromptCall.job, LlamaServerGateway.payload, LlamaServerGateway.posted, modelRequest, NewCall.toCall,
              asks] using posts.symm
        | generateText request => cases structured.symm.trans asked.1
        | openStream request => cases structured.symm.trans asked.1
        | _ => cases posts
    | none =>
        have streaming : (call.job jobId createdAt).callType = .streamingTextGeneration := by simp [PromptCall.job, asks]
        cases command with
        | askModel request format => cases streaming.symm.trans asked.1
        | generateText request => cases streaming.symm.trans asked.1
        | openStream request =>
            obtain ⟨-, rfl⟩ := asked
            simpa [PromptCall.job, LlamaServerGateway.payload, LlamaServerGateway.posted, modelRequest, NewCall.toCall,
              asks] using posts.symm
        | _ => cases posts
  exact ⟨same, same ▸ buildPayload_asks (by simp) _ _ _⟩

/-- A text without space in it. -/
def modelText : NonBlank := ⟨"qwen", by decide +kernel, by decide⟩

def demoProfile : ModelProfile where
  name := "default"
  model := modelText
  reasoning := .off
  promptControl := .noThink
  temperature := .finite 1
  topP := .finite 1
  topK := .int 20
  minP := .finite 0
  maxTokens := .int 512
  stream := true

/-- A file with one profile. -/
def demoGateway : LlamaServerGateway where
  modelProfiles :=
    { model := ⟨modelText, modelText, modelText⟩
      profiles := [("default", demoProfile)]
      named := by simp [demoProfile]
      default := rfl }
  modelName := ""

def demoPrompt : PromptCall := ⟨"Explain.", "What is a verb?", some "learning", some []⟩

open Interleaving in
/-- A worker posts the body. -/
theorem queued_as_direct_lesson : ∃ (d : System) (label : Label signature Party) (payload : Dict), label ∈ d.trace ∧
    demoGateway.posted label.command = some payload ∧ payload = demoGateway.payload demoPrompt ∧
      Asks demoGateway demoPrompt.messages demoPrompt.mode demoPrompt.schema.isNone demoPrompt.schema [] payload := by
  obtain ⟨d, run, seen⟩ := Machine.schedule_observed machine Machine.anyStep
    (List.replicate 8 .api ++ List.replicate 15 .worker)
    (boot demoSettings (demoPrompt.job "job" 0) (fun _ => 0) demoEnvironment)
    (fun d => d.trace.any fun label => (demoGateway.posted label.command).isSome) true (by decide +kernel)
  obtain ⟨label, issued, posts⟩ := List.any_eq_true.mp seen
  obtain ⟨payload, same⟩ := Option.isSome_iff_exists.mp posts
  exact ⟨d, label, payload, issued, same, queued_as_direct run issued same⟩

end Payloads

end LanguageAgent.Gateway
