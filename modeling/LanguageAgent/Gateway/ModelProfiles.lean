import LanguageAgent.Python.Text
import LanguageAgent.Queue.Commands

/-! # Model profiles

The file that says, mode by mode, how the model server is asked. Whatever is accepted is
well formed, and whatever is not is refused for a value the error names.
-/

namespace LanguageAgent.Gateway

open Queue

/-! ## Profiles -/

/-- A text without space around it, and not empty. -/
structure NonBlank where
  text : String
  stripped : Python.stripText text = text
  present : text ≠ ""
  deriving DecidableEq

inductive Reasoning where
  | on
  | off
  deriving DecidableEq

inductive PromptControl where
  | think
  | noThink
  deriving DecidableEq

/-- An `int`, and a `bool` is one. -/
inductive Integer where
  | int (n : Int)
  | bool (b : Bool)
  deriving DecidableEq

def Reasoning.text : Reasoning → String
  | .on => "on"
  | .off => "off"

def PromptControl.text : PromptControl → String
  | .think => "/think"
  | .noThink => "/no_think"

def Integer.json : Integer → Json
  | .int n => .int n
  | .bool b => .bool b

structure ModelMetadata where
  activeModelId : NonBlank
  activeModelName : NonBlank
  backend : NonBlank
  deriving DecidableEq

structure ModelProfile where
  name : String
  model : NonBlank
  reasoning : Reasoning
  promptControl : PromptControl
  temperature : PyFloat
  topP : PyFloat
  topK : Integer
  minP : PyFloat
  maxTokens : Integer
  stream : Bool
  deriving DecidableEq

def ModelProfile.generationParameters (profile : ModelProfile) : Dict :=
  [("model", .str profile.model.text), ("temperature", .float profile.temperature), ("top_p", .float profile.topP),
   ("top_k", profile.topK.json), ("min_p", .float profile.minP), ("max_tokens", profile.maxTokens.json)]

/-- There is a profile for whatever has none of its own. -/
structure ModelProfiles where
  model : ModelMetadata
  profiles : List (String × ModelProfile)
  named : ∀ entry ∈ profiles, entry.2.name = entry.1
  default : (profiles.lookup "default").isSome = true

def ModelProfiles.select (profiles : ModelProfiles) (mode : Option String) : ModelProfile :=
  match mode, profiles.profiles.lookup "general" with
  | some "general", some profile => profile
  | _, _ =>
      match mode.bind fun mode => if mode = "" then none else profiles.profiles.lookup mode with
      | some profile => profile
      | none => (profiles.profiles.lookup "default").get profiles.default

/-! ## Reading a file -/

/-- `ModelProfileConfigurationError` -/
def configurationError (message : String) : PyError :=
  { className := "ModelProfileConfigurationError", message, valueTypeOrKey := true }

/-- What a value has to be. -/
inductive Kind where
  | mapping
  | string
  | number
  | integer
  | boolean
  | reasoning
  | promptControl
  deriving DecidableEq

def Kind.text : Kind → String
  | .mapping => "a mapping."
  | .string => "a non-empty string."
  | .number => "a number."
  | .integer => "an integer."
  | .boolean => "a boolean."
  | .reasoning => "'on' or 'off'."
  | .promptControl => "'/think' or '/no_think'."

def mustBe (label : String) (kind : Kind) : PyError := configurationError (label ++ " must be " ++ kind.text)

def requireMapping (value : Option Json) (label : String) : Except PyError Dict :=
  match value with
  | some (.obj mapping) => .ok mapping
  | _ => .error (mustBe label .mapping)

def requireString (value : Option Json) (label : String) : Except PyError NonBlank :=
  match value with
  | some (.str text) =>
      if present : Python.stripText text ≠ "" then .ok ⟨Python.stripText text, Python.stripText_stripText text, present⟩
      else .error (mustBe label .string)
  | _ => .error (mustBe label .string)

/-- `float` of a value, where `floatOfInt` is that of an `int`. -/
def requireFloat (floatOfInt : Int → Except PyError PyFloat) (value : Option Json) (label : String) :
    Except PyError PyFloat :=
  match value with
  | some (.float x) => .ok x
  | some (.int n) => floatOfInt n
  | some (.bool b) => .ok (.finite (if b then 1 else 0))
  | _ => .error (mustBe label .number)

def requireInt (value : Option Json) (label : String) : Except PyError Integer :=
  match value with
  | some (.int n) => .ok (.int n)
  | some (.bool b) => .ok (.bool b)
  | _ => .error (mustBe label .integer)

def requireBool (value : Option Json) (label : String) : Except PyError Bool :=
  match value with
  | some (.bool b) => .ok b
  | _ => .error (mustBe label .boolean)

def requireReasoning (text label : String) : Except PyError Reasoning :=
  if text = "on" then .ok .on else if text = "off" then .ok .off else .error (mustBe label .reasoning)

def requirePromptControl (text label : String) : Except PyError PromptControl :=
  if text = "/think" then .ok .think else if text = "/no_think" then .ok .noThink
  else .error (mustBe label .promptControl)

/-- What a mapping of the file has under a key. -/
def underKey (data : Option Json) (key : String) : Option Json :=
  match data with
  | some (.obj mapping) => Dict.get? mapping key
  | _ => none

section Reading

variable (floatOfInt : Int → Except PyError PyFloat)

/-- `_parse_profile` -/
def parseProfile (name : String) (data : Json) : Except PyError { profile : ModelProfile // profile.name = name } := do
  let label (key : String) := "profiles." ++ name ++ "." ++ key
  let mapping ← requireMapping (some data) ("profiles." ++ name)
  let reasoning ← requireString (mapping.get? "reasoning") (label "reasoning")
  let reasoning ← requireReasoning reasoning.text (label "reasoning")
  let promptControl ← requireString (mapping.get? "prompt_control") (label "prompt_control")
  let promptControl ← requirePromptControl promptControl.text (label "prompt_control")
  let model ← requireString (mapping.get? "model") (label "model")
  let temperature ← requireFloat floatOfInt (mapping.get? "temperature") (label "temperature")
  let topP ← requireFloat floatOfInt (mapping.get? "top_p") (label "top_p")
  let topK ← requireInt (mapping.get? "top_k") (label "top_k")
  let minP ← requireFloat floatOfInt (mapping.get? "min_p") (label "min_p")
  let maxTokens ← requireInt (mapping.get? "max_tokens") (label "max_tokens")
  let stream ← requireBool (mapping.get? "stream") (label "stream")
  pure ⟨{ name, model, reasoning, promptControl, temperature, topP, topK, minP, maxTokens, stream }, rfl⟩

def parseMetadata (mapping : Dict) : Except PyError ModelMetadata := do
  let activeModelId ← requireString (mapping.get? "active_model_id") "model.active_model_id"
  let activeModelName ← requireString (mapping.get? "active_model_name") "model.active_model_name"
  let backend ← requireString (mapping.get? "backend") "model.backend"
  pure { activeModelId, activeModelName, backend }

/-- `{name: _parse_profile(name, profile_data) for …}`, each under the name it has. -/
def parseProfiles : (mapping : Dict) → Except PyError { profiles : List (String × ModelProfile) //
    profiles.map Prod.fst = mapping.map Prod.fst ∧ ∀ entry ∈ profiles, entry.2.name = entry.1 }
  | [] => .ok ⟨[], rfl, fun _ member => by cases member⟩
  | (name, data) :: rest => do
      let ⟨profile, named⟩ ← parseProfile floatOfInt name data
      let ⟨profiles, names, allNamed⟩ ← parseProfiles rest
      pure ⟨(name, profile) :: profiles, by simp [names], List.forall_mem_cons.mpr ⟨named, allNamed⟩⟩

end Reading

theorem lookup_isSome {α : Type} {entries : List (String × α)} {key : String} :
    (entries.lookup key).isSome = true ↔ key ∈ entries.map Prod.fst := by
  simp [List.lookup_isSome_iff]

def noDefaultProfile : PyError := configurationError "Model profiles must define a default profile."

/-- `load_model_profiles` of a file that is there, by what `yaml.safe_load` makes of it. -/
def loadModelProfiles (floatOfInt : Int → Except PyError PyFloat) (raw : Json) : Except PyError ModelProfiles := do
  let root ← requireMapping (some raw) "model_profiles"
  let modelMapping ← requireMapping (root.get? "model") "model"
  let profilesMapping ← requireMapping (root.get? "profiles") "profiles"
  if default : "default" ∈ profilesMapping.map Prod.fst then
    let model ← parseMetadata modelMapping
    let ⟨profiles, names, named⟩ ← parseProfiles floatOfInt profilesMapping
    pure ⟨model, profiles, named, lookup_isSome.mpr (names ▸ default)⟩
  else .error noDefaultProfile

/-! ## What a file has to be -/

/-- A value that is read, and what it has to be. -/
structure Check where
  label : String
  kind : Kind
  value : Option Json

def Kind.accepts : Kind → Option Json → Bool
  | .mapping, some (.obj _) => true
  | .string, some (.str text) => Python.stripText text ≠ ""
  | .number, some (.float _) | .number, some (.int _) | .number, some (.bool _) => true
  | .integer, some (.int _) | .integer, some (.bool _) => true
  | .boolean, some (.bool _) => true
  | .reasoning, some (.str text) => Python.stripText text ∈ ["on", "off"]
  | .promptControl, some (.str text) => Python.stripText text ∈ ["/think", "/no_think"]
  | _, _ => false

def Check.passes (check : Check) : Bool := check.kind.accepts check.value

def profileKinds : List (String × Kind) :=
  [("reasoning", .string), ("reasoning", .reasoning), ("prompt_control", .string), ("prompt_control", .promptControl),
   ("model", .string), ("temperature", .number), ("top_p", .number), ("top_k", .integer), ("min_p", .number),
   ("max_tokens", .integer), ("stream", .boolean)]

def profileChecks (name : String) (data : Json) : List Check :=
  ⟨"profiles." ++ name, .mapping, some data⟩ ::
    profileKinds.map fun (key, kind) => ⟨"profiles." ++ name ++ "." ++ key, kind, underKey (some data) key⟩

def metadataKeys : List String := ["active_model_id", "active_model_name", "backend"]

/-- The profiles of a file. -/
def entriesOf (data : Option Json) : Dict :=
  match data with
  | some (.obj mapping) => mapping
  | _ => []

def fileChecks (raw : Json) : List Check :=
  let model := underKey (some raw) "model"
  let profiles := underKey (some raw) "profiles"
  [⟨"model_profiles", .mapping, some raw⟩, ⟨"model", .mapping, model⟩, ⟨"profiles", .mapping, profiles⟩] ++
    (metadataKeys.map fun key => ⟨"model." ++ key, .string, underKey model key⟩) ++
    (entriesOf profiles).flatMap fun entry => profileChecks entry.1 entry.2

def HasDefault (raw : Json) : Prop := "default" ∈ (entriesOf (underKey (some raw) "profiles")).map Prod.fst

/-- The value is what it has to be, and `float` takes an integer that stands for a number. -/
structure Check.Fine (floatOfInt : Int → Except PyError PyFloat) (check : Check) : Prop where
  passes : check.passes = true
  converts : check.kind = .number → ∀ n, check.value = some (.int n) → ∃ x, floatOfInt n = .ok x

structure WellFormed (floatOfInt : Int → Except PyError PyFloat) (raw : Json) : Prop where
  checks : ∀ check ∈ fileChecks raw, check.Fine floatOfInt
  default : HasDefault raw

/-- What an error says of a file is true. -/
inductive Refused (floatOfInt : Int → Except PyError PyFloat) (raw : Json) (checks : List Check) : PyError → Prop where
  | value {check} (made : check ∈ checks) (fails : check.passes = false) :
      Refused floatOfInt raw checks (mustBe check.label check.kind)
  | noDefault (missing : ¬ HasDefault raw) : Refused floatOfInt raw checks noDefaultProfile
  | float {check n raised} (made : check ∈ checks) (isNumber : check.kind = .number)
      (isInt : check.value = some (.int n)) (fails : floatOfInt n = .error raised) :
      Refused floatOfInt raw checks raised

/-! ## Readings -/

/-- What a reading makes of a value, or refuses it with. -/
def Yields {α : Type} (read : Except PyError α) (accepts : α → Prop) (refuses : PyError → Prop) : Prop :=
  match read with
  | .ok value => accepts value
  | .error raised => refuses raised

section Yielding

variable {α β : Type} {accepts : α → Prop} {last : β → Prop} {refuses : PyError → Prop} {value : Option Json}
  {label : String}

theorem Yields.bind {read : Except PyError α} {next : α → Except PyError β} (first : Yields read accepts refuses)
    (rest : ∀ value, accepts value → Yields (next value) last refuses) : Yields (read >>= next) last refuses := by
  cases read with
  | ok value => exact rest value first
  | error raised => exact first

theorem requireMapping_yields (refused : Kind.mapping.accepts value = false → refuses (mustBe label .mapping)) :
    Yields (requireMapping value label) (fun mapping => value = some (.obj mapping)) refuses := by
  rcases value with _ | value
  · exact refused rfl
  · cases value with
    | obj mapping => exact rfl
    | _ => exact refused rfl

theorem requireString_yields (refused : Kind.string.accepts value = false → refuses (mustBe label .string)) :
    Yields (requireString value label)
      (fun read => Kind.string.accepts value = true ∧ ∃ text, value = some (.str text) ∧ read.text = Python.stripText text)
      refuses := by
  rcases value with _ | value
  · exact refused rfl
  · cases value with
    | str text =>
        unfold requireString
        dsimp only
        by_cases present : Python.stripText text ≠ ""
        · rw [dif_pos present]
          exact ⟨decide_eq_true present, text, rfl, rfl⟩
        · rw [dif_neg present]
          exact refused (decide_eq_false present)
    | _ => exact refused rfl

theorem requireFloat_yields {floatOfInt : Int → Except PyError PyFloat}
    (refused : Kind.number.accepts value = false → refuses (mustBe label .number))
    (unfloatable : ∀ {n raised}, value = some (.int n) → floatOfInt n = .error raised → refuses raised) :
    Yields (requireFloat floatOfInt value label)
      (fun _ => Kind.number.accepts value = true ∧ ∀ n, value = some (.int n) → ∃ x, floatOfInt n = .ok x) refuses := by
  rcases value with _ | value
  · exact refused rfl
  · cases value with
    | float x => exact ⟨rfl, fun n same => by cases same⟩
    | bool b => exact ⟨rfl, fun n same => by cases same⟩
    | int n =>
        unfold requireFloat
        dsimp only
        cases floats : floatOfInt n with
        | ok x =>
            refine ⟨rfl, fun m same => ?_⟩
            cases same
            exact ⟨x, floats⟩
        | error raised => exact unfloatable rfl floats
    | _ => exact refused rfl

theorem requireInt_yields (refused : Kind.integer.accepts value = false → refuses (mustBe label .integer)) :
    Yields (requireInt value label) (fun _ => Kind.integer.accepts value = true) refuses := by
  rcases value with _ | value
  · exact refused rfl
  · cases value with
    | int n => exact rfl
    | bool b => exact rfl
    | _ => exact refused rfl

theorem requireBool_yields (refused : Kind.boolean.accepts value = false → refuses (mustBe label .boolean)) :
    Yields (requireBool value label) (fun _ => Kind.boolean.accepts value = true) refuses := by
  rcases value with _ | value
  · exact refused rfl
  · cases value with
    | bool b => exact rfl
    | _ => exact refused rfl

theorem requireReasoning_yields {text : String} (read : value = some (.str text))
    (refused : Kind.reasoning.accepts value = false → refuses (mustBe label .reasoning)) :
    Yields (requireReasoning (Python.stripText text) label) (fun _ => Kind.reasoning.accepts value = true) refuses := by
  subst read
  unfold requireReasoning
  split_ifs with on off
  · simp [Yields, Kind.accepts, on]
  · simp [Yields, Kind.accepts, off]
  · exact refused (by simp [Kind.accepts, on, off])

theorem requirePromptControl_yields {text : String} (read : value = some (.str text))
    (refused : Kind.promptControl.accepts value = false → refuses (mustBe label .promptControl)) :
    Yields (requirePromptControl (Python.stripText text) label) (fun _ => Kind.promptControl.accepts value = true)
      refuses := by
  subst read
  unfold requirePromptControl
  split_ifs with think noThink
  · simp [Yields, Kind.accepts, think]
  · simp [Yields, Kind.accepts, noThink]
  · exact refused (by simp [Kind.accepts, think, noThink])

end Yielding

section Files

variable {floatOfInt : Int → Except PyError PyFloat} {raw : Json} {checks : List Check}
  {refuses : PyError → Prop}

/-- A profile is refused for one of its values. -/
theorem parseProfile_yields {name : String} {data : Json} (made : profileChecks name data ⊆ checks) :
    Yields (parseProfile floatOfInt name data) (fun _ => ∀ check ∈ profileChecks name data, check.Fine floatOfInt)
      (Refused floatOfInt raw checks) := by
  have wrong : ∀ {key kind}, (key, kind) ∈ profileKinds → kind.accepts (underKey (some data) key) = false →
      Refused floatOfInt raw checks (mustBe ("profiles." ++ name ++ "." ++ key) kind) := by
    intro key kind listed fails
    exact .value (made (List.mem_cons_of_mem _ (List.mem_map.mpr ⟨_, listed, rfl⟩))) fails
  have tooLarge : ∀ {key n raised}, (key, Kind.number) ∈ profileKinds → underKey (some data) key = some (.int n) →
      floatOfInt n = .error raised → Refused floatOfInt raw checks raised := by
    intro key n raised listed isInt fails
    exact .float (made (List.mem_cons_of_mem _ (List.mem_map.mpr ⟨_, listed, rfl⟩))) rfl isInt fails
  unfold parseProfile
  refine (requireMapping_yields fun fails => .value (made List.mem_cons_self) fails).bind fun mapping same => ?_
  obtain rfl := Option.some.inj same
  refine (requireString_yields (wrong (by decide))).bind fun reasoning ⟨some_, text, read, stripped⟩ => ?_
  rw [stripped]
  refine (requireReasoning_yields read (wrong (by decide))).bind fun reasoning known => ?_
  refine (requireString_yields (wrong (by decide))).bind fun control ⟨control_, controlText, controlRead, controlStripped⟩ => ?_
  rw [controlStripped]
  refine (requirePromptControl_yields controlRead (wrong (by decide))).bind fun control controls => ?_
  refine (requireString_yields (wrong (by decide))).bind fun model ⟨model_, _⟩ => ?_
  refine (requireFloat_yields (wrong (by decide)) (tooLarge (by decide))).bind fun temperature
    ⟨temperature_, temperatureIs⟩ => ?_
  refine (requireFloat_yields (wrong (by decide)) (tooLarge (by decide))).bind fun topP ⟨topP_, topPIs⟩ => ?_
  refine (requireInt_yields (wrong (by decide))).bind fun topK topK_ => ?_
  refine (requireFloat_yields (wrong (by decide)) (tooLarge (by decide))).bind fun minP ⟨minP_, minPIs⟩ => ?_
  refine (requireInt_yields (wrong (by decide))).bind fun maxTokens maxTokens_ => ?_
  refine (requireBool_yields (wrong (by decide))).bind fun stream stream_ => ?_
  have passed : ∀ entry ∈ profileKinds, entry.2.accepts (underKey (some (.obj mapping)) entry.1) = true := by
    simp only [profileKinds, List.forall_mem_cons]
    exact ⟨some_, known, control_, controls, model_, temperature_, topP_, topK_, minP_, maxTokens_, stream_,
      List.forall_mem_nil _⟩
  have converted : ∀ entry ∈ profileKinds, entry.2 = Kind.number → ∀ n,
      underKey (some (.obj mapping)) entry.1 = some (.int n) → ∃ x, floatOfInt n = .ok x := by
    simp only [profileKinds, List.forall_mem_cons, reduceCtorEq, false_implies, true_and, forall_const]
    exact ⟨temperatureIs, topPIs, minPIs, List.forall_mem_nil _⟩
  intro check member
  rcases List.mem_cons.mp member with rfl | listed
  · exact ⟨rfl, fun isNumber => by cases isNumber⟩
  · obtain ⟨entry, one, rfl⟩ := List.mem_map.mp listed
    exact ⟨passed entry one, converted entry one⟩

theorem parseProfiles_yields {mapping : Dict}
    (made : (mapping.flatMap fun entry => profileChecks entry.1 entry.2) ⊆ checks) :
    Yields (parseProfiles floatOfInt mapping)
      (fun _ => ∀ check ∈ mapping.flatMap fun entry => profileChecks entry.1 entry.2, check.Fine floatOfInt)
      (Refused floatOfInt raw checks) := by
  induction mapping with
  | nil => exact fun _ member => by cases member
  | cons entry rest ih =>
      obtain ⟨name, data⟩ := entry
      rw [List.flatMap_cons] at made ⊢
      obtain ⟨first, others⟩ := List.append_subset.mp made
      refine (parseProfile_yields first).bind fun profile passed => ?_
      refine (ih others).bind fun ⟨profiles, names, named⟩ allPassed => ?_
      intro check member
      rcases List.mem_append.mp member with own | other
      · exact passed check own
      · exact allPassed check other

theorem parseMetadata_yields {mapping : Dict}
    (wrong : ∀ key ∈ metadataKeys, Kind.string.accepts (mapping.get? key) = false →
      refuses (mustBe ("model." ++ key) .string)) :
    Yields (parseMetadata mapping)
      (fun _ => ∀ key ∈ metadataKeys, Kind.string.accepts (mapping.get? key) = true)
      refuses := by
  unfold parseMetadata
  refine (requireString_yields (wrong "active_model_id" (by decide))).bind fun activeModelId ⟨id_, _⟩ => ?_
  refine (requireString_yields (wrong "active_model_name" (by decide))).bind fun activeModelName ⟨name_, _⟩ => ?_
  refine (requireString_yields (wrong "backend" (by decide))).bind fun backend ⟨backend_, _⟩ => ?_
  simp only [metadataKeys, List.forall_mem_cons]
  exact ⟨id_, name_, backend_, List.forall_mem_nil _⟩

/-- A file is refused for a value that is wrong, and accepted where none is. -/
theorem loadModelProfiles_yields :
    Yields (loadModelProfiles floatOfInt raw) (fun _ => WellFormed floatOfInt raw)
      (Refused floatOfInt raw (fileChecks raw)) := by
  have wrong : ∀ {label kind value}, (⟨label, kind, value⟩ : Check) ∈ fileChecks raw → kind.accepts value = false →
      Refused floatOfInt raw (fileChecks raw) (mustBe label kind) := fun made fails => .value made fails
  unfold loadModelProfiles
  refine (requireMapping_yields (wrong (by simp [fileChecks]))).bind fun root same => ?_
  obtain rfl := Option.some.inj same
  refine (requireMapping_yields (wrong (by simp [fileChecks, underKey]))).bind fun model modelIs => ?_
  refine (requireMapping_yields (wrong (by simp [fileChecks, underKey]))).bind fun profiles profilesAre => ?_
  have modelField : underKey (some (.obj root)) "model" = some (.obj model) := modelIs
  have profilesField : underKey (some (.obj root)) "profiles" = some (.obj profiles) := profilesAre
  split_ifs with default
  · refine (parseMetadata_yields fun key listed fails => wrong ?_ fails).bind fun metadata metadata_ => ?_
    · exact List.mem_append_left _ (List.mem_append_right _ (List.mem_map.mpr ⟨key, listed, by rw [modelField]; rfl⟩))
    refine (parseProfiles_yields fun check member => ?_).bind fun ⟨read, names, named⟩ passed => ?_
    · simp only [fileChecks, profilesField, entriesOf]
      exact List.mem_append_right _ member
    · refine ⟨?_, by rwa [HasDefault, profilesField]⟩
      intro check member
      simp only [fileChecks, modelField, profilesField, entriesOf] at member
      rcases List.mem_append.mp member with first | profile
      · rcases List.mem_append.mp first with mapping | metadataOf
        · simp only [List.mem_cons, List.not_mem_nil, or_false] at mapping
          rcases mapping with rfl | rfl | rfl <;> exact ⟨rfl, fun isNumber => by cases isNumber⟩
        · obtain ⟨key, listed, rfl⟩ := List.mem_map.mp metadataOf
          exact ⟨metadata_ key listed, fun isNumber => by cases isNumber⟩
      · exact passed check profile
  · exact .noDefault fun present => default (by rwa [HasDefault, profilesField] at present)

end Files

/-! ## Writing a file -/

def ModelProfile.toData (profile : ModelProfile) : Json :=
  .obj ([("reasoning", .str profile.reasoning.text), ("prompt_control", .str profile.promptControl.text)] ++
    profile.generationParameters ++ [("stream", .bool profile.stream)])

def ModelMetadata.toData (model : ModelMetadata) : Json :=
  .obj [("active_model_id", .str model.activeModelId.text), ("active_model_name", .str model.activeModelName.text),
    ("backend", .str model.backend.text)]

/-- A file with these profiles. -/
def ModelProfiles.toData (profiles : ModelProfiles) : Json :=
  .obj [("model", profiles.model.toData),
    ("profiles", .obj (profiles.profiles.map fun entry => (entry.1, entry.2.toData)))]

section Writing

variable {floatOfInt : Int → Except PyError PyFloat} {label : String}

theorem requireString_nonBlank (text : NonBlank) : requireString (some (.str text.text)) label = .ok text := by
  simp only [requireString, text.stripped, ne_eq, text.present, not_false_eq_true, dif_pos]

theorem requireString_reasoning (reasoning : Reasoning) : ∃ text, text.text = reasoning.text ∧
    ∀ label, requireString (some (.str reasoning.text)) label = .ok text := by
  cases reasoning <;> exact ⟨_, rfl, fun _ => rfl⟩

theorem requireString_promptControl (control : PromptControl) : ∃ text, text.text = control.text ∧
    ∀ label, requireString (some (.str control.text)) label = .ok text := by
  cases control <;> exact ⟨_, rfl, fun _ => rfl⟩

theorem requireReasoning_text (reasoning : Reasoning) : requireReasoning reasoning.text label = .ok reasoning := by
  cases reasoning <;> rfl

theorem requirePromptControl_text (control : PromptControl) : requirePromptControl control.text label = .ok control := by
  cases control <;> rfl

theorem requireInt_json (n : Integer) : requireInt (some n.json) label = .ok n := by
  cases n <;> rfl

theorem parseProfile_toData (profile : ModelProfile) :
    parseProfile floatOfInt profile.name profile.toData = .ok ⟨profile, rfl⟩ := by
  obtain ⟨reasoning, same, reads⟩ := requireString_reasoning profile.reasoning
  obtain ⟨control, sameControl, readsControl⟩ := requireString_promptControl profile.promptControl
  simp [parseProfile, ModelProfile.toData, requireMapping, Dict.get?, List.lookup_cons, ModelProfile.generationParameters,
      reads, same, readsControl, sameControl, requireReasoning_text, requirePromptControl_text,
      requireString_nonBlank, requireInt_json, requireFloat, requireBool, bind, Except.bind, pure, Except.pure]

theorem parseProfiles_toData {profiles : List (String × ModelProfile)} (named : ∀ entry ∈ profiles, entry.2.name = entry.1) :
    ∃ kept, parseProfiles floatOfInt (profiles.map fun entry => (entry.1, entry.2.toData)) = .ok ⟨profiles, kept⟩ := by
  induction profiles with
  | nil => exact ⟨_, rfl⟩
  | cons entry rest ih =>
      obtain ⟨name, profile⟩ := entry
      obtain ⟨own, others⟩ := List.forall_mem_cons.mp named
      obtain rfl : profile.name = name := own
      obtain ⟨⟨names, allNamed⟩, reads⟩ := ih others
      refine ⟨⟨by simp, named⟩, ?_⟩
      change (parseProfile floatOfInt profile.name profile.toData >>= _) = _
      rw [parseProfile_toData]
      change (parseProfiles floatOfInt _ >>= _) = _
      rw [reads]
      rfl

theorem parseMetadata_toData (model : ModelMetadata) {mapping : Dict} (data : model.toData = .obj mapping) :
    parseMetadata mapping = .ok model := by
  cases data
  simp [parseMetadata, Dict.get?, List.lookup_cons, requireString_nonBlank, bind, Except.bind, pure, Except.pure]

/-- A file that is written is read back. -/
theorem loadModelProfiles_toData (profiles : ModelProfiles) : loadModelProfiles floatOfInt profiles.toData = .ok profiles := by
  obtain ⟨model, profiles, named, default⟩ := profiles
  obtain ⟨⟨keys, allNamed⟩, reads⟩ := @parseProfiles_toData floatOfInt profiles named
  have names : "default" ∈ (profiles.map fun entry => (entry.1, entry.2.toData)).map Prod.fst := by
    rw [List.map_map]
    exact lookup_isSome.mp default
  change (if default : "default" ∈ (profiles.map fun entry => (entry.1, entry.2.toData)).map Prod.fst then _ else _) = _
  rw [dif_pos names]
  rw [parseMetadata_toData model rfl]
  change (parseProfiles floatOfInt _ >>= _) = _
  rw [reads]
  rfl

end Writing

/-- A file is accepted just when it is well formed, `float` taking each integer that it has
    for a number. What is accepted can be written and read again, and a file that is refused
    is so for what the error says. -/
theorem profiles_file (floatOfInt : Int → Except PyError PyFloat) (raw : Json) :
    ((∃ profiles, loadModelProfiles floatOfInt raw = .ok profiles) ↔ WellFormed floatOfInt raw) ∧
    (∀ profiles, loadModelProfiles floatOfInt raw = .ok profiles →
      loadModelProfiles floatOfInt profiles.toData = .ok profiles) ∧
    ∀ raised, loadModelProfiles floatOfInt raw = .error raised → Refused floatOfInt raw (fileChecks raw) raised := by
  have yields := @loadModelProfiles_yields floatOfInt raw
  refine ⟨⟨fun ⟨profiles, loaded⟩ => ?_, fun wellFormed => ?_⟩, fun profiles loaded => ?_, fun raised refused => ?_⟩
  · rw [loaded] at yields
    exact yields
  · cases read : loadModelProfiles floatOfInt raw with
    | ok profiles => exact ⟨profiles, rfl⟩
    | error raised =>
        rw [read] at yields
        cases yields with
        | value made fails => cases (wellFormed.checks _ made).passes.symm.trans fails
        | noDefault missing => exact absurd wellFormed.default missing
        | float made isNumber isInt fails =>
            obtain ⟨x, same⟩ := (wellFormed.checks _ made).converts isNumber _ isInt
            cases same.symm.trans fails
  · exact loadModelProfiles_toData profiles
  · rw [refused] at yields
    exact yields

/-! ## A file with a large number -/

def tooLargeForFloat : PyError :=
  { className := "OverflowError", message := "int too large to convert to float" }

/-- `float` of an integer that need not be rounded, or that is too large by far. -/
def exactFloat (n : Int) : Except PyError PyFloat :=
  if n.natAbs < 9007199254740992 then .ok (.finite n) else .error tooLargeForFloat

/-- A file whose default profile has this temperature. -/
def fileWith (temperature : Int) : Json :=
  .obj [("model", .obj [("active_model_id", .str "qwen"), ("active_model_name", .str "Qwen"),
      ("backend", .str "llama_server")]),
    ("profiles", .obj [("default", .obj [("reasoning", .str "on"), ("prompt_control", .str "/think"),
      ("model", .str "qwen"), ("temperature", .int temperature), ("top_p", .float (.finite 1)), ("top_k", .int 20),
      ("min_p", .int 0), ("max_tokens", .int 512), ("stream", .bool true)])])]

/-- Ten to the power of four hundred. -/
def tooLarge : Int := Int.ofNat (Nat.pow (Nat.pow 10 200) 2)

theorem exactFloat_tooLarge : exactFloat tooLarge = .error tooLargeForFloat := if_neg (by decide +kernel)

theorem profiles_file_demo : WellFormed exactFloat (fileWith 1) ∧
    ¬ ∃ profiles, loadModelProfiles exactFloat (fileWith tooLarge) = .ok profiles := by
  refine ⟨(profiles_file exactFloat _).1.mp ?_, fun loaded => ?_⟩
  · have accepted : (loadModelProfiles exactFloat (fileWith 1)).isOk = true := by decide +kernel
    cases read : loadModelProfiles exactFloat (fileWith 1) with
    | ok profiles => exact ⟨profiles, rfl⟩
    | error raised =>
        rw [read] at accepted
        cases accepted
  have fine := ((profiles_file exactFloat _).1.mp loaded).checks
    ⟨"profiles.default.temperature", .number, some (.int tooLarge)⟩ (by simp [fileChecks, fileWith, underKey, entriesOf,
      profileChecks, profileKinds, Dict.get?, List.lookup_cons])
  obtain ⟨x, converted⟩ := fine.converts rfl _ rfl
  cases exactFloat_tooLarge.symm.trans converted

end LanguageAgent.Gateway
