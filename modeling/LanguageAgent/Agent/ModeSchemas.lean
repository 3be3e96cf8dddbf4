import LanguageAgent.Domain.Schema

/-! # What the model is asked for

The schemas sent with the structured calls, and the classes made from the answers.
-/

namespace LanguageAgent.Agent

/-- `type: string` -/
def stringSchema : JsonSchema := .string none

/-- `type: array` of strings -/
def stringsSchema : JsonSchema := .array stringSchema

/-! ## The intent -/

def intentResponseSchema : JsonSchema := .object
  [("mode", .string (some ["translation", "definition", "learning", "general"])),
   ("confidence", .string (some ["low", "medium", "high"])),
   ("should_switch_mode", .boolean),
   ("reason", stringSchema),
   ("clarification_question", stringSchema)]
  ["mode", "confidence", "should_switch_mode", "reason", "clarification_question"]

def intentResult : ModelClass :=
  [{ name := "mode", type := .literal ["translation", "definition", "learning", "general"] },
   { name := "confidence", type := .literal ["low", "medium", "high"] },
   { name := "should_switch_mode", type := .bool },
   { name := "reason", type := .str },
   { name := "clarification_question", type := .str, default := some (.str "") }]

/-! ## The states of the modes -/

def translationStateSchema : JsonSchema := .object
  [("participant_a_language", stringSchema),
   ("participant_b_language", stringSchema),
   ("direction", .string (some ["auto", "a_to_b", "b_to_a"])),
   ("style", .string (some ["single_user", "two_person"]))]
  ["participant_a_language", "participant_b_language", "direction", "style"]

def translationModeState : ModelClass :=
  [{ name := "participant_a_language", type := .str, default := some (.str "unknown") },
   { name := "participant_b_language", type := .str, default := some (.str "unknown") },
   { name := "direction", type := .literal ["auto", "a_to_b", "b_to_a"], default := some (.str "auto") },
   { name := "style", type := .literal ["single_user", "two_person"], default := some (.str "single_user") }]

def definitionStateSchema : JsonSchema := .object
  [("current_term", .nullableString), ("language", stringSchema), ("sense", .nullableString)]
  ["current_term", "language", "sense"]

def definitionModeState : ModelClass :=
  [{ name := "current_term", type := .optStr, default := some .null },
   { name := "language", type := .str, default := some (.str "unknown") },
   { name := "sense", type := .optStr, default := some .null }]

def learningStateSchema : JsonSchema := .object
  [("target_language", stringSchema),
   ("native_language", stringSchema),
   ("level", .string (some ["beginner", "intermediate", "advanced", "unknown"])),
   ("current_topic", .nullableString),
   ("lesson_step", .integer 0)]
  ["target_language", "native_language", "level", "current_topic", "lesson_step"]

def learningModeState : ModelClass :=
  [{ name := "target_language", type := .str, default := some (.str "unknown") },
   { name := "native_language", type := .str, default := some (.str "unknown") },
   { name := "level", type := .literal ["beginner", "intermediate", "advanced", "unknown"]
     default := some (.str "unknown") },
   { name := "current_topic", type := .optStr, default := some .null },
   { name := "lesson_step", type := .int, default := some (.int 0) }]

/-! ## The responses of the modes -/

/-- `BaseModeResponse` -/
def baseModeResponse : ModelClass := [{ name := "response", type := .str }]

def translationResponseSchema : JsonSchema := .object
  [("source_language", stringSchema), ("target_language", stringSchema), ("translated_text", stringSchema), ("response", stringSchema)]
  ["source_language", "target_language", "translated_text", "response"]

def translationResponse : ModelClass := baseModeResponse ++
  [{ name := "mode", type := .literal ["translation"], default := some (.str "translation") },
   { name := "source_language", type := .str },
   { name := "target_language", type := .str },
   { name := "translated_text", type := .str }]

def definitionResponseSchema : JsonSchema := .object
  [("term", stringSchema),
   ("language", stringSchema),
   ("part_of_speech", stringSchema),
   ("pronunciation", stringSchema),
   ("meaning", stringSchema),
   ("examples", stringsSchema),
   ("synonyms", stringsSchema),
   ("antonyms", stringsSchema),
   ("etymology", stringSchema),
   ("response", stringSchema)]
  ["term", "language", "part_of_speech", "pronunciation", "meaning", "examples", "synonyms", "antonyms", "etymology",
   "response"]

def definitionResponse : ModelClass := baseModeResponse ++
  [{ name := "mode", type := .literal ["definition"], default := some (.str "definition") },
   { name := "term", type := .str },
   { name := "language", type := .str, default := some (.str "unknown") },
   { name := "part_of_speech", type := .str, default := some (.str "") },
   { name := "pronunciation", type := .str, default := some (.str "") },
   { name := "meaning", type := .str },
   { name := "examples", type := .strs, default := some (.arr []) },
   { name := "synonyms", type := .strs, default := some (.arr []) },
   { name := "antonyms", type := .strs, default := some (.arr []) },
   { name := "etymology", type := .str, default := some (.str "") }]

def learningResponseSchema : JsonSchema := .object
  [("target_language", stringSchema),
   ("native_language", stringSchema),
   ("level", .string (some ["beginner", "intermediate", "advanced", "unknown"])),
   ("topic", stringSchema),
   ("teaching_point", stringSchema),
   ("examples", stringsSchema),
   ("corrections", stringsSchema),
   ("new_vocabulary", .array (.object
     [("term", stringSchema), ("language", stringSchema), ("meaning", stringSchema), ("example", stringSchema)]
     ["term", "language", "meaning", "example"])),
   ("exercise", stringSchema),
   ("next_suggested_step", stringSchema),
   ("response", stringSchema)]
  ["target_language", "native_language", "level", "topic", "teaching_point", "response"]

def learningResponse : ModelClass := baseModeResponse ++
  [{ name := "mode", type := .literal ["learning"], default := some (.str "learning") },
   { name := "target_language", type := .str, default := some (.str "unknown") },
   { name := "native_language", type := .str, default := some (.str "unknown") },
   { name := "level", type := .str, default := some (.str "unknown") },
   { name := "topic", type := .str, default := some (.str "") },
   { name := "teaching_point", type := .str, default := some (.str "") },
   { name := "examples", type := .strs, default := some (.arr []) },
   { name := "corrections", type := .strs, default := some (.arr []) },
   { name := "new_vocabulary", type := .dicts, default := some (.arr []) },
   { name := "exercises", type := .strs, default := some (.arr []) },
   { name := "next_suggested_step", type := .str, default := some (.str "") }]

/-! ## Agreement -/

section Agreement

variable {conversions : Conversions} {schema : JsonSchema} {model : ModelClass} {data : Dict} {value : Json}

example : learningResponse.dropped learningResponseSchema = ["exercise"] := by decide

/-- A class all of whose fields are declared, and no numbers, keeps every valid object. -/
theorem keeps_all (covers : model.covers schema = true) (dropped : model.dropped schema = [])
    (undeclared : model.undeclared schema = []) (numbers : model.numbers = [])
    (valid : schema.valid (.obj data) = true) : model.Keeps conversions schema data := by
  rw [keeps_iff covers valid, dropped, undeclared, numbers]
  simp

theorem literal_isSome {s : String} :
    ((FieldType.literal [s]).read conversions value).isSome = true ↔ value = .str s := by
  cases value <;> simp [FieldType.read]

theorem strs_isSome :
    (FieldType.strs.read conversions value).isSome = true ↔
      ∃ items, value = .arr items ∧ ∀ item ∈ items, item.isStr = true := by
  cases value <;> simp [FieldType.read]

/-- Where only the mode is undeclared, it has to be the default. -/
theorem keeps_mode {mode : String} (covers : model.covers schema = true) (dropped : model.dropped schema = [])
    (undeclared : model.undeclared schema = [{ name := "mode", type := .literal [mode], default := some (.str mode) }])
    (numbers : model.numbers = []) (valid : schema.valid (.obj data) = true) :
    model.Keeps conversions schema data ↔ ∀ value, data.get? "mode" = some value → value = .str mode := by
  rw [keeps_iff covers valid, dropped, undeclared, numbers]
  simp [literal_isSome]

theorem learningModeState_keeps (valid : learningStateSchema.valid (.obj data) = true) :
    learningModeState.Keeps conversions learningStateSchema data ↔
      ∀ x, data.get? "lesson_step" = some (.float x) → (conversions.int (.float x)).isSome = true := by
  have numbers : learningModeState.numbers = [{ name := "lesson_step", type := .int, default := some (.int 0) }] := rfl
  have undeclared : learningModeState.undeclared learningStateSchema = [] := rfl
  have dropped : learningModeState.dropped learningStateSchema = [] := by decide
  have declared : learningStateSchema.properties.lookup "lesson_step" = some (.integer 0) := rfl
  have step : ∀ value, data.get? "lesson_step" = some value →
      FieldType.int.read conversions value = some value ∨ FieldType.int = .int ∧ ∃ x, value = .float x :=
    fun value present => FieldType.fits_read rfl (validProperties_lookup (valid_obj valid).2 declared present)
  rw [keeps_iff (by decide) valid, dropped, undeclared, numbers]
  simp only [List.not_mem_nil, false_implies, implies_true, List.nil_append, List.forall_mem_singleton, true_and]
  constructor
  · intro accepted x present
    simpa [FieldType.read] using accepted _ present
  · intro accepted value present
    rcases step value present with whole | ⟨-, x, rfl⟩
    · rw [whole]
      rfl
    · simpa [FieldType.read] using accepted x present

theorem learningResponse_keeps (valid : learningResponseSchema.valid (.obj data) = true) :
    learningResponse.Keeps conversions learningResponseSchema data ↔
      data.get? "exercise" = none ∧ (∀ value, data.get? "mode" = some value → value = .str "learning") ∧
        ∀ value, data.get? "exercises" = some value → ∃ items, value = .arr items ∧ ∀ item ∈ items, item.isStr = true := by
  have numbers : learningResponse.numbers = [] := rfl
  have undeclared : learningResponse.undeclared learningResponseSchema =
      [{ name := "mode", type := .literal ["learning"], default := some (.str "learning") },
       { name := "exercises", type := .strs, default := some (.arr []) }] := rfl
  have dropped : learningResponse.dropped learningResponseSchema = ["exercise"] := by decide
  rw [keeps_iff (by decide) valid, dropped, undeclared, numbers]
  simp [literal_isSome, strs_isSome]

end Agreement

/-- For every call and every object valid under its schema: when the class can be made
    from it and keeps what the schema declares. -/
theorem schemas_agree (conversions : Conversions) (data : Dict) :
    (intentResponseSchema.valid (.obj data) = true → intentResult.Keeps conversions intentResponseSchema data) ∧
      (translationStateSchema.valid (.obj data) = true →
        translationModeState.Keeps conversions translationStateSchema data) ∧
      (definitionStateSchema.valid (.obj data) = true →
        definitionModeState.Keeps conversions definitionStateSchema data) ∧
      (learningStateSchema.valid (.obj data) = true →
        (learningModeState.Keeps conversions learningStateSchema data ↔
          ∀ x, data.get? "lesson_step" = some (.float x) → (conversions.int (.float x)).isSome = true)) ∧
      (translationResponseSchema.valid (.obj data) = true →
        (translationResponse.Keeps conversions translationResponseSchema data ↔
          ∀ value, data.get? "mode" = some value → value = .str "translation")) ∧
      (definitionResponseSchema.valid (.obj data) = true →
        (definitionResponse.Keeps conversions definitionResponseSchema data ↔
          ∀ value, data.get? "mode" = some value → value = .str "definition")) ∧
      (learningResponseSchema.valid (.obj data) = true →
        (learningResponse.Keeps conversions learningResponseSchema data ↔
          data.get? "exercise" = none ∧ (∀ value, data.get? "mode" = some value → value = .str "learning") ∧
            ∀ value, data.get? "exercises" = some value →
              ∃ items, value = .arr items ∧ ∀ item ∈ items, item.isStr = true)) :=
  ⟨keeps_all (by decide) (by decide) rfl rfl, keeps_all (by decide) (by decide) rfl rfl,
    keeps_all (by decide) (by decide) rfl rfl, learningModeState_keeps, keeps_mode (by decide) (by decide) rfl rfl,
    keeps_mode (by decide) (by decide) rfl rfl, learningResponse_keeps⟩

/-- Whole floats and truth values are converted. -/
def wholeConversions : Conversions where
  int
    | .int n => some n
    | .float (.finite x) => if x.den = 1 then some x.num else none
    | .bool b => some (if b then 1 else 0)
    | _ => none
  int_int _ := rfl
  int_float x n converted := by
    cases x with
    | finite x =>
        simp only [Option.ite_none_right_eq_some, Option.some.injEq] at converted
        obtain ⟨whole, rfl⟩ := converted
        exact congrArg PyFloat.finite ((Rat.den_eq_one_iff x).mp whole)
    | inf negative => cases converted
    | nan => cases converted
  bool
    | .bool b => some b
    | _ => none
  bool_bool _ := rfl

/-- A lesson with an exercise. -/
def exerciseLesson : Dict :=
  [("target_language", .str "isiXhosa"), ("native_language", .str "English"), ("level", .str "beginner"),
   ("topic", .str "greetings"), ("teaching_point", .str "Molo"), ("exercise", .str "Greet a friend."),
   ("response", .str "Molo means hello.")]

/-- The exercise is dropped. -/
theorem exercise_dropped :
    learningResponseSchema.valid (.obj exerciseLesson) = true ∧
      ¬ learningResponse.Keeps wholeConversions learningResponseSchema exerciseLesson := by
  have valid : learningResponseSchema.valid (.obj exerciseLesson) = true := by decide
  refine ⟨valid, fun keeps => ?_⟩
  obtain ⟨absent, -⟩ := (learningResponse_keeps valid).mp keeps
  cases absent

end LanguageAgent.Agent
