import LanguageAgent.Domain.Json
import Mathlib.Data.Rat.Cast.Defs
import Mathlib.Algebra.Order.Ring.Rat

/-! # Schemas and models of JSON objects

The part of JSON Schema and of pydantic's models that is in use, and when a model keeps
what a schema declares.
-/

namespace LanguageAgent

/-! ## Schemas -/

/-- Other keys of an object are permitted. -/
inductive JsonSchema where
  | string (enum : Option (List String))
  | nullableString
  | integer (minimum : Int)
  | boolean
  | array (items : JsonSchema)
  | object (properties : List (String × JsonSchema)) (required : List String)

namespace JsonSchema

mutual

/-- The value is valid under the schema. A number without a fraction is an integer. -/
def valid : JsonSchema → Json → Bool
  | .string none, .str _ => true
  | .string (some enum), .str s => enum.contains s
  | .nullableString, .null => true
  | .nullableString, .str _ => true
  | .integer minimum, .int n => minimum ≤ n
  | .integer minimum, .float (.finite x) => x.den == 1 && (minimum : Rat) ≤ x
  | .boolean, .bool _ => true
  | .array items, .arr values => values.all items.valid
  | .object properties required, .obj data =>
      required.all (fun key => (Dict.get? data key).isSome) && validProperties properties data
  | _, _ => false

def validProperties : List (String × JsonSchema) → Dict → Bool
  | [], _ => true
  | (name, schema) :: rest, data =>
      (match Dict.get? data name with
        | some value => schema.valid value
        | none => true) && validProperties rest data

end

/-- The keys an object schema declares. -/
def properties : JsonSchema → List (String × JsonSchema)
  | .object properties _ => properties
  | _ => []

def required : JsonSchema → List String
  | .object _ required => required
  | _ => []

end JsonSchema

/-! ## Models -/

/-- How pydantic converts a value where a field does not want it as it is. -/
structure Conversions where
  int : Json → Option Int
  int_int : ∀ n, int (.int n) = some n
  int_float : ∀ x n, int (.float x) = some n → .finite n = x
  bool : Json → Option Bool
  bool_bool : ∀ b, bool (.bool b) = some b

inductive FieldType where
  | str
  | int
  | bool
  /-- `None | str` -/
  | optStr
  | literal (values : List String)
  /-- `list[str]` -/
  | strs
  /-- `list[dict]` -/
  | dicts
  deriving DecidableEq

def Json.isStr : Json → Bool
  | .str _ => true
  | _ => false

def Json.isObj : Json → Bool
  | .obj _ => true
  | _ => false

/-- The value a field is given, unless it is refused. -/
def FieldType.read (conversions : Conversions) : FieldType → Json → Option Json
  | .int, value => (conversions.int value).map .int
  | .bool, value => (conversions.bool value).map .bool
  | .str, .str s | .optStr, .str s => some (.str s)
  | .optStr, .null => some .null
  | .literal values, .str s => if values.contains s then some (.str s) else none
  | .strs, .arr items => if items.all Json.isStr then some (.arr items) else none
  | .dicts, .arr items => if items.all Json.isObj then some (.arr items) else none
  | _, _ => none

structure ModelField where
  name : String
  type : FieldType
  default : Option Json := none

/-- The value of a field in the model made from some keys. -/
def ModelField.fill (conversions : Conversions) (data : Dict) (field : ModelField) : Option (String × Json) :=
  match data.get? field.name with
  | some value => (field.type.read conversions value).map (field.name, ·)
  | none => field.default.map (field.name, ·)

abbrev ModelClass := List ModelField

/-- `Model(**data)`, as `model_dump` shows it. Keys without a field are ignored. -/
def ModelClass.construct (conversions : Conversions) (model : ModelClass) (data : Dict) : Option Dict :=
  model.mapM (ModelField.fill conversions data)

/-- The same value; an integer may have been a float. -/
inductive Json.SameValue : Json → Json → Prop where
  | refl (value : Json) : SameValue value value
  | float (n : Int) : SameValue (.float (.finite n)) (.int n)

/-- The model can be made from the object, and its dump holds what the schema declares. -/
def ModelClass.Keeps (conversions : Conversions) (schema : JsonSchema) (model : ModelClass) (data : Dict) : Prop :=
  ∃ dump, model.construct conversions data = some dump ∧
    ∀ property ∈ schema.properties, ∀ value, data.get? property.1 = some value →
      ∃ kept, dump.get? property.1 = some kept ∧ value.SameValue kept

/-! ## Agreement -/

/-- A field reads every valid value as it is, but for a float it may refuse. -/
def FieldType.fits : JsonSchema → FieldType → Bool
  | .string _, .str => true
  | .string (some enum), .literal values => enum.all fun value => values.contains value
  | .nullableString, .optStr => true
  | .integer _, .int => true
  | .boolean, .bool => true
  | .array (.string _), .strs => true
  | .array (.object _ _), .dicts => true
  | _, _ => false

/-- Every field has a name of its own, a default where its key may be missing, and fits
    what the schema declares under its name. -/
def ModelClass.covers (schema : JsonSchema) (model : ModelClass) : Bool :=
  (model.map ModelField.name).Nodup &&
    model.all fun field =>
      match schema.properties.lookup field.name with
      | some declared => field.type.fits declared && (field.default.isSome || schema.required.contains field.name)
      | none => field.default.isSome

/-- The declared properties no field is named after. -/
def ModelClass.dropped (schema : JsonSchema) (model : ModelClass) : List String :=
  (schema.properties.map Prod.fst).filter fun name => !(model.map ModelField.name).contains name

/-- The fields the schema does not declare. -/
def ModelClass.undeclared (schema : JsonSchema) (model : ModelClass) : ModelClass :=
  model.filter fun field => (schema.properties.lookup field.name).isNone

/-- The fields that convert a number. -/
def ModelClass.numbers (model : ModelClass) : ModelClass := model.filter fun field => field.type = .int

section Agreement

variable {conversions : Conversions} {schema : JsonSchema} {model : ModelClass} {data dump : Dict} {field : ModelField}
  {declared : JsonSchema} {type : FieldType} {value kept : Json}

theorem valid_string {enum : Option (List String)} (valid : (JsonSchema.string enum).valid value = true) :
    ∃ s, value = .str s ∧ ∀ values, enum = some values → s ∈ values := by
  cases value with
  | str s =>
      cases enum with
      | none => exact ⟨s, rfl, fun _ none => by cases none⟩
      | some values =>
          refine ⟨s, rfl, fun _ same => ?_⟩
          obtain rfl := Option.some.inj same
          simpa [JsonSchema.valid] using valid
  | _ => cases enum <;> simp [JsonSchema.valid] at valid

theorem valid_array {items : JsonSchema} (valid : (JsonSchema.array items).valid value = true) :
    ∃ values, value = .arr values ∧ ∀ item ∈ values, items.valid item = true := by
  cases value with
  | arr values => exact ⟨values, rfl, by simpa [JsonSchema.valid] using valid⟩
  | _ => simp [JsonSchema.valid] at valid

theorem valid_object {properties : List (String × JsonSchema)} {required : List String}
    (valid : (JsonSchema.object properties required).valid value = true) : value.isObj = true := by
  cases value with
  | obj _ => rfl
  | _ => simp [JsonSchema.valid] at valid

/-- A valid value is read as it is, or is a float. -/
theorem FieldType.fits_read (fits : type.fits declared = true) (valid : declared.valid value = true) :
    type.read conversions value = some value ∨ type = .int ∧ ∃ x, value = .float x := by
  cases declared with
  | string enum =>
      obtain ⟨s, rfl, member⟩ := valid_string valid
      cases type with
      | str => exact Or.inl rfl
      | literal values =>
          cases enum with
          | none => simp [FieldType.fits] at fits
          | some enum =>
              have allowed : ∀ value ∈ enum, value ∈ values := by simpa [FieldType.fits] using fits
              have here := allowed s (member enum rfl)
              exact Or.inl (by simp [FieldType.read, here])
      | _ => simp [FieldType.fits] at fits
  | nullableString =>
      cases type with
      | optStr =>
          left
          cases value <;> first | rfl | simp [JsonSchema.valid] at valid
      | _ => simp [FieldType.fits] at fits
  | integer minimum =>
      cases type with
      | int =>
          cases value with
          | int n => exact Or.inl (by simp [FieldType.read, conversions.int_int])
          | float x => exact Or.inr ⟨rfl, x, rfl⟩
          | _ => simp [JsonSchema.valid] at valid
      | _ => simp [FieldType.fits] at fits
  | boolean =>
      cases type with
      | bool =>
          cases value with
          | bool b => exact Or.inl (by simp [FieldType.read, conversions.bool_bool])
          | _ => simp [JsonSchema.valid] at valid
      | _ => simp [FieldType.fits] at fits
  | array items =>
      obtain ⟨values, rfl, each⟩ := valid_array valid
      left
      cases type with
      | strs =>
          cases items with
          | string enum =>
              have strs : values.all Json.isStr = true := by
                refine List.all_eq_true.mpr fun item member => ?_
                obtain ⟨s, rfl, -⟩ := valid_string (each item member)
                rfl
              simp only [FieldType.read, strs, if_true]
          | _ => simp [FieldType.fits] at fits
      | dicts =>
          cases items with
          | object properties required =>
              have dicts : values.all Json.isObj = true :=
                List.all_eq_true.mpr fun item member => valid_object (each item member)
              simp only [FieldType.read, dicts, if_true]
          | _ => simp [FieldType.fits] at fits
      | _ => simp [FieldType.fits] at fits
  | object properties required => cases type <;> simp [FieldType.fits] at fits

/-- What is read of a valid value is that value. -/
theorem FieldType.fits_same (fits : type.fits declared = true) (valid : declared.valid value = true)
    (read : type.read conversions value = some kept) : value.SameValue kept := by
  have reads : type.read conversions value = some value ∨ type = .int ∧ ∃ x, value = .float x := fits_read fits valid
  rcases reads with whole | ⟨rfl, x, rfl⟩
  · obtain rfl := Option.some.inj (whole.symm.trans read)
    exact .refl value
  · obtain ⟨n, converted, rfl⟩ := Option.map_eq_some_iff.mp read
    rw [← conversions.int_float x n converted]
    exact .float n

theorem validProperties_lookup {properties : List (String × JsonSchema)} {name : String}
    (valid : JsonSchema.validProperties properties data = true) (found : properties.lookup name = some declared)
    (present : data.get? name = some value) : declared.valid value = true := by
  induction properties with
  | nil => cases found
  | cons property rest ih =>
      obtain ⟨first, schema⟩ := property
      rw [JsonSchema.validProperties, Bool.and_eq_true] at valid
      by_cases same : name = first
      · subst same
        obtain rfl : schema = declared := by simpa [List.lookup_cons] using found
        simpa [present] using valid.1
      · refine ih valid.2 ?_
        have different : (name == first) = false := beq_eq_false_iff_ne.mpr same
        simpa [List.lookup_cons, different] using found

theorem fill_name {entry : String × Json} (filled : field.fill conversions data = some entry) : entry.1 = field.name := by
  unfold ModelField.fill at filled
  split at filled
  · obtain ⟨_, -, rfl⟩ := Option.map_eq_some_iff.mp filled
    rfl
  · obtain ⟨_, -, rfl⟩ := Option.map_eq_some_iff.mp filled
    rfl

theorem construct_cons :
    ModelClass.construct conversions (field :: model) data =
      (field.fill conversions data).bind fun entry =>
        (model.construct conversions data).map fun entries => entry :: entries := by
  unfold ModelClass.construct
  rw [List.mapM_cons]
  cases field.fill conversions data with
  | none => rfl
  | some entry => cases List.mapM (ModelField.fill conversions data) model <;> rfl

theorem construct_isSome :
    (model.construct conversions data).isSome = true ↔ ∀ field ∈ model, (field.fill conversions data).isSome = true := by
  induction model with
  | nil => simp [ModelClass.construct]
  | cons field rest ih =>
      rw [construct_cons, List.forall_mem_cons, ← ih]
      cases field.fill conversions data <;> simp

/-- Every entry of the dump is what its field was filled with. -/
theorem construct_entry (distinct : (model.map ModelField.name).Nodup)
    (constructed : model.construct conversions data = some dump) (member : field ∈ model) :
    ∃ entry, field.fill conversions data = some (field.name, entry) ∧ dump.get? field.name = some entry := by
  induction model generalizing dump with
  | nil => cases member
  | cons first rest ih =>
      rw [construct_cons] at constructed
      obtain ⟨⟨name, entry⟩, filled, later⟩ := Option.bind_eq_some_iff.mp constructed
      obtain ⟨entries, others, rfl⟩ := Option.map_eq_some_iff.mp later
      obtain rfl : name = first.name := fill_name filled
      obtain ⟨fresh, distinct⟩ := List.nodup_cons.mp distinct
      rcases List.mem_cons.mp member with rfl | member
      · exact ⟨entry, filled, by simp [Dict.get?]⟩
      · obtain ⟨found, filled, here⟩ := ih distinct others member
        refine ⟨found, filled, ?_⟩
        have different : (field.name == first.name) = false :=
          beq_eq_false_iff_ne.mpr fun same => fresh (same ▸ List.mem_map_of_mem member)
        unfold Dict.get? at here ⊢
        rwa [List.lookup_cons, different]

/-- The dump has no entry but those of the fields. -/
theorem construct_absent {name : String} (constructed : model.construct conversions data = some dump)
    (absent : name ∉ model.map ModelField.name) : dump.get? name = none := by
  induction model generalizing dump with
  | nil =>
      obtain rfl : [] = dump := Option.some.inj constructed
      rfl
  | cons first rest ih =>
      rw [construct_cons] at constructed
      obtain ⟨⟨other, entry⟩, filled, later⟩ := Option.bind_eq_some_iff.mp constructed
      obtain ⟨entries, others, rfl⟩ := Option.map_eq_some_iff.mp later
      obtain rfl : other = first.name := fill_name filled
      rw [List.map_cons, List.mem_cons, not_or] at absent
      have different : (name == first.name) = false := beq_eq_false_iff_ne.mpr absent.1
      have missing := ih others absent.2
      unfold Dict.get? at missing ⊢
      rwa [List.lookup_cons, different]

theorem valid_obj (valid : schema.valid (.obj data) = true) :
    (∀ key ∈ schema.required, (data.get? key).isSome = true) ∧
      JsonSchema.validProperties schema.properties data = true := by
  cases schema with
  | object properties required => simpa [JsonSchema.valid, JsonSchema.properties, JsonSchema.required] using valid
  | string enum => cases enum <;> simp [JsonSchema.valid] at valid
  | _ => simp [JsonSchema.valid] at valid

/-- What covering says of a field. -/
theorem covers_field (covers : model.covers schema = true) (member : field ∈ model) :
    match schema.properties.lookup field.name with
    | some declared =>
        field.type.fits declared = true ∧ (field.default.isSome = true ∨ field.name ∈ schema.required)
    | none => field.default.isSome = true := by
  obtain ⟨-, each⟩ := Bool.and_eq_true_iff.mp covers
  have here := List.all_eq_true.mp each field member
  cases found : schema.properties.lookup field.name <;> simpa [found] using here

/-- A missing key is no obstacle. -/
theorem fill_missing (covers : model.covers schema = true) (valid : schema.valid (.obj data) = true)
    (member : field ∈ model) (missing : data.get? field.name = none) :
    (field.fill conversions data).isSome = true := by
  have here := covers_field covers member
  simp only [ModelField.fill, missing, Option.isSome_map]
  split at here
  · rcases here.2 with default | required
    · exact default
    · have present := (valid_obj valid).1 field.name required
      simp [missing] at present
  · exact here

/-- A model that covers a schema keeps what a valid object holds exactly where the object
    has none of the dropped properties, and the fields the schema says nothing of, or only
    that they are numbers, do not refuse it. -/
theorem keeps_iff (covers : model.covers schema = true) (valid : schema.valid (.obj data) = true) :
    model.Keeps conversions schema data ↔
      (∀ name ∈ model.dropped schema, data.get? name = none) ∧
        ∀ field ∈ model.undeclared schema ++ model.numbers, ∀ value, data.get? field.name = some value →
          (field.type.read conversions value).isSome = true := by
  have distinct : (model.map ModelField.name).Nodup := by simpa using (Bool.and_eq_true_iff.mp covers).1
  constructor
  · rintro ⟨dump, constructed, keeps⟩
    constructor
    · intro name dropped
      obtain ⟨declared, nameless⟩ := List.mem_filter.mp dropped
      obtain ⟨property, member, rfl⟩ := List.mem_map.mp declared
      cases present : data.get? property.1 with
      | none => rfl
      | some value =>
          obtain ⟨kept, found, -⟩ := keeps property member value present
          rw [construct_absent constructed (by simpa using nameless)] at found
          cases found
    · intro field member value present
      have member : field ∈ model := by
        rcases List.mem_append.mp member with undeclared | number
        · exact (List.mem_filter.mp undeclared).1
        · exact (List.mem_filter.mp number).1
      have filled := construct_isSome.mp (Option.isSome_iff_exists.mpr ⟨dump, constructed⟩) field member
      simpa [ModelField.fill, present] using filled
  · rintro ⟨absent, accepted⟩
    have filled : ∀ field ∈ model, (field.fill conversions data).isSome = true := by
      intro field member
      cases present : data.get? field.name with
      | none => exact fill_missing covers valid member present
      | some value =>
          simp only [ModelField.fill, present, Option.isSome_map]
          have here := covers_field covers member
          cases found : schema.properties.lookup field.name with
          | none =>
              refine accepted field (List.mem_append_left _ ?_) value present
              exact List.mem_filter.mpr ⟨member, by simp [found]⟩
          | some declared =>
              rw [found] at here
              rcases FieldType.fits_read here.1 (validProperties_lookup (valid_obj valid).2 found present) with
                whole | ⟨number, -⟩
              · rw [whole]
                rfl
              · refine accepted field (List.mem_append_right _ ?_) value present
                exact List.mem_filter.mpr ⟨member, decide_eq_true number⟩
    obtain ⟨dump, constructed⟩ := Option.isSome_iff_exists.mp (construct_isSome.mpr filled)
    refine ⟨dump, constructed, fun property declared value present => ?_⟩
    have named : property.1 ∈ model.map ModelField.name := by
      by_contra nameless
      have dropped : property.1 ∈ model.dropped schema :=
        List.mem_filter.mpr ⟨List.mem_map_of_mem declared, by simpa using nameless⟩
      rw [absent property.1 dropped] at present
      cases present
    obtain ⟨field, member, same⟩ := List.mem_map.mp named
    obtain ⟨kept, filled, here⟩ := construct_entry distinct constructed member
    rw [← same] at present ⊢
    refine ⟨kept, here, ?_⟩
    have read : field.type.read conversions value = some kept := by
      simpa [ModelField.fill, present] using filled
    have fits := covers_field covers member
    cases found : schema.properties.lookup field.name with
    | none =>
        rw [List.lookup_eq_none_iff] at found
        exact absurd (found property declared) (by simp [same])
    | some schema' =>
        rw [found] at fits
        exact FieldType.fits_same fits.1 (validProperties_lookup (valid_obj valid).2 found present) read

end Agreement

end LanguageAgent
