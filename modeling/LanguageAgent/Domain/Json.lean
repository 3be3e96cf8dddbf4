import Mathlib.Data.Rat.Defs

/-! # JSON values and string-keyed dictionaries -/

namespace LanguageAgent

/-- A Python `float`; a zero has no sign. -/
inductive PyFloat where
  | finite (x : Rat)
  | inf (negative : Bool)
  | nan
  deriving DecidableEq

/-- A value `json.loads` can produce. Integers and floats are different Python types. -/
inductive Json where
  | null
  | bool (b : Bool)
  | int (n : Int)
  | float (x : PyFloat)
  | str (s : String)
  | arr (items : List Json)
  | obj (fields : List (String × Json))

/-- The value, where it is a string. -/
def Json.str? : Json → Option String
  | .str s => some s
  | _ => none

/-- `bool(value)` -/
def Json.truthy : Json → Bool
  | .null => false
  | .bool b => b
  | .int n => n ≠ 0
  | .float x => x ≠ .finite 0
  | .str s => s ≠ ""
  | .arr items => !items.isEmpty
  | .obj fields => !fields.isEmpty

/-- What `value or …` keeps of the value. -/
def Json.ifTruthy (value : Option Json) : Option Json := value.filter Json.truthy

/-- A `dict` with string keys, in insertion order. -/
abbrev Dict := List (String × Json)

namespace Dict

/-- `d.get(key)` -/
def get? (d : Dict) (key : String) : Option Json := d.lookup key

/-- `d[key] = value`: an existing key keeps its place. -/
def set (key : String) (value : Json) : Dict → Dict
  | [] => [(key, value)]
  | (k, v) :: rest => if k = key then (k, value) :: rest else (k, v) :: set key value rest

/-- `d.update(extra)` -/
def update (d extra : Dict) : Dict := extra.foldl (fun d entry => d.set entry.1 entry.2) d

/-- `d.get(key) is True` -/
def isTrue (d : Dict) (key : String) : Bool :=
  match d.get? key with
  | some (.bool true) => true
  | _ => false

/-- `d.get(key)` where it is a string. -/
def str? (d : Dict) (key : String) : Option String := (d.get? key).bind Json.str?

variable {d extra : Dict} {key other : String} {value : Json}

theorem get?_set : (d.set key value).get? other = if key = other then some value else d.get? other := by
  induction d with
  | nil =>
      by_cases same : key = other
      · subst same; simp [set, get?]
      · have different : (other == key) = false := beq_eq_false_iff_ne.mpr (Ne.symm same)
        simp [set, get?, same, List.lookup_cons, different]
  | cons entry rest ih =>
      obtain ⟨k, v⟩ := entry
      unfold get? at ih ⊢
      by_cases found : k = key
      · subst found
        by_cases same : k = other
        · subst same; simp [set]
        · have different : (other == k) = false := beq_eq_false_iff_ne.mpr (Ne.symm same)
          simp [set, same, List.lookup_cons, different]
      · simp only [set, found, if_false, List.lookup_cons]
        by_cases here : other = k
        · subst here
          simp [Ne.symm found]
        · have different : (other == k) = false := beq_eq_false_iff_ne.mpr here
          simp only [different, ih]

/-- `update` leaves the other keys alone. -/
theorem get?_update (absent : ∀ entry ∈ extra, entry.1 ≠ key) : (d.update extra).get? key = d.get? key := by
  induction extra generalizing d with
  | nil => rfl
  | cons entry rest ih =>
      have elsewhere := absent entry List.mem_cons_self
      rw [update, List.foldl_cons]
      change (Dict.update _ rest).get? key = _
      rw [ih fun entry member => absent entry (List.mem_cons_of_mem _ member), get?_set,
        if_neg elsewhere]

/-- A key of the other dictionary is taken from there. -/
theorem get?_update_distinct (distinct : (extra.map Prod.fst).Nodup) :
    (d.update extra).get? key = (extra.get? key).or (d.get? key) := by
  induction extra generalizing d with
  | nil => rfl
  | cons entry rest ih =>
      obtain ⟨k, v⟩ := entry
      obtain ⟨fresh, distinct⟩ := List.nodup_cons.mp distinct
      have later : (update d ((k, v) :: rest)).get? key = (get? rest key).or ((d.set k v).get? key) := ih distinct
      rw [later, get?_set]
      by_cases same : k = key
      · subst same
        have absent : rest.lookup k = none := by
          rw [List.lookup_eq_none_iff]
          intro entry member
          have different : k ≠ entry.1 := fun same => fresh (List.mem_map.mpr ⟨entry, member, same.symm⟩)
          exact bne_iff_ne.mpr different
        simp [get?, absent]
      · have different : (key == k) = false := beq_eq_false_iff_ne.mpr (Ne.symm same)
        simp [get?, List.lookup_cons, same, different]

end Dict

/-- The text an event carries. -/
def tokenOf (event : Dict) : String := (event.str? "token").getD ""

/-- A JSON number or `null`, as `float | None` is dumped. -/
def Json.optFloat : Option Rat → Json
  | none => .null
  | some x => .float (.finite x)

/-- A string or `null`, as `str | None` is dumped. -/
def Json.optStr : Option String → Json
  | none => .null
  | some s => .str s

/-- An integer or `null`, as `int | None` is dumped. -/
def Json.optNat : Option Nat → Json
  | none => .null
  | some n => .int n

end LanguageAgent
