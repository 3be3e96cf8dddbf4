import LanguageAgent.Domain.Json

/-! # JSON texts

`json.dumps` with its defaults: separators with a space, and every character outside
printable ASCII escaped.
-/

namespace LanguageAgent

/-- From space to tilde. -/
def isPrintable (c : Char) : Bool := 0x20 ≤ c.toNat && c.toNat ≤ 0x7E

/-- `float.__repr__`. -/
structure FloatRepr where
  text : PyFloat → List Char
  plain : ∀ x, (text x).all isPrintable = true

namespace Json

def hexDigit (digit : Nat) : Char := "0123456789abcdef".toList.getD digit '0'

/-- `'\\u{0:04x}'.format(n)` -/
def unicodeEscape (n : Nat) : List Char :=
  ['\\', 'u', hexDigit (n / 4096 % 16), hexDigit (n / 256 % 16), hexDigit (n / 16 % 16), hexDigit (n % 16)]

/-- One character of a string; outside the BMP it becomes a surrogate pair. -/
def escape (c : Char) : List Char :=
  if c = '"' then ['\\', '"']
  else if c = '\\' then ['\\', '\\']
  else if c = '\n' then ['\\', 'n']
  else if c = '\r' then ['\\', 'r']
  else if c = '\t' then ['\\', 't']
  else if c = '\x08' then ['\\', 'b']
  else if c = '\x0C' then ['\\', 'f']
  else if isPrintable c then [c]
  else if c.toNat < 0x10000 then unicodeEscape c.toNat
  else
    let v := c.toNat - 0x10000
    unicodeEscape (0xD800 + v / 1024 % 1024) ++ unicodeEscape (0xDC00 + v % 1024)

def dumpsString (s : String) : List Char := '"' :: (s.toList.flatMap escape ++ ['"'])

def dumpsInt (n : Int) : List Char :=
  if n < 0 then '-' :: Nat.toDigits 10 n.natAbs else Nat.toDigits 10 n.natAbs

variable (floats : FloatRepr)

mutual

/-- `json.dumps` -/
def dumps : Json → List Char
  | .null => "null".toList
  | .bool true => "true".toList
  | .bool false => "false".toList
  | .int n => dumpsInt n
  | .float x => floats.text x
  | .str s => dumpsString s
  | .arr [] => "[]".toList
  | .arr (item :: rest) => '[' :: (dumps item ++ dumpsItems rest)
  | .obj [] => "\x7b\x7d".toList
  | .obj ((key, value) :: rest) => '\x7b' :: (dumpsString key ++ (": ".toList ++ (dumps value ++ dumpsFields rest)))

def dumpsItems : List Json → List Char
  | [] => [']']
  | item :: rest => ", ".toList ++ (dumps item ++ dumpsItems rest)

def dumpsFields : List (String × Json) → List Char
  | [] => ['\x7d']
  | (key, value) :: rest =>
      ", ".toList ++ (dumpsString key ++ (": ".toList ++ (dumps value ++ dumpsFields rest)))

end

/-! ## Only printable ASCII -/

theorem hexDigit_printable (n : Nat) : isPrintable (hexDigit (n % 16)) = true := by
  have bound := Nat.mod_lt n (y := 16) (by decide)
  generalize n % 16 = digit at bound
  revert digit
  decide

theorem unicodeEscape_printable (n : Nat) : (unicodeEscape n).all isPrintable = true := by
  simp only [unicodeEscape, List.all_cons, List.all_nil, hexDigit_printable]
  decide

theorem escape_printable (c : Char) : (escape c).all isPrintable = true := by
  unfold escape
  split_ifs with _ _ _ _ _ _ _ printable
  · decide
  · decide
  · decide
  · decide
  · decide
  · decide
  · decide
  · simp [printable]
  · exact unicodeEscape_printable _
  · rw [List.all_append, unicodeEscape_printable, unicodeEscape_printable]
    rfl

theorem dumpsString_printable (s : String) : (dumpsString s).all isPrintable = true := by
  have quote : isPrintable '"' = true := by decide
  have inner : (s.toList.flatMap escape).all isPrintable = true := by
    induction s.toList with
    | nil => rfl
    | cons c rest ih => rw [List.flatMap_cons, List.all_append, escape_printable, ih]; rfl
  simp [dumpsString, quote, inner, -List.all_flatMap]

theorem dumpsInt_printable (n : Int) : (dumpsInt n).all isPrintable = true := by
  have digits : (Nat.toDigits 10 n.natAbs).all isPrintable = true := by
    rw [List.all_eq_true]
    intro c member
    have digit : c.isDigit = true := Nat.isDigit_of_mem_toDigits (by decide) (by decide) member
    simp only [Char.isDigit, Bool.and_eq_true, decide_eq_true_eq, ge_iff_le, UInt32.le_iff_toNat_le] at digit
    obtain ⟨low, high⟩ := digit
    change 48 ≤ c.toNat at low
    change c.toNat ≤ 57 at high
    simp only [isPrintable, Bool.and_eq_true, decide_eq_true_eq]
    omega
  unfold dumpsInt
  split
  · rw [List.all_cons, digits]
    decide
  · exact digits

mutual

theorem dumps_printable : ∀ value : Json, (dumps floats value).all isPrintable = true
  | .null => by rw [dumps]; decide
  | .bool true => by rw [dumps]; decide
  | .bool false => by rw [dumps]; decide
  | .int n => by rw [dumps]; exact dumpsInt_printable n
  | .float x => by rw [dumps]; exact floats.plain x
  | .str s => by rw [dumps]; exact dumpsString_printable s
  | .arr [] => by rw [dumps]; decide
  | .arr (item :: rest) => by
      rw [dumps, List.all_cons, List.all_append, dumps_printable item, dumpsItems_printable rest]
      decide
  | .obj [] => by rw [dumps]; decide
  | .obj ((key, value) :: rest) => by
      rw [dumps, List.all_cons, List.all_append, List.all_append, List.all_append, dumpsString_printable,
        dumps_printable value, dumpsFields_printable rest]
      decide

theorem dumpsItems_printable : ∀ items : List Json, (dumpsItems floats items).all isPrintable = true
  | [] => by rw [dumpsItems]; decide
  | item :: rest => by
      rw [dumpsItems, List.all_append, List.all_append, dumps_printable item, dumpsItems_printable rest]
      decide

theorem dumpsFields_printable : ∀ fields : List (String × Json), (dumpsFields floats fields).all isPrintable = true
  | [] => by rw [dumpsFields]; decide
  | (key, value) :: rest => by
      rw [dumpsFields, List.all_append, List.all_append, List.all_append, List.all_append, dumpsString_printable,
        dumps_printable value, dumpsFields_printable rest]
      decide

end

theorem dumpsFields_closed (fields : Dict) : ∃ inner, dumpsFields floats fields = inner ++ ['\x7d'] := by
  induction fields with
  | nil => exact ⟨[], by rw [dumpsFields]; rfl⟩
  | cons entry rest ih =>
      obtain ⟨inner, closed⟩ := ih
      refine ⟨", ".toList ++ (dumpsString entry.1 ++ (": ".toList ++ (dumps floats entry.2 ++ inner))), ?_⟩
      rw [dumpsFields, closed]
      simp only [List.append_assoc]

/-- A dictionary is put between braces. -/
theorem dumps_obj (fields : Dict) : ∃ inner, dumps floats (.obj fields) = '\x7b' :: (inner ++ ['\x7d']) := by
  cases fields with
  | nil => exact ⟨[], by rw [dumps]; rfl⟩
  | cons entry rest =>
      obtain ⟨inner, closed⟩ := dumpsFields_closed floats rest
      refine ⟨dumpsString entry.1 ++ (": ".toList ++ (dumps floats entry.2 ++ inner)), ?_⟩
      rw [dumps, closed]
      simp only [List.append_assoc]

end Json

end LanguageAgent
