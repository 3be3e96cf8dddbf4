import Mathlib.Algebra.Group.Nat.Defs
import LanguageAgent.Domain.JsonReader

/-! # JSON texts read back

`json.loads` inverts `json.dumps`, with its defaults as with the options that HTTP bodies
are written with.
-/

namespace LanguageAgent.Json

/-! ## Styles -/

/-- `ensure_ascii`, and whether the separators end in a space. -/
structure DumpStyle where
  ensureAscii : Bool := true
  spaced : Bool := true

namespace DumpStyle

/-- `separators=(",", ":")` and `ensure_ascii=False` -/
def compact : DumpStyle where
  ensureAscii := false
  spaced := false

variable (style : DumpStyle)

def gap : List Char := if style.spaced then [' '] else []

def separator (c : Char) : List Char := c :: style.gap

/-- Without `ensure_ascii` only what must be escaped is. -/
def escape (c : Char) : List Char :=
  if style.ensureAscii || c == '"' || c == '\\' || c.toNat < 0x20 then Json.escape c else [c]

def dumpsString (s : String) : List Char := '"' :: (s.toList.flatMap style.escape ++ ['"'])

end DumpStyle

section Dumps

variable (floats : FloatRepr) (style : DumpStyle)

mutual

/-- `json.dumps` with these options. -/
def dumpsIn : Json → List Char
  | .null => "null".toList
  | .bool true => "true".toList
  | .bool false => "false".toList
  | .int n => dumpsInt n
  | .float x => floats.text x
  | .str s => style.dumpsString s
  | .arr [] => "[]".toList
  | .arr (item :: rest) => '[' :: (dumpsIn item ++ dumpsItemsIn rest)
  | .obj [] => "\x7b\x7d".toList
  | .obj ((key, value) :: rest) =>
      '\x7b' :: (style.dumpsString key ++ (style.separator ':' ++ (dumpsIn value ++ dumpsFieldsIn rest)))

def dumpsItemsIn : List Json → List Char
  | [] => [']']
  | item :: rest => style.separator ',' ++ (dumpsIn item ++ dumpsItemsIn rest)

def dumpsFieldsIn : List (String × Json) → List Char
  | [] => ['\x7d']
  | (key, value) :: rest =>
      style.separator ',' ++ (style.dumpsString key ++ (style.separator ':' ++ (dumpsIn value ++ dumpsFieldsIn rest)))

end

theorem dumpsString_default (s : String) : DumpStyle.dumpsString {} s = dumpsString s := rfl

mutual

theorem dumpsIn_default : ∀ value : Json, dumpsIn floats {} value = dumps floats value
  | .null | .bool true | .bool false | .int _ | .float _ | .arr [] | .obj [] => by rw [dumpsIn, dumps]
  | .str s => by rw [dumpsIn, dumps, dumpsString_default]
  | .arr (item :: rest) => by rw [dumpsIn, dumps, dumpsIn_default item, dumpsItemsIn_default rest]
  | .obj ((key, value) :: rest) => by
      rw [dumpsIn, dumps, dumpsIn_default value, dumpsFieldsIn_default rest, dumpsString_default]
      rfl

theorem dumpsItemsIn_default : ∀ items : List Json, dumpsItemsIn floats {} items = dumpsItems floats items
  | [] => by rw [dumpsItemsIn, dumpsItems]
  | item :: rest => by
      rw [dumpsItemsIn, dumpsItems, dumpsIn_default item, dumpsItemsIn_default rest]
      rfl

theorem dumpsFieldsIn_default : ∀ fields : Dict, dumpsFieldsIn floats {} fields = dumpsFields floats fields
  | [] => by rw [dumpsFieldsIn, dumpsFields]
  | (key, value) :: rest => by
      rw [dumpsFieldsIn, dumpsFields, dumpsIn_default value, dumpsFieldsIn_default rest, dumpsString_default]
      rfl

end

end Dumps

/-! ## Strings -/

section Strings

variable {style : DumpStyle} {c : Char} {n : Nat} {text rest : List Char} {items : List StringItem}

theorem hexValue_hexDigit (n : Nat) : hexValue (hexDigit (n % 16)) = some (n % 16) := by
  have bound := Nat.mod_lt n (y := 16) (by decide)
  generalize n % 16 = digit at bound
  revert digit
  decide

theorem hexNumber_hexDigit (below : n < 0x10000) :
    hexNumber (hexDigit (n / 4096 % 16)) (hexDigit (n / 256 % 16)) (hexDigit (n / 16 % 16)) (hexDigit (n % 16)) = some n := by
  simp only [hexNumber, hexValue_hexDigit, Option.bind_eq_bind, Option.bind_some, Option.some.injEq]
  omega

/-- The items a text is read as after some others. -/
def followedBy (items : List StringItem) (read : Except ReadError (List StringItem × List Char)) :
    Except ReadError (List StringItem × List Char) :=
  read.map fun (later, rest) => (items ++ later, rest)

theorem stringItems_unicodeEscape (below : n < 0x10000) :
    stringItems (unicodeEscape n ++ text) = followedBy [.code n] (stringItems text) := by
  have number := hexNumber_hexDigit below
  simp only [unicodeEscape, List.cons_append, List.nil_append, stringItems, number]
  cases stringItems text <;> rfl

theorem stringItems_unescape {escaped : Char} (known : unescape escaped = some c) (other : escaped ≠ 'u') :
    stringItems ('\\' :: escaped :: text) = followedBy [.char c] (stringItems text) := by
  rw [stringItems]
  · simp only [show ('\\' : Char) ≠ '"' by decide, if_false, if_true, known, Option.elim]
    cases stringItems text <;> rfl
  · rintro _ _ _ _ _ rfl
    exact absurd rfl other

theorem stringItems_char (quote : c ≠ '"') (backslash : c ≠ '\\') (low : ¬ c.toNat < 0x20) :
    stringItems (c :: text) = followedBy [.char c] (stringItems text) := by
  rw [stringItems.eq_def]
  simp only [quote, backslash, low, if_false]
  cases stringItems text <;> rfl

theorem surrogate_toNat : isHighSurrogate c.toNat = false ∧ isLowSurrogate c.toNat = false := by
  have valid := c.valid
  simp only [isHighSurrogate, isLowSurrogate, Bool.and_eq_false_iff, decide_eq_false_iff_not]
  simp only [UInt32.isValidChar, Nat.isValidChar] at valid
  change c.toNat < _ ∨ _ < c.toNat ∧ _ at valid
  omega

theorem joinItems_code : joinItems (.code c.toNat :: items) = (joinItems items).map (c :: ·) := by
  obtain ⟨high, low⟩ := @surrogate_toNat c
  cases items with
  | nil => simp [joinItems, high, low]
  | cons item rest => cases item <;> simp [joinItems, high, low]

theorem joinItems_pair (beyond : ¬ c.toNat < 0x10000) :
    joinItems (.code (0xD800 + (c.toNat - 0x10000) / 1024 % 1024) :: .code (0xDC00 + (c.toNat - 0x10000) % 1024) :: items) =
      (joinItems items).map (c :: ·) := by
  have below : c.toNat < 0x110000 := by
    have valid := c.valid
    simp only [UInt32.isValidChar, Nat.isValidChar] at valid
    change c.toNat < _ ∨ _ < c.toNat ∧ c.toNat < _ at valid
    omega
  have high : isHighSurrogate (0xD800 + (c.toNat - 0x10000) / 1024 % 1024) = true := by
    simp only [isHighSurrogate, Bool.and_eq_true, decide_eq_true_eq]
    omega
  have low : isLowSurrogate (0xDC00 + (c.toNat - 0x10000) % 1024) = true := by
    simp only [isLowSurrogate, Bool.and_eq_true, decide_eq_true_eq]
    omega
  have whole : 0x10000 + (0xD800 + (c.toNat - 0x10000) / 1024 % 1024 - 0xD800) * 1024 +
      (0xDC00 + (c.toNat - 0x10000) % 1024 - 0xDC00) = c.toNat := by omega
  rw [joinItems, high, low, whole, Char.ofNat_toNat]
  rfl

/-- A text that stands for a character in a string. -/
def StandsFor (text : List Char) (c : Char) : Prop :=
  ∃ items, (∀ later, stringItems (text ++ later) = followedBy items (stringItems later)) ∧
    ∀ later, joinItems (items ++ later) = (joinItems later).map (c :: ·)

theorem standsFor_unescape {escaped : Char} (known : unescape escaped = some c) (other : escaped ≠ 'u') :
    StandsFor ['\\', escaped] c :=
  ⟨[.char c], fun _ => stringItems_unescape known other, fun _ => rfl⟩

theorem escape_standsFor : StandsFor (style.escape c) c := by
  unfold DumpStyle.escape
  split_ifs with must
  · unfold Json.escape
    split_ifs with quote backslash newline back tab bell feed printable bmp
    · subst quote
      exact standsFor_unescape rfl (by decide)
    · subst backslash
      exact standsFor_unescape rfl (by decide)
    · exact standsFor_unescape (newline ▸ rfl) (by decide)
    · exact standsFor_unescape (back ▸ rfl) (by decide)
    · exact standsFor_unescape (tab ▸ rfl) (by decide)
    · exact standsFor_unescape (bell ▸ rfl) (by decide)
    · exact standsFor_unescape (feed ▸ rfl) (by decide)
    · have high : ¬ c.toNat < 0x20 := by
        simp only [isPrintable, Bool.and_eq_true, decide_eq_true_eq] at printable
        omega
      exact ⟨[.char c], fun _ => stringItems_char quote backslash high, fun _ => rfl⟩
    · exact ⟨[.code c.toNat], fun _ => stringItems_unicodeEscape bmp, fun _ => joinItems_code⟩
    · refine ⟨[.code (0xD800 + (c.toNat - 0x10000) / 1024 % 1024), .code (0xDC00 + (c.toNat - 0x10000) % 1024)],
        fun later => ?_, fun _ => joinItems_pair bmp⟩
      rw [List.append_assoc, stringItems_unicodeEscape (by omega), stringItems_unicodeEscape (by omega)]
      cases stringItems later <;> rfl
  · simp only [Bool.or_eq_true, beq_iff_eq, decide_eq_true_eq, not_or] at must
    obtain ⟨⟨⟨-, quote⟩, backslash⟩, high⟩ := must
    exact ⟨[.char c], fun _ => stringItems_char quote backslash high, fun _ => rfl⟩

theorem flatMap_escape_reads (chars : List Char) :
    ∃ items, stringItems (chars.flatMap style.escape ++ '"' :: rest) = .ok (items, rest) ∧ joinItems items = .ok chars := by
  induction chars with
  | nil =>
      refine ⟨[], ?_, rfl⟩
      rw [List.flatMap_nil, List.nil_append, stringItems.eq_def]
      rfl
  | cons c chars ih =>
      obtain ⟨items, read, joined⟩ := ih
      obtain ⟨first, reads, joins⟩ := @escape_standsFor style c
      refine ⟨first ++ items, ?_, ?_⟩
      · rw [List.flatMap_cons, List.append_assoc, reads, read]
        rfl
      · rw [joins, joined]
        rfl

/-- A string is read back up to its closing quote. -/
theorem readString_dumps (s : String) :
    readString (s.toList.flatMap style.escape ++ '"' :: rest) = .ok (s, rest) := by
  obtain ⟨items, read, joined⟩ := @flatMap_escape_reads style rest s.toList
  simp only [readString, read, joined, bind, Except.bind, String.ofList_toList]

end Strings

/-! ## Numbers -/

/-- What may stand after a value. -/
def Closes (rest : List Char) : Prop := ∀ c ∈ rest.head?, c = ',' ∨ c = ']' ∨ c = '\x7d'

section Numbers

variable {floatOf : List Char → PyFloat} {rest : List Char} {n : Nat}

theorem Closes.digits {digits : List Char} (closes : Closes rest) (all : ∀ c ∈ digits, c.isDigit = true) :
    (digits ++ rest).takeWhile Char.isDigit = digits ∧ (digits ++ rest).dropWhile Char.isDigit = rest := by
  have stops : rest.takeWhile Char.isDigit = [] ∧ rest.dropWhile Char.isDigit = rest := by
    cases rest with
    | nil => exact ⟨rfl, rfl⟩
    | cons c rest => rcases closes c rfl with rfl | rfl | rfl <;> exact ⟨rfl, rfl⟩
  rw [List.takeWhile_append_of_pos all, List.dropWhile_append_of_pos all, stops.1, stops.2, List.append_nil]
  exact ⟨rfl, rfl⟩

theorem Closes.readFraction (closes : Closes rest) : readFraction rest = ([], rest) := by
  cases rest with
  | nil => rfl
  | cons c rest => rcases closes c rfl with rfl | rfl | rfl <;> rfl

theorem Closes.readExponent (closes : Closes rest) : readExponent rest = ([], rest) := by
  cases rest with
  | nil => rfl
  | cons c rest =>
      cases rest with
      | nil => rfl
      | cons sign rest => rcases closes c rfl with rfl | rfl | rfl <;> rfl

/-- Only zero has a zero at its front. -/
theorem toDigits_front (positive : 0 < n) : ∃ c more, Nat.toDigits 10 n = c :: more ∧ c ≠ '0' := by
  induction n using Nat.strongRecOn with
  | ind n ih =>
      by_cases small : n < 10
      · have digit : ∀ n < 10, 0 < n → n.digitChar ≠ '0' := by decide
        exact ⟨n.digitChar, [], Nat.toDigits_of_lt_base small, digit n small positive⟩
      · obtain ⟨c, more, front, nonzero⟩ := ih (n / 10) (by omega) (by omega)
        refine ⟨c, more ++ [(n % 10).digitChar], ?_, nonzero⟩
        rw [Nat.toDigits_of_base_le (by decide) (by omega), front]
        rfl

theorem readWhole_toDigits (closes : Closes rest) :
    readWhole (Nat.toDigits 10 n ++ rest) = (Nat.toDigits 10 n, rest) := by
  rcases Nat.eq_zero_or_pos n with rfl | positive
  · rfl
  · obtain ⟨c, more, front, nonzero⟩ := toDigits_front positive
    have all : ∀ c ∈ Nat.toDigits 10 n, c.isDigit = true := fun c member =>
      Nat.isDigit_of_mem_toDigits (by decide) (by decide) member
    have digits := closes.digits all
    rw [front] at digits ⊢
    rw [List.cons_append] at digits ⊢
    rw [readWhole, digits.1, digits.2]
    rintro more' same
    exact nonzero (List.cons.inj same).1

theorem readNumber_digits {sign : List Char} (closes : Closes rest) (short : n < 10 ^ maxDigits)
    (signed : readSign (sign ++ (Nat.toDigits 10 n ++ rest)) = (sign, Nat.toDigits 10 n ++ rest)) :
    readNumber floatOf (sign ++ (Nat.toDigits 10 n ++ rest)) = .ok (.int (intOfDigits sign (Nat.toDigits 10 n)), rest) := by
  have few : ¬ maxDigits < (Nat.toDigits 10 n).length := by
    rw [Nat.not_lt]
    exact (Nat.length_toDigits_le_iff (by decide) (by decide)).mpr short
  simp only [readNumber, signed, readWhole_toDigits closes, Nat.toDigits_ne_nil, if_false, closes.readFraction,
    closes.readExponent, and_self, if_true, few]

theorem readNumber_dumpsInt {n : Int} (closes : Closes rest) (short : n.natAbs < 10 ^ maxDigits) :
    readNumber floatOf (dumpsInt n ++ rest) = .ok (.int n, rest) := by
  have value : ((Nat.ofDigitChars 10 (Nat.toDigits 10 n.natAbs) 0 : Nat) : Int) = n.natAbs := by
    rw [Nat.ofDigitChars_ten_toDigits]
  unfold dumpsInt
  split
  · rename_i negative
    have read := @readNumber_digits floatOf rest n.natAbs ['-'] closes short rfl
    simp only [List.cons_append, List.nil_append, intOfDigits, value, List.cons_ne_self, if_false] at read
    rw [List.cons_append, read]
    congr 3
    omega
  · rename_i positive
    have unsigned : readSign (Nat.toDigits 10 n.natAbs ++ rest) = ([], Nat.toDigits 10 n.natAbs ++ rest) := by
      cases digits : Nat.toDigits 10 n.natAbs with
      | nil => exact absurd digits Nat.toDigits_ne_nil
      | cons c more =>
          have digit : c.isDigit = true := Nat.isDigit_of_mem_toDigits (n := n.natAbs) (by decide) (by decide)
            (digits ▸ List.mem_cons_self)
          rw [List.cons_append, readSign]
          rintro more' same
          obtain rfl := (List.cons.inj same).1
          cases digit
    have read := @readNumber_digits floatOf rest n.natAbs [] closes short unsigned
    simp only [List.nil_append, intOfDigits, value, if_true] at read
    rw [read]
    congr 3
    omega

end Numbers

/-! ## Values -/

section Values

/-- What the text of a number begins with; `NaN` and `Infinity` are numbers. -/
def startsNumber (c : Char) : Bool := c == '-' || c.isDigit || c == 'N' || c == 'I'

/-- The text of a float is read as this float. -/
structure FloatReads (floats : FloatRepr) (floatOf : List Char → PyFloat) (x : PyFloat) : Prop where
  starts : ∃ c more, floats.text x = c :: more ∧ startsNumber c = true
  reads : ∀ rest, Closes rest → readNumber floatOf (floats.text x ++ rest) = .ok (.float x, rest)

variable (floats : FloatRepr) (floatOf : List Char → PyFloat)

mutual

/-- A value Python can hold, with containers no deeper in one another: the keys of each
    object differ. -/
def Held : Nat → Json → Prop
  | _, .int n => n.natAbs < 10 ^ maxDigits
  | _, .float x => FloatReads floats floatOf x
  | 0, .arr _ | 0, .obj _ => False
  | depth + 1, .arr items => HeldItems depth items
  | depth + 1, .obj fields => (fields.map Prod.fst).Nodup ∧ HeldFields depth fields
  | _, _ => True

def HeldItems : Nat → List Json → Prop
  | _, [] => True
  | depth, item :: rest => Held depth item ∧ HeldItems depth rest

def HeldFields : Nat → List (String × Json) → Prop
  | _, [] => True
  | depth, (_, value) :: rest => Held depth value ∧ HeldFields depth rest

end

variable {floats : FloatRepr} {floatOf : List Char → PyFloat} {style : DumpStyle}

theorem heldItems_iff {depth : Nat} {items : List Json} :
    HeldItems floats floatOf depth items ↔ ∀ item ∈ items, Held floats floatOf depth item := by
  induction items with
  | nil => simp [HeldItems]
  | cons item rest ih => simp [HeldItems, ih]

theorem skipBlanks_front {c : Char} {text : List Char} (front : isBlank c = false) : skipBlanks (c :: text) = c :: text := by
  simp [skipBlanks, front]

theorem skipBlanks_gap (text : List Char) : skipBlanks (style.gap ++ text) = skipBlanks text := by
  unfold DumpStyle.gap
  split
  · rfl
  · rfl

/-- What a value's text begins with. -/
def Front (text : List Char) : Prop := ∃ c more, text = c :: more ∧ isBlank c = false ∧ c ≠ ']'

theorem Front.skipBlanks {text rest : List Char} (front : Front text) : skipBlanks (text ++ rest) = text ++ rest := by
  obtain ⟨c, more, rfl, solid, -⟩ := front
  exact skipBlanks_front solid

theorem front_number {text : List Char} (starts : ∃ c more, text = c :: more ∧ startsNumber c = true) : Front text := by
  obtain ⟨c, more, rfl, starts⟩ := starts
  refine ⟨c, more, rfl, ?_, ?_⟩
  · simp only [isBlank, Bool.or_eq_false_iff, beq_eq_false_iff_ne]
    refine ⟨⟨⟨?_, ?_⟩, ?_⟩, ?_⟩ <;> rintro rfl <;> cases starts
  · rintro rfl
    cases starts

theorem dumpsInt_starts (n : Int) : ∃ c more, dumpsInt n = c :: more ∧ startsNumber c = true := by
  unfold dumpsInt
  split
  · exact ⟨_, _, rfl, rfl⟩
  · cases digits : Nat.toDigits 10 n.natAbs with
    | nil => exact absurd digits Nat.toDigits_ne_nil
    | cons c more =>
        have digit : c.isDigit = true := Nat.isDigit_of_mem_toDigits (n := n.natAbs) (by decide) (by decide)
          (digits ▸ List.mem_cons_self)
        exact ⟨c, more, rfl, by simp [startsNumber, digit]⟩

theorem dumpsIn_front {depth : Nat} {value : Json} (held : Held floats floatOf depth value) :
    Front (dumpsIn floats style value) := by
  cases value with
  | null => rw [dumpsIn]; exact ⟨_, _, rfl, by decide, by decide⟩
  | bool b => cases b <;> rw [dumpsIn] <;> exact ⟨_, _, rfl, by decide, by decide⟩
  | int n => rw [dumpsIn]; exact front_number (dumpsInt_starts n)
  | float x =>
      rw [dumpsIn]
      rw [Held] at held
      exact front_number held.starts
  | str s => rw [dumpsIn]; exact ⟨_, _, rfl, by decide, by decide⟩
  | arr items => cases items <;> rw [dumpsIn] <;> exact ⟨_, _, rfl, by decide, by decide⟩
  | obj fields => rcases fields with - | ⟨⟨key, value⟩, rest⟩ <;> rw [dumpsIn] <;> exact ⟨_, _, rfl, by decide, by decide⟩

theorem closes_items {items : List Json} {rest : List Char} : Closes (dumpsItemsIn floats style items ++ rest) := by
  cases items <;> rw [dumpsItemsIn] <;> rintro c first <;> cases first <;> simp

theorem closes_fields {fields : Dict} {rest : List Char} : Closes (dumpsFieldsIn floats style fields ++ rest) := by
  rcases fields with - | ⟨⟨key, value⟩, more⟩ <;> rw [dumpsFieldsIn] <;> rintro c first <;> cases first <;> simp

/-- The text of the value is read as the value, whatever stands after it. -/
def ReadsBack (floats : FloatRepr) (floatOf : List Char → PyFloat) (style : DumpStyle) (value : Json) : Prop :=
  ∀ fuel depth rest, Held floats floatOf depth value → Closes rest → (dumpsIn floats style value).length ≤ fuel →
    readValue floatOf fuel depth (dumpsIn floats style value ++ rest) = .ok (value, rest)

theorem readItems_dumps {item : Json} {items : List Json} (reads : ∀ other ∈ item :: items, ReadsBack floats floatOf style other)
    {fuel depth : Nat} {rest : List Char} (held : HeldItems floats floatOf depth (item :: items))
    (enough : (dumpsIn floats style item ++ dumpsItemsIn floats style items).length ≤ fuel) :
    readItems floatOf fuel depth (dumpsIn floats style item ++ (dumpsItemsIn floats style items ++ rest)) =
      .ok (item :: items, rest) := by
  induction items generalizing item fuel with
  | nil =>
      rw [dumpsItemsIn, List.length_append, List.length_singleton] at enough
      obtain ⟨steps, rfl⟩ : ∃ steps, fuel = steps + 1 := Nat.exists_eq_add_one.mpr (by omega)
      rw [HeldItems] at held
      rw [readItems, reads item List.mem_cons_self steps depth _ held.1 closes_items (by omega)]
      rfl
  | cons next items ih =>
      rw [HeldItems] at held
      have longer : (dumpsItemsIn floats style (next :: items)).length =
          1 + style.gap.length + (dumpsIn floats style next ++ dumpsItemsIn floats style items).length := by
        rw [dumpsItemsIn, DumpStyle.separator, List.cons_append, List.length_cons, List.length_append]
        omega
      rw [List.length_append, longer] at enough
      obtain ⟨steps, rfl⟩ : ∃ steps, fuel = steps + 1 := Nat.exists_eq_add_one.mpr (by omega)
      have here := reads item List.mem_cons_self steps depth (dumpsItemsIn floats style (next :: items) ++ rest) held.1
        closes_items (by omega)
      have later := ih (fun other member => reads other (List.mem_cons_of_mem _ member)) held.2 (by omega : _ ≤ steps)
      have front : Front (dumpsIn floats style next) := by
        rw [HeldItems] at held
        exact dumpsIn_front held.2.1
      have text : dumpsItemsIn floats style (next :: items) ++ rest =
          ',' :: (style.gap ++ (dumpsIn floats style next ++ (dumpsItemsIn floats style items ++ rest))) := by
        rw [dumpsItemsIn, DumpStyle.separator]
        simp only [List.cons_append, List.append_assoc]
      rw [readItems, here, text]
      simp only [bind, Except.bind, skipBlanks_front (show isBlank ',' = false by decide), skipBlanks_gap, front.skipBlanks,
        later]

/-- One key of an object with its value. -/
def dumpsPair (floats : FloatRepr) (style : DumpStyle) (key : String) (value : Json) : List Char :=
  style.dumpsString key ++ (style.separator ':' ++ dumpsIn floats style value)

theorem dumpsFieldsIn_cons {key : String} {value : Json} {fields : Dict} {rest : List Char} :
    dumpsFieldsIn floats style ((key, value) :: fields) ++ rest =
      ',' :: (style.gap ++ (dumpsPair floats style key value ++ (dumpsFieldsIn floats style fields ++ rest))) := by
  rw [dumpsFieldsIn, DumpStyle.separator, dumpsPair]
  simp only [List.cons_append, List.append_assoc]

theorem front_pair {key : String} {value : Json} : Front (dumpsPair floats style key value) :=
  ⟨_, _, rfl, by decide, by decide⟩

/-- How `readPairs` goes on once it has the value of a key. -/
def readPairsAfter (floatOf : List Char → PyFloat) (fuel depth : Nat) (key : String) :
    Json × List Char → Except ReadError (List (String × Json) × List Char)
  | (value, rest) =>
      match skipBlanks rest with
      | '\x7d' :: rest => .ok ([(key, value)], rest)
      | ',' :: rest => do
          let (pairs, rest) ← readPairs floatOf fuel depth (skipBlanks rest)
          .ok ((key, value) :: pairs, rest)
      | _ => .error .decode

/-- Reading a key goes on to its value. -/
theorem readPairs_key {key : String} {value : Json} {depth steps : Nat} {rest : List Char}
    (held : Held floats floatOf depth value) :
    readPairs floatOf (steps + 1) depth (dumpsPair floats style key value ++ rest) =
      (readValue floatOf steps depth (dumpsIn floats style value ++ rest)).bind
        (readPairsAfter floatOf steps depth key) := by
  have text : dumpsPair floats style key value ++ rest =
      '"' :: (key.toList.flatMap style.escape ++ '"' :: (':' :: (style.gap ++ (dumpsIn floats style value ++ rest)))) := by
    rw [dumpsPair, DumpStyle.dumpsString, DumpStyle.separator]
    simp only [List.cons_append, List.append_assoc, List.nil_append]
  have front : Front (dumpsIn floats style value) := dumpsIn_front held
  rw [text, readPairs]
  simp only [readString_dumps, skipBlanks_front (show isBlank ':' = false by decide), skipBlanks_gap, front.skipBlanks,
    bind, Except.bind]
  rfl

theorem readPairs_dumps {key : String} {value : Json} {fields : Dict}
    (reads : ∀ entry ∈ (key, value) :: fields, ReadsBack floats floatOf style entry.2)
    {fuel depth : Nat} {rest : List Char} (held : HeldFields floats floatOf depth ((key, value) :: fields))
    (enough : (dumpsPair floats style key value ++ dumpsFieldsIn floats style fields).length ≤ fuel) :
    readPairs floatOf fuel depth (dumpsPair floats style key value ++ (dumpsFieldsIn floats style fields ++ rest)) =
      .ok ((key, value) :: fields, rest) := by
  have shorter : (dumpsIn floats style value).length < (dumpsPair floats style key value).length := by
    simp only [dumpsPair, DumpStyle.dumpsString, DumpStyle.separator, List.length_append, List.length_cons]
    omega
  induction fields generalizing key value fuel with
  | nil =>
      rw [dumpsFieldsIn, List.length_append, List.length_singleton] at enough
      obtain ⟨steps, rfl⟩ : ∃ steps, fuel = steps + 1 := Nat.exists_eq_add_one.mpr (by omega)
      rw [HeldFields] at held
      rw [readPairs_key held.1, reads _ List.mem_cons_self steps depth _ held.1 closes_fields (by dsimp only; omega)]
      rfl
  | cons next fields ih =>
      obtain ⟨name, field⟩ := next
      rw [HeldFields] at held
      have longer := congrArg List.length (@dumpsFieldsIn_cons floats style name field fields [])
      simp only [List.append_nil, List.length_cons, List.length_append] at longer
      simp only [List.length_append, longer] at enough
      obtain ⟨steps, rfl⟩ : ∃ steps, fuel = steps + 1 := Nat.exists_eq_add_one.mpr (by omega)
      have here := reads _ List.mem_cons_self steps depth (dumpsFieldsIn floats style ((name, field) :: fields) ++ rest)
        held.1 closes_fields (by dsimp only; omega)
      have later := ih (fun entry member => reads entry (List.mem_cons_of_mem _ member)) held.2
        (by rw [List.length_append]; omega : _ ≤ steps) (by
          simp only [dumpsPair, DumpStyle.dumpsString, DumpStyle.separator, List.length_append, List.length_cons]
          omega)
      rw [readPairs_key held.1, here, dumpsFieldsIn_cons]
      simp only [Except.bind, readPairsAfter, bind, skipBlanks_front (show isBlank ',' = false by decide), skipBlanks_gap,
        front_pair.skipBlanks, later]

theorem set_fresh {fields : Dict} {key : String} {value : Json} (fresh : key ∉ fields.map Prod.fst) :
    Dict.set key value fields = fields ++ [(key, value)] := by
  induction fields with
  | nil => rfl
  | cons entry rest ih =>
      simp only [List.map_cons, List.mem_cons, not_or] at fresh
      simp [Dict.set, Ne.symm fresh.1, ih fresh.2]

theorem update_distinct {fields more : Dict} (distinct : ((fields ++ more).map Prod.fst).Nodup) :
    fields.update more = fields ++ more := by
  induction more generalizing fields with
  | nil => rw [List.append_nil]; rfl
  | cons entry rest ih =>
      have fresh : entry.1 ∉ fields.map Prod.fst := by
        intro member
        rw [List.map_append, List.nodup_append] at distinct
        exact distinct.2.2 entry.1 member entry.1 (by simp) rfl
      rw [List.append_cons] at distinct ⊢
      rw [← ih distinct, ← set_fresh fresh]
      rfl

theorem ofPairs_distinct {fields : Dict} (distinct : (fields.map Prod.fst).Nodup) : ofPairs fields = fields :=
  update_distinct distinct

theorem readsBack_arr {items : List Json} (reads : ∀ item ∈ items, ReadsBack floats floatOf style item) :
    ReadsBack floats floatOf style (.arr items) := by
  intro fuel depth rest held closes enough
  cases depth with
  | zero => simp [Held] at held
  | succ depth =>
      rw [Held] at held
      cases items with
      | nil =>
          rw [dumpsIn] at enough ⊢
          obtain ⟨steps, rfl⟩ : ∃ steps, fuel = steps + 1 := Nat.exists_eq_add_one.mpr (by simp at enough; omega)
          rfl
      | cons item items =>
          rw [dumpsIn, List.length_cons] at enough
          rw [dumpsIn, List.cons_append, List.append_assoc]
          obtain ⟨steps, rfl⟩ : ∃ steps, fuel = steps + 1 := Nat.exists_eq_add_one.mpr (by omega)
          have front : Front (dumpsIn floats style item) := by
            rw [HeldItems] at held
            exact dumpsIn_front held.1
          have read := @readItems_dumps floats floatOf style item items reads steps depth rest held (by omega)
          rw [readValue]
          simp only [front.skipBlanks]
          split
          · rename_i closing
            obtain ⟨c, more, begins, -, other⟩ := front
            rw [begins] at closing
            exact absurd (List.cons.inj closing).1 other
          · rw [read]
            rfl

theorem readsBack_obj {fields : Dict} (reads : ∀ entry ∈ fields, ReadsBack floats floatOf style entry.2) :
    ReadsBack floats floatOf style (.obj fields) := by
  intro fuel depth rest held closes enough
  cases depth with
  | zero => simp [Held] at held
  | succ depth =>
      rw [Held] at held
      obtain ⟨distinct, held⟩ := held
      rcases fields with - | ⟨⟨key, value⟩, fields⟩
      · rw [dumpsIn] at enough ⊢
        obtain ⟨steps, rfl⟩ : ∃ steps, fuel = steps + 1 := Nat.exists_eq_add_one.mpr (by simp at enough; omega)
        rfl
      · have text : dumpsIn floats style (.obj ((key, value) :: fields)) ++ rest =
            '\x7b' :: (dumpsPair floats style key value ++ (dumpsFieldsIn floats style fields ++ rest)) := by
          rw [dumpsIn, dumpsPair]
          simp only [List.cons_append, List.append_assoc]
        have length := congrArg List.length text
        simp only [List.length_append, List.length_cons] at length
        obtain ⟨steps, rfl⟩ : ∃ steps, fuel = steps + 1 := Nat.exists_eq_add_one.mpr (by omega)
        have read := @readPairs_dumps floats floatOf style key value fields reads steps depth rest held
          (by rw [List.length_append]; omega)
        rw [text, readValue]
        simp only [front_pair.skipBlanks]
        split
        · rename_i closing
          cases closing
        · rw [read]
          exact congrArg (fun pairs => Except.ok (Json.obj pairs, rest)) (ofPairs_distinct distinct)

theorem readValue_number {fuel depth : Nat} {text : List Char}
    (starts : ∃ c more, text = c :: more ∧ startsNumber c = true) :
    readValue floatOf (fuel + 1) depth text = readNumber floatOf text := by
  obtain ⟨c, more, rfl, starts⟩ := starts
  rw [readValue] <;> intro rest same <;> obtain rfl := (List.cons.inj same).1 <;> exact absurd starts (by decide)

theorem readsBack_scalar {value : Json} {text : List Char} (dumped : dumpsIn floats style value = text)
    (present : text ≠ [])
    (reads : ∀ steps depth rest, Held floats floatOf depth value → Closes rest →
      readValue floatOf (steps + 1) depth (text ++ rest) = .ok (value, rest)) : ReadsBack floats floatOf style value := by
  intro fuel depth rest held closes enough
  rw [dumped] at enough ⊢
  have some := List.length_pos_iff.mpr present
  obtain ⟨steps, rfl⟩ : ∃ steps, fuel = steps + 1 := Nat.exists_eq_add_one.mpr (by omega)
  exact reads steps depth rest held closes

theorem readsBack_int (n : Int) : ReadsBack floats floatOf style (.int n) := by
  obtain ⟨c, more, front, starts⟩ := dumpsInt_starts n
  refine readsBack_scalar (by rw [dumpsIn]) (by simp [front]) fun steps depth rest held closes => ?_
  rw [Held] at held
  rw [readValue_number ⟨c, more ++ rest, by rw [front]; rfl, starts⟩, readNumber_dumpsInt closes held]

theorem readsBack_float (x : PyFloat) : ReadsBack floats floatOf style (.float x) := by
  intro fuel depth rest held closes enough
  rw [Held] at held
  obtain ⟨c, more, front, starts⟩ := held.starts
  rw [dumpsIn] at enough ⊢
  obtain ⟨steps, rfl⟩ : ∃ steps, fuel = steps + 1 := Nat.exists_eq_add_one.mpr (by simp [front] at enough; omega)
  rw [readValue_number ⟨c, more ++ rest, by rw [front]; rfl, starts⟩, held.reads rest closes]

theorem readsBack_str (s : String) : ReadsBack floats floatOf style (.str s) := by
  refine readsBack_scalar (by rw [dumpsIn]) (by simp [DumpStyle.dumpsString]) fun steps depth rest held closes => ?_
  have text : style.dumpsString s ++ rest = '"' :: (s.toList.flatMap style.escape ++ '"' :: rest) := by
    rw [DumpStyle.dumpsString]
    simp only [List.cons_append, List.append_assoc, List.nil_append]
  rw [text, readValue, readString_dumps]
  rfl

mutual

theorem readsBack : ∀ value : Json, ReadsBack floats floatOf style value
  | .null => readsBack_scalar (by rw [dumpsIn]) (by decide) fun _ _ _ _ _ => rfl
  | .bool true => readsBack_scalar (by rw [dumpsIn]) (by decide) fun _ _ _ _ _ => rfl
  | .bool false => readsBack_scalar (by rw [dumpsIn]) (by decide) fun _ _ _ _ _ => rfl
  | .int n => readsBack_int n
  | .float x => readsBack_float x
  | .str s => readsBack_str s
  | .arr items => readsBack_arr (readsBackItems items)
  | .obj fields => readsBack_obj (readsBackFields fields)

theorem readsBackItems : ∀ items : List Json, ∀ item ∈ items, ReadsBack floats floatOf style item
  | [] => List.forall_mem_nil _
  | first :: rest => List.forall_mem_cons.mpr ⟨readsBack first, readsBackItems rest⟩

theorem readsBackFields : ∀ fields : Dict, ∀ entry ∈ fields, ReadsBack floats floatOf style entry.2
  | [] => List.forall_mem_nil _
  | (_, value) :: rest => List.forall_mem_cons.mpr ⟨readsBack value, readsBackFields rest⟩

end

/-- `json.loads` inverts `json.dumps` on what Python can hold, whatever the style. -/
theorem loads_dumpsIn {depth : Nat} {value : Json} (held : Held floats floatOf depth value) :
    loads floatOf depth (dumpsIn floats style value) = .ok value := by
  have front := @Front.skipBlanks _ [] (@dumpsIn_front floats floatOf style depth value held)
  have read := @readsBack floats floatOf style value (2 * (dumpsIn floats style value).length + 1) depth [] held (by simp [Closes]) (by omega)
  rw [List.append_nil] at front read
  rw [loads, front]
  simp only [read, bind, Except.bind]
  rfl

end Values

end LanguageAgent.Json
