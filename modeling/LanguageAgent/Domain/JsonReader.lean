import LanguageAgent.Domain.JsonText

/-! # Reading JSON

`json.loads` of a text. A container may stand in so many others, and a number have so many
digits, before Python refuses.
-/

namespace LanguageAgent.Json

/-- Why a text has no value. -/
inductive ReadError where
  /-- `json.JSONDecodeError` -/
  | decode
  /-- The `ValueError` of an integer with too many digits. -/
  | digits
  /-- `RecursionError` -/
  | recursion
  /-- `NaN`, the infinities and lone surrogates, which Python reads and `Json` does not have. -/
  | notHeld
  deriving DecidableEq

def isBlank (c : Char) : Bool := c == ' ' || c == '\t' || c == '\n' || c == '\r'

def skipBlanks (text : List Char) : List Char := text.dropWhile isBlank

/-! ## Strings -/

def hexValue (c : Char) : Option Nat :=
  if '0' ≤ c ∧ c ≤ '9' then some (c.toNat - 48)
  else if 'a' ≤ c ∧ c ≤ 'f' then some (c.toNat - 87)
  else if 'A' ≤ c ∧ c ≤ 'F' then some (c.toNat - 55)
  else none

/-- The number behind `\u`. -/
def hexNumber (a b c d : Char) : Option Nat := do
  let a ← hexValue a
  let b ← hexValue b
  let c ← hexValue c
  let d ← hexValue d
  some (a * 4096 + b * 256 + c * 16 + d)

/-- The character behind a backslash, other than `u`. -/
def unescape (c : Char) : Option Char :=
  if c = '"' then some '"'
  else if c = '\\' then some '\\'
  else if c = '/' then some '/'
  else if c = 'b' then some '\x08'
  else if c = 'f' then some '\x0C'
  else if c = 'n' then some '\n'
  else if c = 'r' then some '\r'
  else if c = 't' then some '\t'
  else none

/-- What stands in a string: a character, or the number of an escape. -/
inductive StringItem where
  | char (c : Char)
  | code (n : Nat)

/-- The rest of a string up to its closing quote. -/
def stringItems : List Char → Except ReadError (List StringItem × List Char)
  | [] => .error .decode
  | c :: rest =>
      if c = '"' then .ok ([], rest)
      else if c = '\\' then
        match rest with
        | 'u' :: a :: b :: c :: d :: rest => do
            let n ← (hexNumber a b c d).elim (.error .decode) .ok
            let (items, rest) ← stringItems rest
            .ok (.code n :: items, rest)
        | c :: rest => do
            let c ← (unescape c).elim (.error .decode) .ok
            let (items, rest) ← stringItems rest
            .ok (.char c :: items, rest)
        | [] => .error .decode
      else if c.toNat < 0x20 then .error .decode
      else do
        let (items, rest) ← stringItems rest
        .ok (.char c :: items, rest)
termination_by structural text => text

def isHighSurrogate (n : Nat) : Bool := 0xD800 ≤ n && n ≤ 0xDBFF

def isLowSurrogate (n : Nat) : Bool := 0xDC00 ≤ n && n ≤ 0xDFFF

/-- The text of the items, in which two surrogates are one character. -/
def joinItems : List StringItem → Except ReadError (List Char)
  | [] => .ok []
  | .char c :: rest => (joinItems rest).map (c :: ·)
  | .code high :: .code low :: rest =>
      if isHighSurrogate high && isLowSurrogate low then
        (joinItems rest).map (Char.ofNat (0x10000 + (high - 0xD800) * 1024 + (low - 0xDC00)) :: ·)
      else if isHighSurrogate high || isLowSurrogate high then .error .notHeld
      else (joinItems (.code low :: rest)).map (Char.ofNat high :: ·)
  | .code n :: rest =>
      if isHighSurrogate n || isLowSurrogate n then .error .notHeld
      else (joinItems rest).map (Char.ofNat n :: ·)

/-- A string, once its opening quote is read. -/
def readString (text : List Char) : Except ReadError (String × List Char) := do
  let (items, rest) ← stringItems text
  let text ← joinItems items
  .ok (String.ofList text, rest)

/-! ## Numbers -/

section Numbers

-- what `float` makes of a text
variable (floatOf : List Char → PyFloat)

def maxDigits : Nat := 4300

def readSign : List Char → List Char × List Char
  | '-' :: rest => (['-'], rest)
  | text => ([], text)

def readWhole : List Char → List Char × List Char
  | '0' :: rest => (['0'], rest)
  | text => (text.takeWhile Char.isDigit, text.dropWhile Char.isDigit)

def readFraction : List Char → List Char × List Char
  | '.' :: rest =>
      if rest.takeWhile Char.isDigit = [] then ([], '.' :: rest)
      else ('.' :: rest.takeWhile Char.isDigit, rest.dropWhile Char.isDigit)
  | text => ([], text)

/-- The digits of an exponent behind its letter and its sign. -/
def exponentDigits (start text : List Char) : Option (List Char × List Char) :=
  if text.takeWhile Char.isDigit = [] then none
  else some (start ++ text.takeWhile Char.isDigit, text.dropWhile Char.isDigit)

def readExponent (text : List Char) : List Char × List Char :=
  match text with
  | c :: sign :: rest =>
      if c = 'e' ∨ c = 'E' then
        if sign = '+' ∨ sign = '-' then (exponentDigits [c, sign] rest).getD ([], text)
        else (exponentDigits [c] (sign :: rest)).getD ([], text)
      else ([], text)
  | _ => ([], text)

/-- The integer of a sign and some digits. -/
def intOfDigits (sign whole : List Char) : Int :=
  let value : Nat := Nat.ofDigitChars 10 whole 0
  if sign = [] then value else -(value : Int)

/-- `parse_constant` -/
def readConstant (text : List Char) : Except ReadError (Json × List Char) :=
  if "NaN".toList.isPrefixOf text then .ok (.float .nan, text.drop 3)
  else if "Infinity".toList.isPrefixOf text then .ok (.float (.inf false), text.drop 8)
  else if "-Infinity".toList.isPrefixOf text then .ok (.float (.inf true), text.drop 9)
  else .error .decode

def readNumber (text : List Char) : Except ReadError (Json × List Char) :=
  let (sign, rest) := readSign text
  let (whole, rest) := readWhole rest
  if whole = [] then readConstant text
  else
    let (fraction, rest) := readFraction rest
    let (exponent, rest) := readExponent rest
    if fraction = [] ∧ exponent = [] then
      if maxDigits < whole.length then .error .digits else .ok (.int (intOfDigits sign whole), rest)
    else .ok (.float (floatOf (sign ++ whole ++ fraction ++ exponent)), rest)

/-! ## Values -/

/-- `dict(pairs)` -/
def ofPairs (pairs : List (String × Json)) : Dict := Dict.update [] pairs

mutual

/-- A value that may hold containers so deep in one another. -/
def readValue : (fuel depth : Nat) → List Char → Except ReadError (Json × List Char)
  | 0, _, _ => .error .decode
  | fuel + 1, depth, text =>
      match text with
      | '"' :: rest => (readString rest).map fun (s, rest) => (.str s, rest)
      | 'n' :: 'u' :: 'l' :: 'l' :: rest => .ok (.null, rest)
      | 't' :: 'r' :: 'u' :: 'e' :: rest => .ok (.bool true, rest)
      | 'f' :: 'a' :: 'l' :: 's' :: 'e' :: rest => .ok (.bool false, rest)
      | '[' :: rest =>
          match depth with
          | 0 => .error .recursion
          | depth + 1 =>
              match skipBlanks rest with
              | ']' :: rest => .ok (.arr [], rest)
              | rest => (readItems fuel depth rest).map fun (items, rest) => (.arr items, rest)
      | '\x7b' :: rest =>
          match depth with
          | 0 => .error .recursion
          | depth + 1 =>
              match skipBlanks rest with
              | '\x7d' :: rest => .ok (.obj [], rest)
              | rest => (readPairs fuel depth rest).map fun (pairs, rest) => (.obj (ofPairs pairs), rest)
      | text => readNumber floatOf text

/-- The items of an array from one of them on. -/
def readItems : (fuel depth : Nat) → List Char → Except ReadError (List Json × List Char)
  | 0, _, _ => .error .decode
  | fuel + 1, depth, text => do
      let (item, rest) ← readValue fuel depth text
      match skipBlanks rest with
      | ']' :: rest => .ok ([item], rest)
      | ',' :: rest => do
          let (items, rest) ← readItems fuel depth (skipBlanks rest)
          .ok (item :: items, rest)
      | _ => .error .decode

/-- The keys of an object and their values from one of them on. -/
def readPairs : (fuel depth : Nat) → List Char → Except ReadError (List (String × Json) × List Char)
  | 0, _, _ => .error .decode
  | fuel + 1, depth, text =>
      match text with
      | '"' :: rest => do
          let (key, rest) ← readString rest
          match skipBlanks rest with
          | ':' :: rest => do
              let (value, rest) ← readValue fuel depth (skipBlanks rest)
              match skipBlanks rest with
              | '\x7d' :: rest => .ok ([(key, value)], rest)
              | ',' :: rest => do
                  let (pairs, rest) ← readPairs fuel depth (skipBlanks rest)
                  .ok ((key, value) :: pairs, rest)
              | _ => .error .decode
          | _ => .error .decode
      | _ => .error .decode

end

/-- `json.loads`. -/
def loads (depth : Nat) (text : List Char) : Except ReadError Json := do
  let text := skipBlanks text
  let (value, rest) ← readValue floatOf (2 * text.length + 1) depth text
  if skipBlanks rest = [] then .ok value else .error .decode

end Numbers

/-! ## Enough fuel -/

section Fuel

variable {α β : Type} {floatOf : List Char → PyFloat} {text rest : List Char} {fuel depth : Nat}

/-- What is read is no longer there. -/
def Consumes (text : List Char) (read : Except ReadError (α × List Char)) : Prop :=
  ∀ value rest, read = .ok (value, rest) → rest.length < text.length

theorem consumes_error {raised : ReadError} : Consumes text (.error raised : Except ReadError (α × List Char)) := by
  rintro value rest ⟨⟩

theorem consumes_ok {value : α} (shorter : rest.length < text.length) : Consumes text (.ok (value, rest)) := by
  rintro value rest ⟨⟩
  exact shorter

theorem Consumes.mono {read : Except ReadError (α × List Char)} (consumes : Consumes rest read)
    (shorter : rest.length ≤ text.length) : Consumes text read :=
  fun value rest same => (consumes value rest same).trans_le shorter

theorem Consumes.bind {read : Except ReadError (α × List Char)} {next : α × List Char → Except ReadError (β × List Char)}
    (consumes : Consumes text read) (follows : ∀ value rest, rest.length < text.length → Consumes text (next (value, rest))) :
    Consumes text (read >>= next) := by
  cases read with
  | error raised => exact consumes_error
  | ok result => exact follows result.1 result.2 (consumes _ _ rfl)

theorem Consumes.map {read : Except ReadError (α × List Char)} {f : α → β} (consumes : Consumes text read) :
    Consumes text (read.map fun (value, rest) => (f value, rest)) := by
  cases read with
  | error raised => exact consumes_error
  | ok result => exact consumes_ok (consumes _ _ rfl)

theorem skipBlanks_length (text : List Char) : (skipBlanks text).length ≤ text.length :=
  (List.dropWhile_suffix _).length_le

theorem stringItems_consumes (text : List Char) : Consumes text (stringItems text) := by
  fun_induction stringItems text with
  | case1 => exact consumes_error
  | case2 => exact consumes_ok (by simp)
  | case3 a b c d rest other ih =>
      cases hexNumber a b c d with
      | none => exact consumes_error
      | some n => exact (ih.mono (by simp; omega)).bind fun items rest shorter => consumes_ok shorter
  | case4 c rest plain other ih =>
      cases unescape c with
      | none => exact consumes_error
      | some c => exact (ih.mono (by simp; omega)).bind fun items rest shorter => consumes_ok shorter
  | case5 => exact consumes_error
  | case6 => exact consumes_error
  | case7 c rest quote backslash high ih =>
      exact (ih.mono (by simp)).bind fun items rest shorter => consumes_ok shorter

theorem readString_consumes (text : List Char) : Consumes text (readString text) := by
  refine (stringItems_consumes text).bind fun items rest shorter => ?_
  change Consumes text (joinItems items >>= fun text => .ok (String.ofList text, rest))
  cases joinItems items with
  | error raised => exact consumes_error
  | ok text => exact consumes_ok shorter

theorem readSign_length (text : List Char) : (readSign text).2.length ≤ text.length := by
  fun_cases readSign text <;> simp

theorem readWhole_length (text : List Char) : (readWhole text).1.length + (readWhole text).2.length = text.length := by
  fun_cases readWhole text with
  | case1 rest => simp; omega
  | case2 => rw [← List.length_append, List.takeWhile_append_dropWhile]

theorem readFraction_length (text : List Char) : (readFraction text).2.length ≤ text.length := by
  fun_cases readFraction text with
  | case1 => simp
  | case2 rest =>
      have suffix := (List.dropWhile_suffix (l := rest) Char.isDigit).length_le
      simp only [List.length_cons]
      omega
  | case3 => simp

theorem exponentDigits_length {start : List Char} {read : List Char × List Char}
    (found : exponentDigits start text = some read) : read.2.length ≤ text.length := by
  unfold exponentDigits at found
  split at found
  · cases found
  · obtain rfl := Option.some.inj found
    exact (List.dropWhile_suffix _).length_le

theorem readExponent_length (text : List Char) : (readExponent text).2.length ≤ text.length := by
  have digits : ∀ start rest, rest.length ≤ text.length →
      ((exponentDigits start rest).getD ([], text)).2.length ≤ text.length := by
    intro start rest shorter
    cases found : exponentDigits start rest with
    | none => simp
    | some read => exact (exponentDigits_length found).trans shorter
  fun_cases readExponent text with
  | case1 => exact digits _ _ (by simp; omega)
  | case2 => exact digits _ _ (by simp)
  | case3 => simp
  | case4 => simp

theorem readConstant_consumes (text : List Char) : Consumes text (readConstant text) := by
  have shorter : ∀ (word : List Char) (value : Json), 0 < word.length → word.isPrefixOf text = true →
      Consumes text (.ok (value, text.drop word.length)) := by
    intro word value some found
    have long := (List.isPrefixOf_iff_prefix.mp found).length_le
    exact consumes_ok (by rw [List.length_drop]; omega)
  unfold readConstant
  split_ifs with nan infinity negative
  · exact shorter _ _ (by decide) nan
  · exact shorter _ _ (by decide) infinity
  · exact shorter _ _ (by decide) negative
  · exact consumes_error

theorem readNumber_consumes (text : List Char) : Consumes text (readNumber floatOf text) := by
  have sign := readSign_length text
  have whole := readWhole_length (readSign text).2
  have fraction := readFraction_length (readWhole (readSign text).2).2
  have exponent := readExponent_length (readFraction (readWhole (readSign text).2).2).2
  unfold readNumber
  dsimp only
  split_ifs with missing
  · exact readConstant_consumes text
  · exact consumes_error
  · have some := List.length_pos_iff.mpr missing
    exact consumes_ok (by omega)
  · have some := List.length_pos_iff.mpr missing
    exact consumes_ok (by omega)

theorem reads_consume (fuel : Nat) : ∀ depth text, Consumes text (readValue floatOf fuel depth text) ∧
    Consumes text (readItems floatOf fuel depth text) ∧ Consumes text (readPairs floatOf fuel depth text) := by
  induction fuel with
  | zero => exact fun depth text => ⟨consumes_error, consumes_error, consumes_error⟩
  | succ fuel ih =>
      intro depth text
      have value := fun depth text => (ih depth text).1
      have items := fun depth text => (ih depth text).2.1
      have pairs := fun depth text => (ih depth text).2.2
      refine ⟨?_, ?_, ?_⟩
      · rw [readValue.eq_def]
        dsimp only
        split
        · exact ((readString_consumes _).mono (by simp)).map
        · exact consumes_ok (by simp; omega)
        · exact consumes_ok (by simp; omega)
        · exact consumes_ok (by simp; omega)
        · rename_i rest
          have blanks := skipBlanks_length rest
          split
          · exact consumes_error
          · split
            · rename_i closed
              rw [closed, List.length_cons] at blanks
              exact consumes_ok (by simp; omega)
            · exact ((items _ _).mono (by simp; omega)).map
        · rename_i rest
          have blanks := skipBlanks_length rest
          split
          · exact consumes_error
          · split
            · rename_i closed
              rw [closed, List.length_cons] at blanks
              exact consumes_ok (by simp; omega)
            · exact @Consumes.map _ _ _ _ (fun pairs => Json.obj (ofPairs pairs)) ((pairs _ _).mono (by simp; omega))
        · exact readNumber_consumes _
      · rw [readItems]
        refine (value depth text).bind fun item rest shorter => ?_
        have blanks := skipBlanks_length rest
        dsimp only
        split
        · rename_i closed
          rw [closed, List.length_cons] at blanks
          exact consumes_ok (by omega)
        · rename_i more comma
          have again := skipBlanks_length more
          rw [comma, List.length_cons] at blanks
          exact ((items depth (skipBlanks more)).mono (by omega)).bind fun later rest shorter => consumes_ok shorter
        · exact consumes_error
      · rw [readPairs.eq_def]
        dsimp only
        split
        · rename_i start
          refine ((readString_consumes start).mono (by simp)).bind fun key rest shorter => ?_
          have blanks := skipBlanks_length rest
          dsimp only
          split
          · rename_i more colon
            have again := skipBlanks_length more
            rw [colon, List.length_cons] at blanks
            refine ((value depth (skipBlanks more)).mono (by omega)).bind fun field rest shorter => ?_
            have blanks := skipBlanks_length rest
            dsimp only
            split
            · rename_i closed
              rw [closed, List.length_cons] at blanks
              exact consumes_ok (by omega)
            · rename_i more comma
              have again := skipBlanks_length more
              rw [comma, List.length_cons] at blanks
              exact ((pairs depth (skipBlanks more)).mono (by omega)).bind fun later rest shorter => consumes_ok shorter
            · exact consumes_error
          · exact consumes_error
        · exact consumes_error

theorem reads_enough (fuel : Nat) : ∀ depth text,
    (2 * text.length + 1 ≤ fuel → readValue floatOf (fuel + 1) depth text = readValue floatOf fuel depth text) ∧
      (2 * text.length + 2 ≤ fuel → readItems floatOf (fuel + 1) depth text = readItems floatOf fuel depth text) ∧
      (2 * text.length + 2 ≤ fuel → readPairs floatOf (fuel + 1) depth text = readPairs floatOf fuel depth text) := by
  induction fuel with
  | zero => exact fun depth text => ⟨by omega, by omega, by omega⟩
  | succ fuel ih =>
      intro depth text
      have value := fun depth text => (ih depth text).1
      have items := fun depth text => (ih depth text).2.1
      have pairs := fun depth text => (ih depth text).2.2
      refine ⟨fun enough => ?_, fun enough => ?_, fun enough => ?_⟩
      · rw [readValue.eq_def floatOf (fuel + 1 + 1), readValue.eq_def floatOf (fuel + 1)]
        dsimp only
        split
        · rfl
        · rfl
        · rfl
        · rfl
        · rename_i rest
          have blanks := skipBlanks_length rest
          rw [List.length_cons] at enough
          cases depth with
          | zero => rfl
          | succ depth =>
              dsimp only
              split
              · rfl
              · rw [items depth (skipBlanks rest) (by omega)]
        · rename_i rest
          have blanks := skipBlanks_length rest
          rw [List.length_cons] at enough
          cases depth with
          | zero => rfl
          | succ depth =>
              dsimp only
              split
              · rfl
              · rw [pairs depth (skipBlanks rest) (by omega)]
        · rfl
      · rw [readItems, readItems, value depth text (by omega)]
        cases read : readValue floatOf fuel depth text with
        | error raised => rfl
        | ok result =>
            obtain ⟨item, rest⟩ := result
            have shorter := (reads_consume fuel depth text).1 _ _ read
            have blanks := skipBlanks_length rest
            simp only [bind, Except.bind]
            split
            · rfl
            · rename_i more comma
              have again := skipBlanks_length more
              rw [comma, List.length_cons] at blanks
              rw [items depth (skipBlanks more) (by omega)]
            · rfl
      · rw [readPairs.eq_def floatOf (fuel + 1 + 1), readPairs.eq_def floatOf (fuel + 1)]
        dsimp only
        split
        · rename_i start
          rw [List.length_cons] at enough
          cases read : readString start with
          | error raised => rfl
          | ok result =>
              obtain ⟨key, rest⟩ := result
              have shorter := readString_consumes start _ _ read
              have blanks := skipBlanks_length rest
              simp only [bind, Except.bind]
              split
              · rename_i more colon
                have again := skipBlanks_length more
                rw [colon, List.length_cons] at blanks
                rw [value depth (skipBlanks more) (by omega)]
                cases held : readValue floatOf fuel depth (skipBlanks more) with
                | error raised => rfl
                | ok result =>
                    obtain ⟨field, rest⟩ := result
                    have shorter := (reads_consume fuel depth (skipBlanks more)).1 _ _ held
                    have blanks := skipBlanks_length rest
                    dsimp only
                    split
                    · rfl
                    · rename_i later comma
                      have again := skipBlanks_length later
                      rw [comma, List.length_cons] at blanks
                      rw [pairs depth (skipBlanks later) (by omega)]
                    · rfl
              · rfl
        · rfl

/-- The fuel of `loads` is enough: more of it changes nothing. -/
theorem readValue_fuel {more : Nat} (enough : 2 * text.length + 1 ≤ fuel) :
    readValue floatOf (fuel + more) depth text = readValue floatOf fuel depth text := by
  induction more with
  | zero => rfl
  | succ more ih => exact ((reads_enough (fuel + more) depth text).1 (by omega)).trans ih

end Fuel

end LanguageAgent.Json
