import LanguageAgent.Python.Text

/-! # Python's integers in texts -/

namespace Python

/-- Where the blocks of ten decimal digits begin, in Unicode 14. -/
def digitBlocks : List Nat :=
  [0x30, 0x660, 0x6F0, 0x7C0, 0x966, 0x9E6, 0xA66, 0xAE6, 0xB66, 0xBE6, 0xC66, 0xCE6, 0xD66, 0xDE6, 0xE50, 0xED0, 0xF20,
    0x1040, 0x1090, 0x17E0, 0x1810, 0x1946, 0x19D0, 0x1A80, 0x1A90, 0x1B50, 0x1BB0, 0x1C40, 0x1C50, 0xA620, 0xA8D0,
    0xA900, 0xA9D0, 0xA9F0, 0xAA50, 0xABF0, 0xFF10, 0x104A0, 0x10D30, 0x11066, 0x110F0, 0x11136, 0x111D0, 0x112F0,
    0x11450, 0x114D0, 0x11650, 0x116C0, 0x11730, 0x118E0, 0x11950, 0x11C50, 0x11D50, 0x11DA0, 0x16A60, 0x16AC0, 0x16B50,
    0x1D7CE, 0x1D7D8, 0x1D7E2, 0x1D7EC, 0x1D7F6, 0x1E140, 0x1E2F0, 0x1E950, 0x1FBF0]

/-- `unicodedata.decimal` -/
def decimal (c : Char) : Option Nat :=
  (digitBlocks.find? fun start => start ≤ c.toNat && c.toNat < start + 10).map fun start => c.toNat - start

/-- The digits after some that have been read, with single underscores between digits:
    their value and their number. -/
def digitsFrom (value count : Nat) : List Char → Option (Nat × Nat)
  | [] => some (value, count)
  | ['_'] => none
  | '_' :: c :: rest => (decimal c).bind fun digit => digitsFrom (value * 10 + digit) (count + 1) rest
  | c :: rest => (decimal c).bind fun digit => digitsFrom (value * 10 + digit) (count + 1) rest

/-- At most `sys.get_int_max_str_digits()` digits, which must be there. -/
def natOfText : List Char → Option Nat
  | [] => none
  | c :: rest => do
      let digit ← decimal c
      let (value, count) ← digitsFrom digit 1 rest
      if count ≤ 4300 then some value else none

/-- The space `int` skips. The separators U+001C to U+001F are space to `strip` alone. -/
def isNumberSpace (c : Char) : Bool := isSpace c && !(0x1C ≤ c.toNat && c.toNat ≤ 0x1F)

/-- `int(text)`, where it does not raise a `ValueError`. -/
def intOfText (text : List Char) : Option Int :=
  match ((text.dropWhile isNumberSpace).reverse.dropWhile isNumberSpace).reverse with
  | '-' :: digits => (natOfText digits).map fun n => -(n : Int)
  | '+' :: digits => (natOfText digits).map Int.ofNat
  | digits => (natOfText digits).map Int.ofNat

example : intOfText " -1_000\n".toList = some (-1000) ∧ intOfText "\x1c7".toList = none := by decide

end Python
