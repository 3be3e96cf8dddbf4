import LanguageAgent.Domain.JsonRoundTrip
import LanguageAgent.Gateway.LlamaServer

/-! # The JSON library

`json.dumps` and `json.loads` of one Python process.
-/

namespace LanguageAgent.Gateway

open Queue

/-- What the library does with floats, and how deep containers may stand in one another. -/
structure JsonLibrary where
  floats : FloatRepr
  floatOf : List Char → PyFloat
  depth : Nat

/-- The exception for a text that has no value. -/
def LoadsError.ofRead : Json.ReadError → LoadsError
  | .decode => .decode
  | .digits => .value "Exceeds the limit (4300 digits) for integer string conversion"
  | .recursion => .other { className := "RecursionError", message := "maximum recursion depth exceeded" }
  | .notHeld => .other { className := "NotImplementedError", message := "a value without a Json" }

namespace JsonLibrary

variable (library : JsonLibrary)

def loads (text : List Char) : Except LoadsError Json :=
  (Json.loads library.floatOf library.depth text).mapError LoadsError.ofRead

def dumps (value : Json) : List Char := Json.dumps library.floats value

/-- How HTTP bodies are written. -/
def render (value : Json) : List Char := Json.dumpsIn library.floats .compact value

/-- The library can write the value and read it again. -/
def Holds (value : Json) : Prop := Json.Held library.floats library.floatOf library.depth value

variable {library} {value : Json}

theorem loads_render (holds : library.Holds value) : library.loads (library.render value) = .ok value := by
  rw [loads, render, Json.loads_dumpsIn holds]
  rfl

theorem loads_dumps (holds : library.Holds value) : library.loads (library.dumps value) = .ok value := by
  rw [loads, dumps, ← Json.dumpsIn_default, Json.loads_dumpsIn holds]
  rfl

end JsonLibrary

end LanguageAgent.Gateway
