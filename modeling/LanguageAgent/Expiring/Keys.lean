import Mathlib.Data.Option.Basic
import Mathlib.Logic.Function.Basic
import Mathlib.Order.Lattice

/-! # Keys with a time to live

A store of keys, each with a value and possibly a deadline. A key is there at the
instants before its deadline, and every later look at it is decided by an earlier one.
-/

namespace Expiring

structure Entry (Value Time : Type) where
  value : Value
  deadline : Option Time
  deriving DecidableEq

abbrev Keys (Key Value Time : Type) := Key → Option (Entry Value Time)

section Looking

variable {Key Value Time : Type} [LinearOrder Time]

/-- The deadline has not been reached. -/
def notReached (now : Time) : Option Time → Bool
  | some deadline => decide (now < deadline)
  | none => true

def Entry.isLive (now : Time) (entry : Entry Value Time) : Bool := notReached now entry.deadline

/-- The entry a look at this instant finds. -/
def Keys.find (keys : Keys Key Value Time) (now : Time) (key : Key) : Option (Entry Value Time) :=
  (keys key).filter (Entry.isLive now)

theorem notReached_earlier {now later : Time} {deadline : Option Time} (after : now ≤ later)
    (live : notReached later deadline = true) : notReached now deadline = true := by
  cases deadline with
  | none => rfl
  | some deadline => exact decide_eq_true (lt_of_le_of_lt after (of_decide_eq_true live))

theorem filter_isLive_later {now later : Time} (after : now ≤ later) (entry : Option (Entry Value Time)) :
    (entry.filter (Entry.isLive now)).filter (Entry.isLive later) = entry.filter (Entry.isLive later) := by
  cases entry with
  | none => rfl
  | some entry =>
      by_cases live : entry.isLive later = true
      · have before : entry.isLive now = true := notReached_earlier after live
        simp only [Option.filter_some, before, if_true]
      · by_cases before : entry.isLive now = true <;>
          simp only [Option.filter_some, before, live, if_true, Option.filter_none, Bool.false_eq_true, if_false]

end Looking

/-! ## Commands -/

section Commands

variable {Key Value Time : Type} [DecidableEq Key]

/-- `DEL` -/
def Keys.delete (keys : Keys Key Value Time) (key : Key) : Keys Key Value Time :=
  Function.update keys key none

/-- `SET` with `EX`: any earlier deadline is forgotten. -/
def Keys.setFor [Add Time] (keys : Keys Key Value Time) (now : Time) (key : Key) (value : Value)
    (ttl : Time) : Keys Key Value Time :=
  Function.update keys key (some ⟨value, some (now + ttl)⟩)

/-- `EXPIRE`, which does nothing to a key that is not there. -/
def Keys.expire [LinearOrder Time] [Add Time] (keys : Keys Key Value Time) (now : Time) (key : Key)
    (ttl : Time) : Keys Key Value Time :=
  Function.update keys key ((keys.find now key).map fun entry =>
    { entry with deadline := some (now + ttl) })

/-- The entry `INCR` leaves: it counts from zero, and keeps the deadline there is. -/
def incremented {Time : Type} (entry : Option (Entry Nat Time)) : Entry Nat Time :=
  match entry with
  | some entry => { entry with value := entry.value + 1 }
  | none => ⟨1, none⟩

/-- `INCR` -/
def Keys.incr [LinearOrder Time] (keys : Keys Key Nat Time) (now : Time) (key : Key) :
    Nat × Keys Key Nat Time :=
  let entry := incremented (keys.find now key)
  (entry.value, Function.update keys key (some entry))

variable [LinearOrder Time]

theorem Keys.find_update_self (keys : Keys Key Value Time) (key : Key)
    (entry : Option (Entry Value Time)) (now : Time) :
    Keys.find (Function.update keys key entry) now key = entry.filter (Entry.isLive now) := by
  rw [Keys.find, Function.update_self]

end Commands

end Expiring
