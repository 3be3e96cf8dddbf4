import Mathlib.Logic.Function.Basic

/-! # Programs as trees of commands

A party of a concurrent system is a tree: it has either finished with a value, or
it issues one command and continues with whatever reply the environment gives.
Everything between two commands is pure computation, so the commands are exactly
the points at which another party may run.

`Routine` adds local state and exceptions. State survives a raised exception, as
the fields of a mutable object do.
-/

namespace Interleaving

/-- The commands a family of programs may issue, and the type of each reply. -/
structure Signature where
  Command : Type
  Reply : Command → Type

inductive Program (S : Signature) (α : Type) where
  | done (value : α)
  | issue (command : S.Command) (next : S.Reply command → Program S α)

namespace Program

variable {S : Signature} {α β γ : Type}

def bind : Program S α → (α → Program S β) → Program S β
  | .done a, f => f a
  | .issue command next, f => .issue command fun reply => (next reply).bind f

@[simp] theorem done_bind (a : α) (f : α → Program S β) : (Program.done a).bind f = f a := rfl

@[simp] theorem issue_bind (command : S.Command) (next : S.Reply command → Program S α)
    (f : α → Program S β) :
    (Program.issue command next).bind f = .issue command fun reply => (next reply).bind f := rfl

/-- The program with a connection that breaks after so many commands, or never. -/
def breakingAfter : Option Nat → Program S α → Program S (Option α)
  | _, .done a => .done (some a)
  | none, .issue command next => .issue command fun reply => breakingAfter none (next reply)
  | some 0, .issue _ _ => .done none
  | some (n + 1), .issue command next => .issue command fun reply => breakingAfter (some n) (next reply)

@[simp] theorem breakingAfter_done (breaks : Option Nat) (a : α) :
    (Program.done a : Program S α).breakingAfter breaks = .done (some a) := by
  cases breaks <;> rfl

end Program

/-- A program with local state `σ` that may raise an exception of type `ε`. -/
def Routine (S : Signature) (ε σ α : Type) := σ → Program S (Except ε α × σ)

namespace Routine

variable {S : Signature} {ε σ α β : Type}

def pure (a : α) : Routine S ε σ α := fun s => .done (.ok a, s)

def raise (e : ε) : Routine S ε σ α := fun s => .done (.error e, s)

def bind (m : Routine S ε σ α) (f : α → Routine S ε σ β) : Routine S ε σ β := fun s =>
  (m s).bind fun out =>
    match out.1 with
    | .ok a => f a out.2
    | .error e => .done (.error e, out.2)

/-- Run the handler on a raised exception, in the state the exception left. -/
def catching (m : Routine S ε σ α) (handle : ε → Routine S ε σ α) : Routine S ε σ α := fun s =>
  (m s).bind fun out =>
    match out.1 with
    | .ok a => .done (.ok a, out.2)
    | .error e => handle e out.2

/-- Run `last` however `m` ends, and then end as `m` did. -/
def ensuring (m : Routine S ε σ α) (last : Routine S ε σ Unit) : Routine S ε σ α := fun s =>
  (m s).bind fun out =>
    (last out.2).bind fun closed =>
      match closed.1 with
      | .ok _ => .done (out.1, closed.2)
      | .error e => .done (.error e, closed.2)

instance : Monad (Routine S ε σ) where
  pure := Routine.pure
  bind := Routine.bind

instance : MonadExceptOf ε (Routine S ε σ) where
  throw := Routine.raise
  tryCatch := Routine.catching

def get : Routine S ε σ σ := fun s => .done (.ok s, s)

def modify (f : σ → σ) : Routine S ε σ Unit := fun s => .done (.ok (), f s)

/-- Issue one command and return its reply. -/
def issue (command : S.Command) : Routine S ε σ (S.Reply command) := fun s =>
  .issue command fun reply => .done (.ok reply, s)

end Routine

end Interleaving
