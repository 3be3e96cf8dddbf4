import Mathlib.Data.List.Infix
import Mathlib.Logic.Relation
import Mathlib.Tactic.Ring

/-! # Pipelines of queues

Stages that items pass through one after the other, first in first out. Whoever moves the
items, and in whatever order, none is lost or overtaken on the way.
-/

namespace Sequences

/-- What waits in each stage, the source first. -/
abbrev Pipeline (α : Type) := List (List α)

namespace Pipeline

variable {α : Type}

/-- The first item of a stage goes to the end of the next. -/
inductive Step : Pipeline α → Pipeline α → Prop where
  | move (item : α) (waiting next : List α) (more : Pipeline α) :
      Step ((item :: waiting) :: next :: more) (waiting :: (next ++ [item]) :: more)
  | later (stage : List α) {before after : Pipeline α} (step : Step before after) : Step (stage :: before) (stage :: after)

/-- All the items, in the order in which they leave the source. -/
def flow : Pipeline α → List α
  | [] => []
  | stage :: more => flow more ++ stage

/-- How many moves are left until everything is in the last stage. -/
def pending : Pipeline α → Nat
  | [] => 0
  | stage :: more => stage.length * more.length + pending more

/-- What has arrived in the last stage. -/
def sink : Pipeline α → List α
  | [] => []
  | [stage] => stage
  | _ :: next :: more => sink (next :: more)

variable {before after : Pipeline α}

theorem Step.flow (step : Step before after) : after.flow = before.flow := by
  induction step with
  | move item waiting next more => simp [Pipeline.flow]
  | later stage step ih => rw [Pipeline.flow, Pipeline.flow, ih]

theorem Step.length (step : Step before after) : after.length = before.length := by
  induction step with
  | move item waiting next more => rfl
  | later stage step ih => rw [List.length_cons, List.length_cons, ih]

/-- Every move counts. -/
theorem Step.pending (step : Step before after) : before.pending = after.pending + 1 := by
  induction step with
  | move item waiting next more =>
      simp only [Pipeline.pending, List.length_cons, List.length_append, List.length_nil]
      ring
  | later stage step ih =>
      rw [Pipeline.pending, Pipeline.pending, step.length, ih, Nat.add_assoc]

theorem sink_begins : ∀ stages : Pipeline α, stages.sink <+: stages.flow
  | [] => List.prefix_refl _
  | [stage] => by simp [sink, flow]
  | stage :: next :: more => (sink_begins (next :: more)).trans (List.prefix_append _ _)

end Pipeline

end Sequences
