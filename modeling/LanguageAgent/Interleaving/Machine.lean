import Mathlib.Logic.Relation
import LanguageAgent.Interleaving.Program

/-! # Interleaved runs over a shared world

Parties take turns at the commands of their programs. A guard restricts the
commands a run may take; it sees the history so far, the world and the command
about to be issued, and never what the programs will do later.
-/

namespace Interleaving

/-- How the shared world answers each party; `none` means the command must wait. -/
structure Machine (S : Signature) (Party World : Type) where
  exec : Party → (command : S.Command) → World → Option (S.Reply command × World)

structure Label (S : Signature) (Party : Type) where
  party : Party
  command : S.Command

structure Config (S : Signature) (Party World α : Type) where
  trace : List (Label S Party)
  world : World
  program : Party → Program S α

/-- A condition on taking one more command, given the history and the world before it. -/
abbrev Guard (S : Signature) (Party World : Type) := List (Label S Party) → World → Label S Party → Prop

namespace Machine

variable {S : Signature} {Party World α : Type} [DecidableEq Party]

/-- One party issues its next command and receives the reply. -/
inductive Step (M : Machine S Party World) (guard : Guard S Party World) :
    Config S Party World α → Config S Party World α → Prop where
  | issue {trace world program party command next reply world'}
      (issues : program party = .issue command next)
      (allowed : guard trace world ⟨party, command⟩)
      (answered : M.exec party command world = some (reply, world')) :
      Step M guard ⟨trace, world, program⟩
        ⟨trace ++ [⟨party, command⟩], world', Function.update program party (next reply)⟩

/-- Configurations some guarded run leads to. -/
def Reach (M : Machine S Party World) (guard : Guard S Party World) :
    Config S Party World α → Config S Party World α → Prop :=
  Relation.ReflTransGen (M.Step guard)

/-- Every interleaving, with no condition on its steps. -/
def anyStep : Guard S Party World := fun _ _ _ => True

theorem Step.weaken {M : Machine S Party World} {guard weaker : Guard S Party World}
    (implies : ∀ trace world label, guard trace world label → weaker trace world label)
    {c d : Config S Party World α} (step : M.Step guard c d) : M.Step weaker c d := by
  cases step with
  | issue issues allowed answered => exact .issue issues (implies _ _ _ allowed) answered

theorem Reach.weaken {M : Machine S Party World} {guard weaker : Guard S Party World}
    (implies : ∀ trace world label, guard trace world label → weaker trace world label)
    {c d : Config S Party World α} (reach : M.Reach guard c d) : M.Reach weaker c d :=
  Relation.ReflTransGen.mono (fun _ _ => Step.weaken implies) _ _ reach

/-- A run only adds to the history, and a party that is done takes no further part in it. -/
theorem Reach.history {M : Machine S Party World} {guard : Guard S Party World}
    {c d : Config S Party World α} (reach : M.Reach guard c d) :
    ∃ later, d.trace = c.trace ++ later ∧ ∀ party a, c.program party = .done a →
      d.program party = .done a ∧ ∀ label ∈ later, label.party ≠ party := by
  induction reach with
  | refl => exact ⟨[], (List.append_nil _).symm, fun _ _ done => ⟨done, fun _ member => by cases member⟩⟩
  | tail _ step ih =>
      obtain ⟨later, grows, finished⟩ := ih
      cases step with
      | @issue trace world program party command next reply world' issues allowed answered =>
          refine ⟨later ++ [⟨party, command⟩], ?_, fun other a done => ?_⟩
          · rw [← List.append_assoc, ← grows]
          · obtain ⟨still, silent⟩ := finished other a done
            have different : other ≠ party := by
              rintro rfl
              cases issues.symm.trans still
            refine ⟨by simpa only [Function.update_of_ne different] using still, fun label member => ?_⟩
            rcases List.mem_append.mp member with earlier | last
            · exact silent label earlier
            · obtain rfl := List.mem_singleton.mp last
              exact different.symm

instance (trace : List (Label S Party)) (world : World) (label : Label S Party) :
    Decidable ((anyStep : Guard S Party World) trace world label) := inferInstanceAs (Decidable True)

/-! ## Executing a schedule -/

section Schedule

variable (M : Machine S Party World) (guard : Guard S Party World)
  [∀ trace world label, Decidable (guard trace world label)]

/-- Let one party take its next command, when it has one it may take now. -/
def perform (party : Party) (c : Config S Party World α) : Option (Config S Party World α) :=
  match c.program party with
  | .done _ => none
  | .issue command next =>
      if guard c.trace c.world ⟨party, command⟩ then
        (M.exec party command c.world).map fun answer =>
          ⟨c.trace ++ [⟨party, command⟩], answer.2, Function.update c.program party (next answer.1)⟩
      else none

/-- Let the parties take turns in the given order. -/
def schedule : List Party → Config S Party World α → Option (Config S Party World α)
  | [], c => some c
  | party :: rest, c => (perform M guard party c).bind (schedule rest)

end Schedule

variable {M : Machine S Party World} {guard : Guard S Party World}
  [∀ trace world label, Decidable (guard trace world label)]

theorem perform_step {party : Party} {c d : Config S Party World α}
    (performed : M.perform guard party c = some d) : M.Step guard c d := by
  obtain ⟨trace, world, program⟩ := c
  simp only [perform] at performed
  split at performed
  · cases performed
  · rename_i command next issues
    split at performed
    · rename_i allowed
      obtain ⟨⟨reply, world'⟩, answered, rfl⟩ := Option.map_eq_some_iff.mp performed
      exact .issue issues allowed answered
    · cases performed

theorem schedule_reach {order : List Party} {c d : Config S Party World α}
    (scheduled : M.schedule guard order c = some d) : M.Reach guard c d := by
  induction order generalizing c with
  | nil => cases scheduled; exact .refl
  | cons party rest ih =>
      obtain ⟨middle, first, remaining⟩ := Option.bind_eq_some_iff.mp scheduled
      exact .head (perform_step first) (ih remaining)

/-- What an executed schedule ends with is what some run ends with. -/
theorem schedule_observed {β : Type} (M : Machine S Party World) (guard : Guard S Party World)
    [∀ trace world label, Decidable (guard trace world label)] (order : List Party)
    (c : Config S Party World α) (observe : Config S Party World α → β) (seen : β)
    (observed : (M.schedule guard order c).map observe = some seen) :
    ∃ d, M.Reach guard c d ∧ observe d = seen := by
  obtain ⟨d, scheduled, same⟩ := Option.map_eq_some_iff.mp observed
  exact ⟨d, schedule_reach scheduled, same⟩

end Machine

end Interleaving
