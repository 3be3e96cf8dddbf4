import LanguageAgent.Interleaving.Machine

/-! # Cooperative interleavings

A party that has been given control keeps it until it issues a command that releases it.
-/

namespace Interleaving

variable {S : Signature} {Party World : Type}

/-- Only the party that went last may go next, unless its last command released control. -/
def cooperative (releases : S.Command → Bool) : Guard S Party World := fun trace _ label =>
  ∀ last, trace.getLast? = some last → releases last.command = true ∨ last.party = label.party

instance [DecidableEq Party] (releases : S.Command → Bool) (trace : List (Label S Party)) (world : World)
    (label : Label S Party) : Decidable (cooperative releases trace world label) :=
  match found : trace.getLast? with
  | none => .isTrue fun _ same => by cases found.symm.trans same
  | some last =>
      if holds : releases last.command = true ∨ last.party = label.party then
        .isTrue fun other same => by
          cases found.symm.trans same
          exact holds
      else .isFalse fun all => holds (all last found)

/-- The party has control. -/
def Running (releases : S.Command → Bool) (trace : List (Label S Party)) (party : Party) : Prop :=
  ∃ last, trace.getLast? = some last ∧ releases last.command = false ∧ last.party = party

theorem Running.only {releases : S.Command → Bool} {trace : List (Label S Party)} {world : World}
    {party : Party} {label : Label S Party} (running : Running releases trace party)
    (allowed : cooperative releases trace world label) : party = label.party := by
  obtain ⟨last, found, busy, rfl⟩ := running
  rcases allowed last found with released | same
  · cases busy.symm.trans released
  · exact same

theorem running_append {releases : S.Command → Bool} {trace : List (Label S Party)} {party : Party}
    {command : S.Command} (busy : releases command = false) :
    Running releases (trace ++ [⟨party, command⟩]) party :=
  ⟨⟨party, command⟩, by simp, busy, rfl⟩

end Interleaving
