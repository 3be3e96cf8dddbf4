import LanguageAgent.Interleaving.Alone

/-! # Programs that do the same

Two programs that issue the same commands, whatever the replies, and end in related
values. On its own, each leaves the world as the other does.
-/

namespace Interleaving

variable {S : Signature} {α β γ δ : Type}

inductive Program.Matches (R : α → β → Prop) : Program S α → Program S β → Prop where
  | done {a b} (related : R a b) : Matches R (.done a) (.done b)
  | issue {command next next'} (rest : ∀ reply, Matches R (next reply) (next' reply)) :
      Matches R (.issue command next) (.issue command next')

namespace Program.Matches

variable {R : α → β → Prop} {Q : γ → δ → Prop}

theorem refl {R : α → α → Prop} (reflexive : ∀ a, R a a) (p : Program S α) : p.Matches R p := by
  induction p with
  | done a => exact .done (reflexive a)
  | issue command next ih => exact .issue ih

theorem of_eq {p p' : Program S α} (same : p = p') : p.Matches (· = ·) p' :=
  same ▸ refl (fun _ => rfl) p

/-- Programs that do the same and end in equal values are equal. -/
theorem eq {p p' : Program S α} (same : p.Matches (· = ·) p') : p = p' := by
  induction same with
  | done related => rw [related]
  | issue _ ih => rw [funext ih]

theorem bind {p : Program S α} {p' : Program S β} {f : α → Program S γ} {f' : β → Program S δ}
    (first : p.Matches R p') (rest : ∀ a b, R a b → (f a).Matches Q (f' b)) :
    (p.bind f).Matches Q (p'.bind f') := by
  induction first with
  | done related => exact rest _ _ related
  | issue _ ih => exact .issue ih

theorem alone {Party World : Type} {M : Machine S Party World} {party : Party} {p : Program S α}
    {p' : Program S β} {world : World} {ending : Ending S World α} (same : p.Matches R p')
    (ends : M.alone party p world = some ending) :
    ∃ value, R ending.value value ∧ M.alone party p' world = some ⟨ending.commands, ending.world, value⟩ := by
  induction same generalizing world ending with
  | done related =>
      obtain rfl := Option.some.inj ends
      exact ⟨_, related, rfl⟩
  | @issue command next next' _ ih =>
      simp only [Machine.alone] at ends ⊢
      split at ends
      · rename_i reply world' answered
        obtain ⟨rest, finishes, rfl⟩ := Option.map_eq_some_iff.mp ends
        obtain ⟨value, related, same⟩ := ih reply finishes
        refine ⟨value, related, ?_⟩
        simp [same, Ending.after]
      · cases ends

end Program.Matches

variable {ε σ : Type}

/-- Both outcomes are values so related, or the same exception. -/
def SameOutcome (R : α → β → Prop) : Except ε α → Except ε β → Prop
  | .ok a, .ok b => R a b
  | .error e, .error e' => e = e'
  | _, _ => False

theorem SameOutcome.refl {R : α → α → Prop} (reflexive : ∀ a, R a a) (out : Except ε α) :
    SameOutcome R out out := by
  cases out with
  | ok a => exact reflexive a
  | error e => rfl

/-- From the same locals both do the same, and leave the same locals. -/
def Routine.Matches (R : α → β → Prop) (m : Routine S ε σ α) (m' : Routine S ε σ β) : Prop :=
  ∀ locals, (m locals).Matches (fun out out' => SameOutcome R out.1 out'.1 ∧ out.2 = out'.2) (m' locals)

namespace Routine.Matches

variable {R : α → β → Prop} {Q : γ → δ → Prop}

theorem refl {R : α → α → Prop} (reflexive : ∀ a, R a a) (m : Routine S ε σ α) : m.Matches R m :=
  fun locals => .refl (fun out => ⟨.refl reflexive out.1, rfl⟩) (m locals)

theorem pure {a : α} {b : β} (related : R a b) :
    (Pure.pure a : Routine S ε σ α).Matches R (Pure.pure b : Routine S ε σ β) :=
  fun _ => .done ⟨related, rfl⟩

theorem bind {m : Routine S ε σ α} {m' : Routine S ε σ β} {f : α → Routine S ε σ γ} {f' : β → Routine S ε σ δ}
    (first : m.Matches R m') (rest : ∀ a b, R a b → (f a).Matches Q (f' b)) :
    (m >>= f).Matches Q (m' >>= f') := by
  intro locals
  apply (first locals).bind
  rintro ⟨out, locals⟩ ⟨out', _⟩ ⟨same, rfl⟩
  cases out with
  | ok a =>
      cases out' with
      | ok b => exact rest a b same locals
      | error e => exact same.elim
  | error e =>
      cases out' with
      | ok b => exact same.elim
      | error e' =>
          obtain rfl : e = e' := same
          exact .done ⟨rfl, rfl⟩

/-- After the same first part. -/
theorem after (m : Routine S ε σ α) {f : α → Routine S ε σ γ} {f' : α → Routine S ε σ δ}
    (rest : ∀ a, (f a).Matches Q (f' a)) : (m >>= f).Matches Q (m >>= f') :=
  (refl (R := (· = ·)) (fun _ => rfl) m).bind fun a _ same => same ▸ rest a

theorem tryCatch {m : Routine S ε σ α} {m' : Routine S ε σ β} {handle : ε → Routine S ε σ α}
    {handle' : ε → Routine S ε σ β} (attempt : m.Matches R m') (handled : ∀ e, (handle e).Matches R (handle' e)) :
    (tryCatch m handle).Matches R (tryCatch m' handle') := by
  intro locals
  apply (attempt locals).bind
  rintro ⟨out, locals⟩ ⟨out', _⟩ ⟨same, rfl⟩
  cases out with
  | ok a =>
      cases out' with
      | ok b => exact .done ⟨same, rfl⟩
      | error e => exact same.elim
  | error e =>
      cases out' with
      | ok b => exact same.elim
      | error e' =>
          obtain rfl : e = e' := same
          exact handled e locals

end Routine.Matches

/-- The routine neither reads nor changes the locals, and it raises nothing. -/
def Routine.Detached (m : Routine S ε σ α) : Prop :=
  ∀ locals locals', (m locals).Matches
    (fun out out' => ∃ a, out = (.ok a, locals) ∧ out' = (.ok a, locals')) (m locals')

namespace Routine.Detached

theorem pure {a : α} : (Pure.pure a : Routine S ε σ α).Detached :=
  fun _ _ => .done ⟨a, rfl, rfl⟩

theorem issue {command : S.Command} : (Routine.issue command : Routine S ε σ _).Detached :=
  fun _ _ => .issue fun reply => .done ⟨reply, rfl, rfl⟩

theorem bind {m : Routine S ε σ α} {f : α → Routine S ε σ β} (first : m.Detached)
    (rest : ∀ a, (f a).Detached) : (m >>= f).Detached := by
  intro locals locals'
  apply (first locals locals').bind
  rintro _ _ ⟨a, rfl, rfl⟩
  exact rest a _ _

theorem ite {condition : Prop} [Decidable condition] {m m' : Routine S ε σ α} (holds : m.Detached)
    (fails : m'.Detached) : (if condition then m else m').Detached := by
  split
  · exact holds
  · exact fails

end Routine.Detached

end Interleaving
