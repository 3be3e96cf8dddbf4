import LanguageAgent.Interleaving.Machine

/-! # One party on its own

What a program comes to when no other party takes a step: the commands it issues in
order, the world it leaves, and its value. For routines this is computed piece by piece.
-/

namespace Interleaving

/-- How a program ends that ran on its own. -/
structure Ending (S : Signature) (World α : Type) where
  commands : List S.Command
  world : World
  value : α

namespace Ending

variable {S : Signature} {World α β : Type}

/-- The same end after some earlier commands. -/
def after (earlier : List S.Command) (ending : Ending S World α) : Ending S World α :=
  { ending with commands := earlier ++ ending.commands }

@[simp] theorem after_nil (ending : Ending S World α) : ending.after [] = ending := rfl

@[simp] theorem after_comp (first second : List S.Command) :
    (after first ∘ after second : Ending S World α → Ending S World α) = after (first ++ second) := by
  funext ending
  simp [after, List.append_assoc]

end Ending

namespace Machine

variable {S : Signature} {Party World α β : Type}

/-- Run the program to its end; `none` if one of its commands has to wait. -/
def alone (M : Machine S Party World) (party : Party) : Program S α → World → Option (Ending S World α)
  | .done a, world => some ⟨[], world, a⟩
  | .issue command next, world =>
      match M.exec party command world with
      | some (reply, world') => (M.alone party (next reply) world').map (Ending.after [command])
      | none => none

variable {M : Machine S Party World} {party : Party}

theorem alone_bind (p : Program S α) (f : α → Program S β) (world : World) :
    M.alone party (p.bind f) world =
      (M.alone party p world).bind fun ending =>
        (M.alone party (f ending.value) ending.world).map (Ending.after ending.commands) := by
  induction p generalizing world with
  | done a => cases h : M.alone party (f a) world <;> simp [alone, h]
  | issue command next ih =>
      cases answered : M.exec party command world with
      | none => simp [alone, answered]
      | some answer =>
          obtain ⟨reply, world'⟩ := answer
          simp only [Program.issue_bind, alone, answered, ih]
          cases M.alone party (next reply) world' with
          | none => rfl
          | some ending =>
              cases rest : M.alone party (f ending.value) ending.world <;> simp [rest, Ending.after]

theorem alone_stuck {p : Program S α} {f : α → Program S β} {world : World}
    (stuck : M.alone party p world = none) : M.alone party (p.bind f) world = none := by
  rw [alone_bind, stuck]
  rfl

/-- Running alone is a run in which only this party takes steps. -/
theorem alone_reach [DecidableEq Party] {guard : Guard S Party World}
    (allowed : ∀ trace world command, guard trace world ⟨party, command⟩)
    {p : Program S α} {trace : List (Label S Party)} {world : World} {program : Party → Program S α}
    {ending : Ending S World α} (issues : program party = p)
    (completes : M.alone party p world = some ending) :
    M.Reach guard ⟨trace, world, program⟩
      ⟨trace ++ ending.commands.map (Label.mk party), ending.world,
        Function.update program party (.done ending.value)⟩ := by
  induction p generalizing trace world program ending with
  | done a =>
      obtain rfl := Option.some.inj completes
      simp only [List.map_nil, List.append_nil]
      rw [← issues, Function.update_eq_self]
      exact .refl
  | issue command next ih =>
      simp only [alone] at completes
      split at completes
      · rename_i reply world' answered
        obtain ⟨rest, finishes, rfl⟩ := Option.map_eq_some_iff.mp completes
        have remaining : M.Reach guard
            ⟨trace ++ [⟨party, command⟩], world', Function.update program party (next reply)⟩ _ :=
          ih reply (Function.update_self ..) finishes
        rw [Function.update_idem, List.append_assoc] at remaining
        exact .head (.issue issues (allowed _ _ _) answered) remaining
      · cases completes

end Machine

/-- How a routine on its own ends: its outcome and the locals it leaves. -/
abbrev Routine.End (S : Signature) (ε σ World α : Type) := Option (Ending S World (Except ε α × σ))

/-- A routine on its own. -/
def Routine.alone {S : Signature} {Party World ε σ α : Type} (M : Machine S Party World)
    (party : Party) (m : Routine S ε σ α) (locals : σ) (world : World) : Routine.End S ε σ World α :=
  M.alone party (m locals) world

namespace Routine

variable {S : Signature} {Party World ε σ α β : Type} {M : Machine S Party World}
  {party : Party} {locals : σ} {world : World}

@[simp] theorem alone_pure {a : α} :
    (Pure.pure a : Routine S ε σ α).alone M party locals world = some ⟨[], world, .ok a, locals⟩ := rfl

@[simp] theorem alone_throw {error : ε} :
    (throw error : Routine S ε σ α).alone M party locals world = some ⟨[], world, .error error, locals⟩ :=
  rfl

@[simp] theorem alone_get :
    (Routine.get : Routine S ε σ σ).alone M party locals world = some ⟨[], world, .ok locals, locals⟩ := rfl

@[simp] theorem alone_modify {f : σ → σ} :
    (Routine.modify f : Routine S ε σ Unit).alone M party locals world = some ⟨[], world, .ok (), f locals⟩ :=
  rfl

theorem alone_issue {command : S.Command} {reply : S.Reply command} {world' : World}
    (answered : M.exec party command world = some (reply, world')) :
    (Routine.issue command : Routine S ε σ _).alone M party locals world =
      some ⟨[command], world', .ok reply, locals⟩ := by
  simp [Routine.alone, Routine.issue, Machine.alone, answered, Ending.after]

/-- After a step that succeeds comes the rest. -/
theorem alone_bind_ok {m : Routine S ε σ α} {f : α → Routine S ε σ β} {commands : List S.Command}
    {world' : World} {a : α} {locals' : σ}
    (first : m.alone M party locals world = some ⟨commands, world', .ok a, locals'⟩) :
    (m >>= f).alone M party locals world =
      ((f a).alone M party locals' world').map (Ending.after commands) := by
  change M.alone party (Program.bind (m locals) _) world = _
  rw [Machine.alone_bind]
  simp only [Routine.alone] at first
  rw [first]
  rfl

/-- After a step that raises nothing comes. -/
theorem alone_bind_error {m : Routine S ε σ α} {f : α → Routine S ε σ β} {commands : List S.Command}
    {world' : World} {error : ε} {locals' : σ}
    (first : m.alone M party locals world = some ⟨commands, world', .error error, locals'⟩) :
    (m >>= f).alone M party locals world = some ⟨commands, world', .error error, locals'⟩ := by
  change M.alone party (Program.bind (m locals) _) world = _
  rw [Machine.alone_bind]
  simp only [Routine.alone] at first
  rw [first]
  simp [Machine.alone, Ending.after]

/-- A sequence that returns has returned from its first part. -/
theorem alone_bind_returned {m : Routine S ε σ α} {f : α → Routine S ε σ β} {ending : Ending S World (Except ε β × σ)}
    {b : β} (runs : (m >>= f).alone M party locals world = some ending) (returned : ending.value.1 = .ok b) :
    ∃ commands world' a locals' rest, m.alone M party locals world = some ⟨commands, world', .ok a, locals'⟩ ∧
      (f a).alone M party locals' world' = some rest ∧ ending = rest.after commands := by
  cases first : m.alone M party locals world with
  | none => cases (Machine.alone_stuck first).symm.trans runs
  | some middle =>
      obtain ⟨commands, world', out, locals'⟩ := middle
      cases out with
      | error error =>
          rw [alone_bind_error first] at runs
          obtain rfl := Option.some.inj runs
          cases returned
      | ok a =>
          rw [alone_bind_ok first] at runs
          obtain ⟨rest, finishes, rfl⟩ := Option.map_eq_some_iff.mp runs
          exact ⟨commands, world', a, locals', rest, rfl, finishes, rfl⟩

/-- A sequence that raises has raised in its first part or in its second. -/
theorem alone_bind_raised {m : Routine S ε σ α} {f : α → Routine S ε σ β} {ending : Ending S World (Except ε β × σ)}
    {error : ε} (runs : (m >>= f).alone M party locals world = some ending) (raised : ending.value.1 = .error error) :
    (m.alone M party locals world = some ⟨ending.commands, ending.world, .error error, ending.value.2⟩) ∨
      ∃ commands world' a locals' rest, m.alone M party locals world = some ⟨commands, world', .ok a, locals'⟩ ∧
        (f a).alone M party locals' world' = some rest ∧ ending = rest.after commands := by
  cases first : m.alone M party locals world with
  | none => cases (Machine.alone_stuck first).symm.trans runs
  | some middle =>
      obtain ⟨commands, world', out, locals'⟩ := middle
      cases out with
      | error early =>
          rw [alone_bind_error first] at runs
          obtain rfl := Option.some.inj runs
          obtain rfl := Except.error.inj raised
          exact .inl rfl
      | ok a =>
          rw [alone_bind_ok first] at runs
          obtain ⟨rest, finishes, rfl⟩ := Option.map_eq_some_iff.mp runs
          exact .inr ⟨commands, world', a, locals', rest, rfl, finishes, rfl⟩

theorem alone_tryCatch_ok {m : Routine S ε σ α} {handle : ε → Routine S ε σ α} {commands : List S.Command}
    {world' : World} {a : α} {locals' : σ}
    (first : m.alone M party locals world = some ⟨commands, world', .ok a, locals'⟩) :
    (tryCatch m handle).alone M party locals world = some ⟨commands, world', .ok a, locals'⟩ := by
  change M.alone party (Program.bind (m locals) _) world = _
  rw [Machine.alone_bind]
  simp only [Routine.alone] at first
  rw [first]
  simp [Machine.alone, Ending.after]

theorem alone_tryCatch_error {m : Routine S ε σ α} {handle : ε → Routine S ε σ α} {commands : List S.Command}
    {world' : World} {error : ε} {locals' : σ}
    (first : m.alone M party locals world = some ⟨commands, world', .error error, locals'⟩) :
    (tryCatch m handle).alone M party locals world =
      ((handle error).alone M party locals' world').map (Ending.after commands) := by
  change M.alone party (Program.bind (m locals) _) world = _
  rw [Machine.alone_bind]
  simp only [Routine.alone] at first
  rw [first]
  rfl

/-- A routine whose exceptions are only replaced returns when the routine itself does. -/
theorem alone_tryCatch_returned {m : Routine S ε σ α} {handle : ε → Routine S ε σ α}
    {ending : Ending S World (Except ε α × σ)} {a : α} (rethrows : ∀ error, ∃ other, handle error = throw other)
    (runs : (tryCatch m handle).alone M party locals world = some ending) (returned : ending.value.1 = .ok a) :
    m.alone M party locals world = some ending := by
  cases first : m.alone M party locals world with
  | none => cases (Machine.alone_stuck first).symm.trans runs
  | some middle =>
      obtain ⟨commands, world', out, locals'⟩ := middle
      cases out with
      | ok b => exact (alone_tryCatch_ok first).symm.trans runs
      | error error =>
          obtain ⟨other, throws⟩ := rethrows error
          rw [alone_tryCatch_error first, throws, alone_throw] at runs
          obtain rfl := Option.some.inj runs
          cases returned

/-- What follows a first part depends only on how that part ends. -/
theorem alone_tryCatch_congr {m : Routine S ε σ α} {handle : ε → Routine S ε σ α} {world' : World}
    (same : m.alone M party locals world = m.alone M party locals world') :
    (tryCatch m handle).alone M party locals world = (tryCatch m handle).alone M party locals world' := by
  change M.alone party (Program.bind (m locals) _) world = M.alone party (Program.bind (m locals) _) world'
  rw [Machine.alone_bind, Machine.alone_bind]
  simp only [Routine.alone] at same
  rw [same]

/-- Where exceptions are only replaced, one that comes out was raised inside. -/
theorem alone_tryCatch_raised {m : Routine S ε σ α} {handle : ε → Routine S ε σ α}
    {ending : Ending S World (Except ε α × σ)} {error : ε} (rethrows : ∀ error, ∃ other, handle error = throw other)
    (runs : (tryCatch m handle).alone M party locals world = some ending) (raised : ending.value.1 = .error error) :
    ∃ inner, m.alone M party locals world = some ⟨ending.commands, ending.world, .error inner, ending.value.2⟩ := by
  cases first : m.alone M party locals world with
  | none => cases (Machine.alone_stuck first).symm.trans runs
  | some middle =>
      obtain ⟨commands, world', out, locals'⟩ := middle
      cases out with
      | ok a =>
          rw [alone_tryCatch_ok first] at runs
          obtain rfl := Option.some.inj runs
          cases raised
      | error inner =>
          obtain ⟨other, throws⟩ := rethrows inner
          rw [alone_tryCatch_error first, throws, alone_throw] at runs
          obtain rfl := Option.some.inj runs
          exact ⟨inner, by simp [Ending.after]⟩

end Routine

end Interleaving
