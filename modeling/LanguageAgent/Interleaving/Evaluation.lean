import LanguageAgent.Interleaving.Alone

/-! # What a routine on its own comes to

Big steps: from some locals and a world a routine comes to an outcome, its last locals
and the world it leaves. Which commands it has issued is left open.
-/

namespace Interleaving

variable {S : Signature} {Party World ε σ α β : Type}

def Routine.Evaluates (M : Machine S Party World) (party : Party) (m : Routine S ε σ α) (locals : σ) (world : World)
    (out : Except ε α) (locals' : σ) (world' : World) : Prop :=
  ∃ commands, m.alone M party locals world = some ⟨commands, world', out, locals'⟩

namespace Routine.Evaluates

variable {M : Machine S Party World} {party : Party} {locals locals' locals'' : σ} {world world' world'' : World}
  {m : Routine S ε σ α} {f : α → Routine S ε σ β} {handle : ε → Routine S ε σ α} {last : Routine S ε σ Unit}
  {a : α} {error : ε}

theorem pure : (Pure.pure a : Routine S ε σ α).Evaluates M party locals world (.ok a) locals world :=
  ⟨_, alone_pure⟩

theorem throw : (throw error : Routine S ε σ α).Evaluates M party locals world (.error error) locals world :=
  ⟨_, alone_throw⟩

theorem get : Routine.get.Evaluates M party locals world (.ok locals : Except ε σ) locals world := ⟨_, alone_get⟩

theorem modify {f : σ → σ} :
    (Routine.modify f).Evaluates M party locals world (.ok () : Except ε Unit) (f locals) world :=
  ⟨_, alone_modify⟩

theorem issue {command : S.Command} {reply : S.Reply command} (answered : M.exec party command world = some (reply, world')) :
    (Routine.issue command).Evaluates M party locals world (.ok reply : Except ε _) locals world' :=
  ⟨_, alone_issue answered⟩

/-- On its own a routine comes to one end. -/
theorem unique {out out' : Except ε α} (first : m.Evaluates M party locals world out locals' world')
    (second : m.Evaluates M party locals world out' locals'' world'') : out = out' ∧ world' = world'' := by
  obtain ⟨_, first⟩ := first
  obtain ⟨_, second⟩ := second
  cases Option.some.inj (first.symm.trans second)
  exact ⟨rfl, rfl⟩

/-- One part after the other. -/
theorem bind {out : Except ε β} (first : m.Evaluates M party locals world (.ok a) locals' world')
    (rest : (f a).Evaluates M party locals' world' out locals'' world'') :
    (m >>= f).Evaluates M party locals world out locals'' world'' := by
  obtain ⟨earlier, first⟩ := first
  obtain ⟨later, rest⟩ := rest
  exact ⟨earlier ++ later, by rw [alone_bind_ok first, rest]; rfl⟩

theorem bind_raised (first : m.Evaluates M party locals world (.error error) locals' world') :
    (m >>= f).Evaluates M party locals world (.error error) locals' world' := by
  obtain ⟨commands, first⟩ := first
  exact ⟨commands, alone_bind_error first⟩

theorem tryCatch (attempt : m.Evaluates M party locals world (.ok a) locals' world') :
    (tryCatch m handle).Evaluates M party locals world (.ok a) locals' world' := by
  obtain ⟨commands, attempt⟩ := attempt
  exact ⟨commands, alone_tryCatch_ok attempt⟩

theorem tryCatch_raised {out : Except ε α} (attempt : m.Evaluates M party locals world (.error error) locals' world')
    (handled : (handle error).Evaluates M party locals' world' out locals'' world'') :
    (MonadExcept.tryCatch m handle).Evaluates M party locals world out locals'' world'' := by
  obtain ⟨earlier, attempt⟩ := attempt
  obtain ⟨later, handled⟩ := handled
  exact ⟨earlier ++ later, by rw [alone_tryCatch_error attempt, handled]; rfl⟩

/-- What is run in the end does not change an outcome unless it raises itself. -/
theorem ensuring {out : Except ε α} (body : m.Evaluates M party locals world out locals' world')
    (ends : last.Evaluates M party locals' world' (.ok ()) locals'' world'') :
    (m.ensuring last).Evaluates M party locals world out locals'' world'' := by
  obtain ⟨earlier, body⟩ := body
  obtain ⟨later, ends⟩ := ends
  refine ⟨earlier ++ later, ?_⟩
  simp only [Routine.alone] at body ends
  change M.alone party (Program.bind (m locals) _) world = _
  rw [Machine.alone_bind, body]
  simp only [Option.bind_some]
  rw [Machine.alone_bind, ends]
  simp [Machine.alone, Ending.after]

end Routine.Evaluates

end Interleaving
