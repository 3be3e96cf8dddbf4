import LanguageAgent.Interleaving.Alone
import LanguageAgent.Interleaving.Protocol

/-! # One party runs ahead

Commands that neither see nor undo each other may change places. As long as what one party
has left to do may change places with every step of the others, each of their steps is also
a step after that party has finished.
-/

namespace Interleaving

namespace Machine

variable {S : Signature} {Party World α : Type} {M : Machine S Party World} {party other : Party}

/-- Both orders give the same replies and the same world. -/
def Independent (M : Machine S Party World) (first second : Label S Party) : Prop :=
  ∀ world reply₁ world₁ reply₂ world₂,
    M.exec first.party first.command world = some (reply₁, world₁) →
    M.exec second.party second.command world = some (reply₂, world₂) →
    ∃ both, M.exec second.party second.command world₁ = some (reply₂, both) ∧
      M.exec first.party first.command world₂ = some (reply₁, both)

/-- A command that may change places with all a program issues may come before it or after. -/
theorem alone_independent {p : Program S α} {ending : Ending S World α} {world world' : World}
    {command : S.Command} {reply : S.Reply command} (ends : M.alone party p world = some ending)
    (apart : ∀ own ∈ ending.commands, M.Independent ⟨party, own⟩ ⟨other, command⟩)
    (answered : M.exec other command world = some (reply, world')) :
    ∃ last, M.alone party p world' = some { ending with world := last } ∧
      M.exec other command ending.world = some (reply, last) := by
  induction p generalizing world world' ending with
  | done a =>
      obtain rfl := Option.some.inj ends
      exact ⟨world', rfl, answered⟩
  | issue own next ih =>
      simp only [alone] at ends ⊢
      split at ends
      · rename_i early between issued
        obtain ⟨rest, finishes, rfl⟩ := Option.map_eq_some_iff.mp ends
        obtain ⟨both, later, sooner⟩ :=
          apart own List.mem_cons_self world early between reply world' issued answered
        obtain ⟨last, same, after⟩ :=
          ih early finishes (fun own member => apart own (List.mem_cons_of_mem _ member)) later
        refine ⟨last, ?_, after⟩
        simp only [sooner, same]
        rfl
      · cases ends

variable [DecidableEq Party]

/-- `d` is where one party gets from `c` on its own, ending after these commands. -/
def Ahead (M : Machine S Party World) (party : Party) (commands : List S.Command)
    (c d : Config S Party World α) : Prop :=
  ∃ value, M.alone party (c.program party) c.world = some ⟨commands, d.world, value⟩ ∧
    d.program = Function.update c.program party (.done value)

variable {commands : List S.Command} {trace trace' : List (Label S Party)} {world : World}
  {program : Party → Program S α} {c d e : Config S Party World α}

/-- A party that has ended is nowhere else. -/
theorem Ahead.same (ahead : M.Ahead party commands c d) {value : α} (ended : c.program party = .done value) :
    commands = [] ∧ d.world = c.world ∧ d.program = c.program := by
  obtain ⟨last, ends, programs⟩ := ahead
  simp only [ended, alone, Option.some.injEq, Ending.mk.injEq] at ends
  obtain ⟨rfl, world, rfl⟩ := ends
  refine ⟨rfl, world.symm, ?_⟩
  rw [programs, ← ended, Function.update_eq_self]

/-- Where it gets depends on the world and on its own program. -/
theorem Ahead.unique {c' : Config S Party World α} {commands' : List S.Command} (world : c'.world = c.world)
    (program : c'.program = c.program) (ahead : M.Ahead party commands c d)
    (also : M.Ahead party commands' c' e) : e.world = d.world ∧ e.program = d.program := by
  obtain ⟨value, ends, programs⟩ := ahead
  obtain ⟨value', ends', programs'⟩ := also
  rw [world, program] at ends'
  have same := ends.symm.trans ends'
  simp only [Option.some.injEq, Ending.mk.injEq] at same
  obtain ⟨_, last, rfl⟩ := same
  refine ⟨last.symm, ?_⟩
  rw [programs, programs', program]

/-- Its own steps bring a party nearer to its end. -/
theorem Ahead.ownStep {command : S.Command} {next : S.Reply command → Program S α} {reply : S.Reply command}
    {world' : World} (trace' : List (Label S Party)) (ahead : M.Ahead party commands ⟨trace, world, program⟩ d)
    (issues : program party = .issue command next)
    (answered : M.exec party command world = some (reply, world')) :
    ∃ rest, commands = command :: rest ∧
      M.Ahead party rest ⟨trace', world', Function.update program party (next reply)⟩ d := by
  obtain ⟨value, ends, programs⟩ := ahead
  simp only [issues, alone, answered] at ends
  obtain ⟨⟨rest, last, result⟩, finishes, same⟩ := Option.map_eq_some_iff.mp ends
  simp only [Ending.after, Ending.mk.injEq] at same
  obtain ⟨rfl, rfl, rfl⟩ := same
  refine ⟨rest, rfl, result, ?_, ?_⟩
  · simpa only [Function.update_self] using finishes
  · rw [programs, Function.update_idem]

/-- A step of another party that may change places with all that is left can be taken ahead too. -/
theorem Ahead.otherStep {command : S.Command} {reply : S.Reply command} {world' : World}
    (next : S.Reply command → Program S α) (ahead : M.Ahead party commands ⟨trace, world, program⟩ d)
    (different : other ≠ party) (apart : ∀ own ∈ commands, M.Independent ⟨party, own⟩ ⟨other, command⟩)
    (answered : M.exec other command world = some (reply, world')) :
    ∃ last, M.exec other command d.world = some (reply, last) ∧
      M.Ahead party commands ⟨trace', world', Function.update program other (next reply)⟩
        ⟨d.trace ++ [⟨other, command⟩], last, Function.update d.program other (next reply)⟩ := by
  obtain ⟨value, ends, programs⟩ := ahead
  obtain ⟨last, same, after⟩ := alone_independent ends apart answered
  refine ⟨last, after, value, ?_, ?_⟩
  · simpa only [Function.update_of_ne different.symm] using same
  · rw [programs, Function.update_comm different]

/-- A run of one party alone that ends is the one it has. -/
theorem Reach.ahead {guard : Guard S Party World}
    (only : ∀ trace world label, guard trace world label → label.party = party)
    (reach : M.Reach guard c d) {value : α} (ended : d.program party = .done value) :
    ∃ commands, M.Ahead party commands c d := by
  induction reach using Relation.ReflTransGen.head_induction_on with
  | refl =>
      refine ⟨[], value, by rw [ended]; rfl, ?_⟩
      rw [← ended, Function.update_eq_self]
  | head step _ ih =>
      obtain ⟨commands, final, ends, programs⟩ := ih
      cases step with
      | @issue trace world program mover command next reply world' issues allowed answered =>
          obtain rfl : mover = party := only _ _ _ allowed
          refine ⟨command :: commands, final, ?_, ?_⟩
          · simp only [Function.update_self] at ends
            simp only [issues, alone, answered, ends]
            rfl
          · rw [programs, Function.update_idem]

end Machine

/-! ## What a protocol tells of the way to the end -/

namespace Program.Obeys

variable {S : Signature} {Party World Phase α : Type} {M : Machine S Party World} {party : Party}
  {P : Protocol S Phase} {p : Program S α} {post : α → Phase → Prop} {phase : Phase} {world : World}
  {ending : Ending S World α}

/-- Where the commands of the protocol are always answered, the program comes to its end. -/
theorem ends (served : ∀ phase command world, Ready P phase command → (M.exec party command world).isSome)
    (obeys : p.Obeys P post phase) : ∃ ending, M.alone party p world = some ending := by
  induction p generalizing phase world with
  | done a => exact ⟨_, rfl⟩
  | issue command next ih =>
      have ready : Ready P phase command := fun reply => (obeys reply).imp fun _ move => move.1
      obtain ⟨⟨reply, world'⟩, answered⟩ := Option.isSome_iff_exists.mp (served phase command world ready)
      obtain ⟨after, _, rest⟩ := obeys reply
      obtain ⟨ending, finishes⟩ : ∃ ending, M.alone party (next reply) world' = some ending := ih reply rest
      refine ⟨ending.after [command], ?_⟩
      simp only [Machine.alone, answered, finishes, Option.map_some]

/-- A bound on the commands of each phase bounds all that are still to come. -/
theorem alone_commands {K : Phase → S.Command → Prop}
    (moves : ∀ phase command reply after, P phase command reply after →
      K phase command ∧ ∀ later, K after later → K phase later)
    (obeys : p.Obeys P post phase) (ends : M.alone party p world = some ending) :
    ∀ own ∈ ending.commands, K phase own := by
  induction p generalizing phase world ending with
  | done a =>
      obtain rfl := Option.some.inj ends
      intro own member
      cases member
  | issue command next ih =>
      simp only [Machine.alone] at ends
      split at ends
      · rename_i reply world' _
        obtain ⟨rest, finishes, rfl⟩ := Option.map_eq_some_iff.mp ends
        obtain ⟨after, move, obeyed⟩ := obeys reply
        obtain ⟨now, later⟩ := moves _ _ _ _ move
        intro own member
        rcases List.mem_cons.mp member with rfl | member
        · exact now
        · exact later own (ih reply obeyed finishes own member)
      · cases ends

/-- What every move keeps still holds at the end. -/
theorem alone_invariant (Inv : Phase → World → Prop)
    (kept : ∀ phase world command reply world' after, Inv phase world → P phase command reply after →
      M.exec party command world = some (reply, world') → Inv after world')
    (obeys : p.Obeys P post phase) (ends : M.alone party p world = some ending) (start : Inv phase world) :
    ∃ after, post ending.value after ∧ Inv after ending.world := by
  induction p generalizing phase world ending with
  | done a =>
      obtain rfl := Option.some.inj ends
      exact ⟨phase, obeys, start⟩
  | issue command next ih =>
      simp only [Machine.alone] at ends
      split at ends
      · rename_i reply world' answered
        obtain ⟨rest, finishes, rfl⟩ := Option.map_eq_some_iff.mp ends
        obtain ⟨after, move, obeyed⟩ := obeys reply
        obtain ⟨last, held⟩ := ih reply obeyed finishes (kept _ _ _ _ _ _ start move answered)
        exact ⟨last, held⟩
      · cases ends

end Program.Obeys

end Interleaving
