import LanguageAgent.Interleaving.Machine

/-! # Protocols and the invariant rule

A protocol says which commands a party may issue in each of its phases and where
the replies take it. A program that obeys its protocol can be forgotten: what holds
along all runs is then proved over the phases alone, one move at a time.
-/

namespace Interleaving

/-- The moves of one party: a command, its reply and the phase they lead to. -/
abbrev Protocol (S : Signature) (Phase : Type) :=
  Phase → (command : S.Command) → S.Reply command → Phase → Prop

/-- Whatever the replies, the program makes only moves of the protocol, and it
    returns only in a phase that fits the value. -/
def Program.Obeys {S : Signature} {Phase α : Type} (P : Protocol S Phase) :
    Program S α → (α → Phase → Prop) → Phase → Prop
  | .done a, post, phase => post a phase
  | .issue command next, post, phase =>
      ∀ reply, ∃ after, P phase command reply after ∧ (next reply).Obeys P post after

namespace Program

variable {S : Signature} {Phase α β : Type} {P : Protocol S Phase}

@[simp] theorem obeys_done {a : α} {post : α → Phase → Prop} {phase : Phase} :
    (Program.done a : Program S α).Obeys P post phase ↔ post a phase := Iff.rfl

@[simp] theorem obeys_issue {command : S.Command} {next : S.Reply command → Program S α}
    {post : α → Phase → Prop} {phase : Phase} :
    (Program.issue command next).Obeys P post phase ↔
      ∀ reply, ∃ after, P phase command reply after ∧ (next reply).Obeys P post after := Iff.rfl

theorem Obeys.mono {p : Program S α} {post weaker : α → Phase → Prop} {phase : Phase}
    (obeys : p.Obeys P post phase) (implies : ∀ a phase, post a phase → weaker a phase) :
    p.Obeys P weaker phase := by
  induction p generalizing phase with
  | done a => exact implies a phase obeys
  | issue command next ih =>
      intro reply
      obtain ⟨after, move, rest⟩ := obeys reply
      exact ⟨after, move, ih reply rest⟩

theorem obeys_bind {p : Program S α} {f : α → Program S β} {post : β → Phase → Prop}
    {phase : Phase} :
    (p.bind f).Obeys P post phase ↔ p.Obeys P (fun a after => (f a).Obeys P post after) phase := by
  induction p generalizing phase with
  | done a => exact Iff.rfl
  | issue command next ih =>
      simp only [issue_bind, obeys_issue]
      exact forall_congr' fun reply => exists_congr fun after => and_congr_right fun _ => ih reply

/-- A command issued in this phase has a move for each of its replies. -/
def Ready (P : Protocol S Phase) (phase : Phase) (command : S.Command) : Prop :=
  ∀ reply, ∃ after, P phase command reply after

/-- A program that obeys one protocol obeys another that can follow each of its moves. -/
theorem Obeys.simulate {Other : Type} {Q : Protocol S Other} (R : Phase → Other → Prop)
    {p : Program S α} {post : α → Phase → Prop} {target : α → Other → Prop} {phase : Phase}
    {other : Other} (obeys : p.Obeys P post phase) (related : R phase other)
    (follows : ∀ phase other command reply after, R phase other → Ready P phase command →
      P phase command reply after → ∃ next, Q other command reply next ∧ R after next)
    (ends : ∀ a phase other, R phase other → post a phase → target a other) :
    p.Obeys Q target other := by
  induction p generalizing phase other with
  | done a => exact ends a phase other related obeys
  | issue command next ih =>
      intro reply
      have ready : Ready P phase command := fun reply =>
        (obeys reply).imp fun after move => move.1
      obtain ⟨after, move, rest⟩ := obeys reply
      obtain ⟨following, moved, still⟩ := follows phase other command reply after related ready move
      exact ⟨following, moved, ih reply rest still⟩

/-- No program obeys two protocols whose moves never agree on an end. -/
theorem Obeys.not_both {Other : Type} {Q : Protocol S Other} (R : Phase → Other → Prop)
    {p : Program S α} {post : α → Phase → Prop} {target : α → Other → Prop} {phase : Phase}
    {other : Other} (obeys : p.Obeys P post phase) (related : R phase other)
    (parts : ∀ phase other command, R phase other → Ready P phase command → Ready Q other command →
      ∃ reply, ∀ after next, P phase command reply after → Q other command reply next → R after next)
    (ends : ∀ a phase other, R phase other → post a phase → ¬ target a other) :
    ¬ p.Obeys Q target other := by
  induction p generalizing phase other with
  | done a => exact ends a phase other related obeys
  | issue command next ih =>
      intro obeyed
      obtain ⟨reply, agree⟩ := parts phase other command related
        (fun reply => (obeys reply).imp fun after move => move.1)
        (fun reply => (obeyed reply).imp fun after move => move.1)
      obtain ⟨after, move, rest⟩ := obeys reply
      obtain ⟨following, moved, rest'⟩ := obeyed reply
      exact ih reply rest (agree after following move moved) rest'

end Program

/-- The protocol followed from a local state, with the outcome and the state it ends in. -/
def Routine.Obeys {S : Signature} {ε σ α Phase : Type} (P : Protocol S Phase)
    (m : Routine S ε σ α) (post : Except ε α → σ → Phase → Prop) (s : σ) (phase : Phase) : Prop :=
  (m s).Obeys P (fun out after => post out.1 out.2 after) phase

namespace Routine

variable {S : Signature} {ε σ α β Phase : Type} {P : Protocol S Phase}
  {post : Except ε α → σ → Phase → Prop} {s : σ} {phase : Phase}

theorem Obeys.mono {m : Routine S ε σ α} {weaker : Except ε α → σ → Phase → Prop}
    (obeys : m.Obeys P post s phase)
    (implies : ∀ out s phase, post out s phase → weaker out s phase) :
    m.Obeys P weaker s phase :=
  Program.Obeys.mono obeys fun out after => implies out.1 out.2 after

@[simp] theorem obeys_pure {a : α} :
    (Pure.pure a : Routine S ε σ α).Obeys P post s phase ↔ post (.ok a) s phase := Iff.rfl

@[simp] theorem obeys_throw {e : ε} :
    (throw e : Routine S ε σ α).Obeys P post s phase ↔ post (.error e) s phase := Iff.rfl

@[simp] theorem obeys_get {post : Except ε σ → σ → Phase → Prop} :
    (Routine.get : Routine S ε σ σ).Obeys P post s phase ↔ post (.ok s) s phase := Iff.rfl

@[simp] theorem obeys_modify {f : σ → σ} {post : Except ε Unit → σ → Phase → Prop} :
    (Routine.modify f : Routine S ε σ Unit).Obeys P post s phase ↔ post (.ok ()) (f s) phase :=
  Iff.rfl

@[simp] theorem obeys_issue {command : S.Command} {post : Except ε (S.Reply command) → σ → Phase → Prop} :
    (Routine.issue command : Routine S ε σ _).Obeys P post s phase ↔
      ∀ reply, ∃ after, P phase command reply after ∧ post (.ok reply) s after := Iff.rfl

/-- After a first part, an exception ends the routine and a value continues it. -/
def resume (f : α → Routine S ε σ β) (P : Protocol S Phase) (post : Except ε β → σ → Phase → Prop) :
    Except ε α → σ → Phase → Prop
  | .ok a, s, phase => (f a).Obeys P post s phase
  | .error e, s, phase => post (.error e) s phase

@[simp] theorem resume_ok {f : α → Routine S ε σ β} {post : Except ε β → σ → Phase → Prop} {a : α} :
    resume f P post (.ok a) s phase ↔ (f a).Obeys P post s phase := Iff.rfl

@[simp] theorem resume_error {f : α → Routine S ε σ β} {post : Except ε β → σ → Phase → Prop}
    {e : ε} : resume f P post (.error e) s phase ↔ post (.error e) s phase := Iff.rfl

@[simp] theorem obeys_bind {m : Routine S ε σ α} {f : α → Routine S ε σ β}
    {post : Except ε β → σ → Phase → Prop} :
    (m >>= f).Obeys P post s phase ↔ m.Obeys P (resume f P post) s phase := by
  change ((m s).bind _).Obeys P _ phase ↔ _
  rw [Program.obeys_bind]
  constructor <;> intro obeys <;> refine Program.Obeys.mono obeys ?_ <;>
    rintro ⟨out, after⟩ phase <;> cases out <;> exact id

/-- After the guarded part, an exception goes to the handler and a value is kept. -/
def rescue (handle : ε → Routine S ε σ α) (P : Protocol S Phase)
    (post : Except ε α → σ → Phase → Prop) : Except ε α → σ → Phase → Prop
  | .ok a, s, phase => post (.ok a) s phase
  | .error e, s, phase => (handle e).Obeys P post s phase

@[simp] theorem rescue_ok {handle : ε → Routine S ε σ α} {a : α} :
    rescue handle P post (.ok a) s phase ↔ post (.ok a) s phase := Iff.rfl

@[simp] theorem rescue_error {handle : ε → Routine S ε σ α} {e : ε} :
    rescue handle P post (.error e) s phase ↔ (handle e).Obeys P post s phase := Iff.rfl

@[simp] theorem obeys_tryCatch {m : Routine S ε σ α} {handle : ε → Routine S ε σ α} :
    (tryCatch m handle).Obeys P post s phase ↔ m.Obeys P (rescue handle P post) s phase := by
  change ((m s).bind _).Obeys P _ phase ↔ _
  rw [Program.obeys_bind]
  constructor <;> intro obeys <;> refine Program.Obeys.mono obeys ?_ <;>
    rintro ⟨out, after⟩ phase <;> cases out <;> exact id

/-- After `m`, the closing part runs and its own exception replaces the outcome. -/
def closing (last : Routine S ε σ Unit) (P : Protocol S Phase)
    (post : Except ε α → σ → Phase → Prop) (out : Except ε α) (s : σ) (phase : Phase) : Prop :=
  last.Obeys P (fun closed after phase =>
    match closed with
    | .ok _ => post out after phase
    | .error e => post (.error e) after phase) s phase

@[simp] theorem obeys_ensuring {m : Routine S ε σ α} {last : Routine S ε σ Unit} :
    (m.ensuring last).Obeys P post s phase ↔ m.Obeys P (closing last P post) s phase := by
  change ((m s).bind _).Obeys P _ phase ↔ _
  rw [Program.obeys_bind]
  constructor <;> intro obeys <;> refine Program.Obeys.mono obeys ?_ <;> rintro ⟨out, after⟩ phase
  · intro h
    refine Program.Obeys.mono (Program.obeys_bind.mp h) ?_
    rintro ⟨closed, final⟩ phase
    cases closed <;> exact id
  · intro h
    refine Program.obeys_bind.mpr (Program.Obeys.mono h ?_)
    rintro ⟨closed, final⟩ phase
    cases closed <;> exact id

@[simp] theorem obeys_ite {c : Prop} [Decidable c] {m n : Routine S ε σ α} :
    (if c then m else n).Obeys P post s phase ↔
      (c → m.Obeys P post s phase) ∧ (¬ c → n.Obeys P post s phase) := by
  split <;> simp [*]

end Routine

/-- Every party is in a phase its remaining program obeys. -/
def Config.Follows {S : Signature} {Party World α : Type} {Phase : Party → Type}
    (P : ∀ party, Protocol S (Phase party)) (post : ∀ party, α → Phase party → Prop)
    (c : Config S Party World α) (phase : ∀ party, Phase party) : Prop :=
  ∀ party, (c.program party).Obeys (P party) (post party) (phase party)

/-- An invariant of the history, the world and the phases holds along every
    guarded run, once each move keeps it. -/
theorem Machine.Reach.invariant {S : Signature} {Party World α : Type} {Phase : Party → Type}
    [DecidableEq Party] {M : Machine S Party World} {guard : Guard S Party World}
    {P : ∀ party, Protocol S (Phase party)} {post : ∀ party, α → Phase party → Prop}
    (Inv : List (Label S Party) → World → (∀ party, Phase party) → Prop)
    (kept : ∀ trace world phase party command reply world' after,
      Inv trace world phase → guard trace world ⟨party, command⟩ →
      P party (phase party) command reply after → M.exec party command world = some (reply, world') →
      Inv (trace ++ [⟨party, command⟩]) world' (Function.update phase party after))
    {c d : Config S Party World α} (reach : M.Reach guard c d) {phase : ∀ party, Phase party}
    (follows : c.Follows P post phase) (start : Inv c.trace c.world phase) :
    ∃ phase', d.Follows P post phase' ∧ Inv d.trace d.world phase' := by
  induction reach with
  | refl => exact ⟨phase, follows, start⟩
  | tail _ step ih =>
      obtain ⟨current, obeyed, inv⟩ := ih
      cases step with
      | @issue trace world program party command next reply world' issues allowed answered =>
          have own := obeyed party
          simp only [issues, Program.obeys_issue] at own
          obtain ⟨after, move, rest⟩ := own reply
          refine ⟨Function.update current party after, ?_,
            kept trace world current party command reply world' after inv allowed move answered⟩
          intro other
          by_cases same : other = party
          · subst same
            simpa only [Function.update_self] using rest
          · simpa only [Function.update_of_ne same] using obeyed other

end Interleaving
