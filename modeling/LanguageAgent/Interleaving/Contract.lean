import LanguageAgent.Interleaving.Protocol

/-! # Contracts

What a program promises of its commands as long as every reply is what it was
promised in turn. A world that keeps its side makes all programs keep theirs, and
then every command of every run is as the contract says.
-/

namespace Interleaving

/-- What may be relied on in a reply, and what is promised of a command. -/
structure Contract (S : Signature) where
  reply : ∀ command, S.Reply command → Prop
  command : S.Command → Prop

/-- As long as the replies are as promised, so are the commands, and the value returned
    is as `post` says. -/
def Program.Honours {S : Signature} {α : Type} (K : Contract S) :
    Program S α → (α → Prop) → Prop
  | .done a, post => post a
  | .issue command next, post =>
      K.command command ∧ ∀ reply, K.reply command reply → (next reply).Honours K post

namespace Program

variable {S : Signature} {K : Contract S} {α β : Type}

theorem Honours.mono {p : Program S α} {post weaker : α → Prop} (honours : p.Honours K post)
    (implies : ∀ a, post a → weaker a) : p.Honours K weaker := by
  induction p with
  | done a => exact implies a honours
  | issue command next ih =>
      obtain ⟨allowed, rest⟩ := honours
      exact ⟨allowed, fun reply promised => ih reply (rest reply promised)⟩

theorem Honours.bind {p : Program S α} {f : α → Program S β} {post : α → Prop} {last : β → Prop}
    (honours : p.Honours K post) (next : ∀ a, post a → (f a).Honours K last) :
    (p.bind f).Honours K last := by
  induction p with
  | done a => exact next a honours
  | issue command rest ih =>
      obtain ⟨allowed, goesOn⟩ := honours
      exact ⟨allowed, fun reply promised => ih reply (goesOn reply promised)⟩

theorem Honours.and {p : Program S α} {post other : α → Prop} (honours : p.Honours K post)
    (also : p.Honours K other) : p.Honours K fun a => post a ∧ other a := by
  induction p with
  | done a => exact ⟨honours, also⟩
  | issue command next ih =>
      obtain ⟨allowed, rest⟩ := honours
      exact ⟨allowed, fun reply promised => ih reply (rest reply promised) (also.2 reply promised)⟩

/-- Where every command can be answered as promised, the program comes to an end. -/
theorem Honours.ends {p : Program S α} {post : α → Prop} (honours : p.Honours K post)
    (served : ∀ command, ∃ reply, K.reply command reply) : ∃ a, post a := by
  induction p with
  | done a => exact ⟨a, honours⟩
  | issue command next ih =>
      obtain ⟨reply, promised⟩ := served command
      exact ih reply (honours.2 reply promised)

end Program

/-! ## Routines that maintain an invariant of their locals -/

/-- Started in locals that satisfy `I`, the routine honours the contract, leaves locals
    that satisfy `I`, and ends with a value in `good` or an exception in `E`. -/
def Routine.Maintains {S : Signature} {ε σ α : Type} (K : Contract S) (I : σ → Prop) (E : ε → Prop)
    (m : Routine S ε σ α) (good : α → Prop) : Prop :=
  ∀ s, I s → (m s).Honours K fun out => I out.2 ∧
    match out.1 with
    | .ok a => good a
    | .error e => E e

namespace Routine

variable {S : Signature} {K : Contract S} {ε σ α β : Type} {I : σ → Prop} {E : ε → Prop}
  {good : α → Prop} {last : β → Prop}

theorem Maintains.mono {m : Routine S ε σ α} {weaker : α → Prop} (maintains : m.Maintains K I E good)
    (implies : ∀ a, good a → weaker a) : m.Maintains K I E weaker := by
  intro s held
  apply (maintains s held).mono
  rintro ⟨out, after⟩ ⟨still, ended⟩
  cases out with
  | ok a => exact ⟨still, implies a ended⟩
  | error e => exact ⟨still, ended⟩

theorem maintains_pure {a : α} (ok : good a) :
    (Pure.pure a : Routine S ε σ α).Maintains K I E good := fun _ held => ⟨held, ok⟩

theorem maintains_throw {e : ε} (ok : E e) :
    (throw e : Routine S ε σ α).Maintains K I E good := fun _ held => ⟨held, ok⟩

theorem maintains_get : (Routine.get : Routine S ε σ σ).Maintains K I E I := fun _ held => ⟨held, held⟩

theorem maintains_modify {f : σ → σ} (kept : ∀ s, I s → I (f s)) :
    (Routine.modify f : Routine S ε σ Unit).Maintains K I E fun _ => True :=
  fun s held => ⟨kept s held, trivial⟩

theorem maintains_issue {command : S.Command} (allowed : K.command command) :
    (Routine.issue command : Routine S ε σ _).Maintains K I E (K.reply command) :=
  fun _ held => ⟨allowed, fun _ promised => ⟨held, promised⟩⟩

theorem Maintains.bind {m : Routine S ε σ α} {f : α → Routine S ε σ β}
    (maintains : m.Maintains K I E good) (next : ∀ a, good a → (f a).Maintains K I E last) :
    (m >>= f).Maintains K I E last := by
  intro s held
  apply (maintains s held).bind
  rintro ⟨out, after⟩ ⟨still, ended⟩
  cases out with
  | ok a => exact next a ended after still
  | error e => exact ⟨still, ended⟩

theorem Maintains.tryCatch {m : Routine S ε σ α} {handle : ε → Routine S ε σ α} (handled : ε → Prop)
    (maintains : m.Maintains K I handled good)
    (handles : ∀ e, handled e → (handle e).Maintains K I E good) :
    (tryCatch m handle).Maintains K I E good := by
  intro s held
  apply (maintains s held).bind
  rintro ⟨out, after⟩ ⟨still, ended⟩
  cases out with
  | ok a => exact ⟨still, ended⟩
  | error e => exact handles e ended after still

theorem Maintains.ensuring {m : Routine S ε σ α} {closing : Routine S ε σ Unit}
    (maintains : m.Maintains K I E good) (closes : closing.Maintains K I E fun _ => True) :
    (m.ensuring closing).Maintains K I E good := by
  intro s held
  apply (maintains s held).bind
  rintro ⟨out, after⟩ ⟨still, ended⟩
  apply (closes after still).bind
  rintro ⟨closed, final⟩ ⟨kept, closedEnd⟩
  cases closed with
  | ok _ => exact ⟨kept, ended⟩
  | error e => exact ⟨kept, closedEnd⟩

theorem maintains_ite {c : Prop} [Decidable c] {m n : Routine S ε σ α}
    (yes : c → m.Maintains K I E good) (no : ¬ c → n.Maintains K I E good) :
    (if c then m else n).Maintains K I E good := by
  split
  · exact yes ‹_›
  · exact no ‹_›

/-- Where what is promised are idle moves of a protocol, its phase stays the same. -/
theorem Maintains.obeys {Phase : Type} {P : Protocol S Phase} {phase : Phase} {m : Routine S ε σ α}
    (maintains : m.Maintains K I E good) (replies : ∀ command reply, K.reply command reply)
    (idle : ∀ command reply, K.command command → P phase command reply phase) {s : σ} (held : I s) :
    m.Obeys P (fun out s after => after = phase ∧ I s ∧
      match out with
      | .ok a => good a
      | .error e => E e) s phase := by
  have ends := maintains s held
  change (m s).Obeys P _ phase
  revert ends
  induction m s with
  | done out => exact fun ends => ⟨rfl, ends⟩
  | issue command next ih =>
      rintro ⟨promised, rest⟩ reply
      exact ⟨phase, idle command reply promised, ih reply (rest reply (replies command reply))⟩

end Routine

/-! ## Runs -/

/-- Where the world keeps the promises of its replies as long as the commands keep theirs,
    every command of a run is as promised, and so is every value returned. -/
theorem Machine.Reach.honoured {S : Signature} {Party World α : Type} [DecidableEq Party]
    {M : Machine S Party World} {guard : Guard S Party World} {K : Contract S}
    {post : Party → α → Prop} (Inv : World → Prop)
    (serves : ∀ trace world party command reply world', Inv world →
      guard trace world ⟨party, command⟩ → K.command command →
      M.exec party command world = some (reply, world') → K.reply command reply ∧ Inv world')
    {c d : Config S Party World α} (reach : M.Reach guard c d)
    (honours : ∀ party, (c.program party).Honours K (post party)) (start : Inv c.world)
    (logged : ∀ label ∈ c.trace, K.command label.command) :
    (∀ party, (d.program party).Honours K (post party)) ∧ Inv d.world ∧
      ∀ label ∈ d.trace, K.command label.command := by
  induction reach with
  | refl => exact ⟨honours, start, logged⟩
  | tail _ step ih =>
      obtain ⟨honours, inv, logged⟩ := ih
      cases step with
      | @issue trace world program party command next reply world' issues allowed answered =>
          have own := honours party
          simp only [issues] at own
          obtain ⟨promised, goesOn⟩ := own
          obtain ⟨served, inv'⟩ := serves trace world party command reply world' inv allowed promised answered
          refine ⟨fun other => ?_, inv', fun label member => ?_⟩
          · by_cases same : other = party
            · subst same
              simpa only [Function.update_self] using goesOn reply served
            · simpa only [Function.update_of_ne same] using honours other
          · rcases List.mem_append.mp member with earlier | last
            · exact logged label earlier
            · obtain rfl := List.mem_singleton.mp last
              exact promised

end Interleaving
