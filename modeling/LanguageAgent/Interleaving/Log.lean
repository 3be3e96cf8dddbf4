import LanguageAgent.Interleaving.Protocol

/-! # What the parties have been told

A log holds the commands a party has issued, each with its reply. What a program does is
often said best about its log; what a reply was worth, about the world that gave it.
-/

namespace Interleaving

/-- A command with its reply. -/
structure Answer (S : Signature) where
  command : S.Command
  reply : S.Reply command

abbrev Log (S : Signature) := List (Answer S)

/-- The protocol whose phases are the logs, with the commands that may follow each. -/
def logging {S : Signature} (allowed : Log S → S.Command → Prop) : Protocol S (Log S) :=
  fun log command reply after => allowed log command ∧ after = log ++ [⟨command, reply⟩]

/-- Each command was allowed after those before it. -/
def Log.Allowed {S : Signature} (allowed : Log S → S.Command → Prop) (log : Log S) : Prop :=
  ∀ before answer rest, log = before ++ answer :: rest → allowed before answer.command

theorem Log.Allowed.append {S : Signature} {allowed : Log S → S.Command → Prop} {log : Log S} {answer : Answer S}
    (earlier : log.Allowed allowed) (last : allowed log answer.command) : Log.Allowed allowed (log ++ [answer]) := by
  intro before other rest same
  rcases List.eq_nil_or_concat rest with rfl | ⟨between, final, rfl⟩
  · obtain ⟨rfl, final⟩ := List.append_inj' same rfl
    rwa [← List.singleton_inj.mp final]
  · rw [List.concat_eq_append, ← List.cons_append, ← List.append_assoc] at same
    exact earlier before other between (List.append_inj' same rfl).1

namespace Machine

variable {S : Signature} {Party World α : Type} [DecidableEq Party]

/-- A run with the logs it leaves. -/
inductive Logged (M : Machine S Party World) (guard : Guard S Party World) (c : Config S Party World α) :
    Config S Party World α → (Party → Log S) → Prop where
  | start : Logged M guard c c fun _ => []
  | answered {trace world program logs party command next reply world'}
      (earlier : Logged M guard c ⟨trace, world, program⟩ logs) (issues : program party = .issue command next)
      (allowed : guard trace world ⟨party, command⟩) (answered : M.exec party command world = some (reply, world')) :
      Logged M guard c ⟨trace ++ [⟨party, command⟩], world', Function.update program party (next reply)⟩
        (Function.update logs party (logs party ++ [⟨command, reply⟩]))

/-- In a step of the party in the run from `c` to `d` the world gave it this answer. -/
def Answered (M : Machine S Party World) (guard : Guard S Party World) (c d : Config S Party World α) (party : Party)
    (answer : Answer S) : Prop :=
  ∃ before after : Config S Party World α, M.Reach guard c before ∧ M.Step guard before after ∧
    after.trace = before.trace ++ [⟨party, answer.command⟩] ∧
    M.exec party answer.command before.world = some (answer.reply, after.world) ∧ M.Reach guard after d

variable {M : Machine S Party World} {guard : Guard S Party World} {c d : Config S Party World α}
  {logs : Party → Log S} {party : Party}

theorem Reach.logged (reach : M.Reach guard c d) : ∃ logs, M.Logged guard c d logs := by
  induction reach with
  | refl => exact ⟨_, .start⟩
  | tail _ step ih =>
      obtain ⟨logs, logged⟩ := ih
      cases step with
      | issue issues allowed answered => exact ⟨_, logged.answered issues allowed answered⟩

theorem Logged.reach (logged : M.Logged guard c d logs) : M.Reach guard c d := by
  induction logged with
  | start => exact .refl
  | answered _ issues allowed answered ih => exact ih.tail (.issue issues allowed answered)

/-- What holds of the world and the logs, once every answer keeps it. -/
theorem Logged.invariant (Inv : World → (Party → Log S) → Prop) (start : Inv c.world fun _ => [])
    (kept : ∀ world logs party command reply world', Inv world logs → M.exec party command world = some (reply, world') →
      Inv world' (Function.update logs party (logs party ++ [⟨command, reply⟩])))
    (logged : M.Logged guard c d logs) : Inv d.world logs := by
  induction logged with
  | start => exact start
  | answered _ _ _ answered ih => exact kept _ _ _ _ _ _ ih answered

/-- A program that obeys a protocol of logs obeys it at its log. -/
theorem Logged.obeys {allowed : Log S → S.Command → Prop} {post : α → Log S → Prop} (logged : M.Logged guard c d logs)
    (party : Party) (obeys : (c.program party).Obeys (logging allowed) post []) :
    (logs party).Allowed allowed ∧ (d.program party).Obeys (logging allowed) post (logs party) := by
  induction logged with
  | start => exact ⟨fun before answer rest same => by simp at same, obeys⟩
  | @answered trace world program logs other command next reply world' _ issues _ _ ih =>
      by_cases same : party = other
      · subst same
        obtain ⟨earlier, now⟩ := ih
        simp only [issues, Program.obeys_issue] at now
        obtain ⟨after, ⟨allowed, rfl⟩, rest⟩ := now reply
        simp only [Function.update_self]
        exact ⟨earlier.append allowed, rest⟩
      · simpa only [Function.update_of_ne same] using ih

/-- Whatever is in a log was answered. -/
theorem Logged.mem (logged : M.Logged guard c d logs) : ∀ answer ∈ logs party, M.Answered guard c d party answer := by
  induction logged with
  | start => simp
  | @answered trace world program logs other command next reply world' earlier issues allowed answered ih =>
      have step : M.Step guard _ _ := .issue issues allowed answered
      have grown : ∀ answer, M.Answered guard c _ party answer → M.Answered guard c _ party answer :=
        fun answer ⟨before, after, first, taken, own, given, rest⟩ =>
          ⟨before, after, first, taken, own, given, rest.tail step⟩
      intro answer member
      by_cases same : party = other
      · subst same
        simp only [Function.update_self, List.mem_append, List.mem_singleton] at member
        rcases member with old | rfl
        · exact grown answer (ih answer old)
        · exact ⟨_, _, earlier.reach, step, rfl, answered, .refl⟩
      · simp only [Function.update_of_ne same] at member
        exact grown answer (ih answer member)

/-- How the world changes along a run, once every answer changes it so. -/
theorem Reach.world (R : World → World → Prop)
    (changes : ∀ party command reply world world', M.exec party command world = some (reply, world') →
      Relation.ReflTransGen R world world')
    (reach : M.Reach guard c d) : Relation.ReflTransGen R c.world d.world := by
  induction reach with
  | refl => exact .refl
  | tail _ step ih =>
      cases step with
      | issue _ _ answered => exact ih.trans (changes _ _ _ _ _ answered)

end Machine

end Interleaving
