import LanguageAgent.Webui.Authentication

/-! # Failure counters that expire

`INCR` and `EXPIRE` are two commands, and a connection may break between them. A counter
without a deadline is then left behind, unless it was not there to be counted from one.
-/

namespace LanguageAgent.Webui

open Expiring Interleaving

/-! ## Calls whose connection may break -/

inductive CounterCall where
  | recordFailure
  | clear
  deriving DecidableEq

/-- A call of the Redis store. -/
def CounterCall.program (settings : AuthRateLimitSettings) (username : String) : CounterCall → AuthProgram Unit
  | .recordFailure => (StoreKind.redis.recordFailure settings username).bind fun _ => .done ()
  | .clear => StoreKind.redis.clear username

/-- What each caller does, and after how many commands its connection breaks. -/
structure CounterCalls where
  call : Nat → CounterCall
  breaks : Nat → Option Nat

abbrev CounterSystem (Time : Type) := Config authSignature Nat (AuthWorld Time) (Option Unit)

variable {Time : Type} [Ring Time] [LinearOrder Time]

/-- Nothing is counted yet, and each call is about to start. -/
def counting (settings : AuthRateLimitSettings) (username : String) (calls : CounterCalls) : CounterSystem Time :=
  ⟨[], {}, fun call => ((calls.call call).program settings username).breakingAfter (calls.breaks call)⟩

/-- No call has issued a command without having ended. -/
def Quiet (d : CounterSystem Time) : Prop :=
  ∀ call, (∃ ended, d.program call = .done ended) ∨ ∀ label ∈ d.trace, label.party ≠ call

/-- A connection breaks after the `INCR` of a call only if there was a counter. -/
def windowsStart (env : AuthEnvironment Time) (username : String) (calls : CounterCalls) :
    Guard authSignature Nat (AuthWorld Time) := fun _ w label =>
  label.command = .incr (RedisAuthAttemptStore.counterKey username) →
    w.redis.find (w.now env) (RedisAuthAttemptStore.counterKey username) = none →
    calls.breaks label.party ≠ some 1

instance (env : AuthEnvironment Time) (username : String) (calls : CounterCalls)
    (trace : List (Label authSignature Nat)) (w : AuthWorld Time) (label : Label authSignature Nat) :
    Decidable (windowsStart env username calls trace w label) :=
  inferInstanceAs (Decidable (label.command = _ → w.redis.find (w.now env) _ = none →
    calls.breaks label.party ≠ some 1))

/-! ## Who still has to set a deadline -/

inductive CounterPhase where
  | fresh
  /-- The first failure is counted, and its `EXPIRE` comes next. -/
  | owing
  | settled
  deriving DecidableEq

open RedisAuthAttemptStore in
inductive CounterMoves (settings : AuthRateLimitSettings) (username : String) (breaks : Option Nat) :
    Protocol authSignature CounterPhase where
  | delete : CounterMoves settings username breaks .fresh (.delete [counterKey username, lockoutKey username]) ()
      .settled
  | countFirst (survives : breaks ≠ some 1) :
      CounterMoves settings username breaks .fresh (.incr (counterKey username)) 1 .owing
  | countBroken (broken : breaks = some 1) :
      CounterMoves settings username breaks .fresh (.incr (counterKey username)) 1 .settled
  | count {failures} (later : failures ≠ 1) :
      CounterMoves settings username breaks .fresh (.incr (counterKey username)) failures .settled
  | expire : CounterMoves settings username breaks .owing
      (.expire (counterKey username) settings.rateLimitWindowSeconds) () .settled
  | lock : CounterMoves settings username breaks .settled
      (.setFor (lockoutKey username) settings.lockoutSeconds) () .settled

section Conformance

variable {settings : AuthRateLimitSettings} {username : String} {breaks : Option Nat}

private theorem lock_settled (failures : Nat) (left : Option Nat) :
    (((StoreKind.lock settings username failures).bind fun _ => .done ()).breakingAfter left).Obeys
      (CounterMoves settings username breaks) (fun _ phase => phase ≠ .owing) .settled := by
  unfold StoreKind.lock
  split
  · cases left with
    | none => exact fun _ => ⟨.settled, .lock, nofun⟩
    | some left =>
        cases left with
        | zero => exact nofun
        | succ left => exact fun _ => ⟨.settled, .lock, by simp⟩
  · simp

/-- Whenever its connection breaks, a call that ends owes no `EXPIRE` unless it broke right
    after a first `INCR`. -/
theorem program_obeys (call : CounterCall) :
    ((call.program settings username).breakingAfter breaks).Obeys (CounterMoves settings username breaks)
      (fun _ phase => phase ≠ .owing) .fresh := by
  cases call with
  | clear =>
      rcases breaks with _ | _ | left
      · exact fun _ => ⟨.settled, .delete, nofun⟩
      · exact nofun
      · exact fun _ => ⟨.settled, .delete, by simp⟩
  | recordFailure =>
      rcases breaks with _ | _ | left
      · intro failures
        by_cases first : failures = 1
        · subst first
          exact ⟨.owing, .countFirst nofun, fun _ => ⟨.settled, .expire, lock_settled 1 none⟩⟩
        · refine ⟨.settled, .count first, ?_⟩
          simp only [first, if_false]
          exact lock_settled failures none
      · exact nofun
      · intro failures
        by_cases first : failures = 1
        · subst first
          cases left with
          | zero => exact ⟨.settled, .countBroken rfl, nofun⟩
          | succ left =>
              exact ⟨.owing, .countFirst (by simp), fun _ => ⟨.settled, .expire, lock_settled 1 (some left)⟩⟩
        · refine ⟨.settled, .count first, ?_⟩
          simp only [first, if_false]
          exact lock_settled failures (some left)

end Conformance

/-! ## The invariant -/

/-- A counter without a deadline is owed one by a call that is under way. -/
structure Owed (username : String) (trace : List (Label authSignature Nat)) (w : AuthWorld Time)
    (phase : Nat → CounterPhase) : Prop where
  counter : ∀ entry, w.redis (RedisAuthAttemptStore.counterKey username) = some entry → entry.deadline = none →
    ∃ call, phase call = .owing
  underWay : ∀ call, phase call = .owing → ∃ label ∈ trace, label.party = call

section Steps

variable {settings : AuthRateLimitSettings} {username : String} {env : AuthEnvironment Time} {calls : CounterCalls}
  {trace : List (Label authSignature Nat)} {w w' : AuthWorld Time} {phase : Nat → CounterPhase} {call : Nat}
  {command : AuthCommand} {reply : command.Reply} {after : CounterPhase}

omit [Ring Time] [LinearOrder Time] in
/-- A call that owed nothing is not the one that does. -/
private theorem owing_elsewhere {current : CounterPhase} (here : phase call = current) (clear : current ≠ .owing)
    (owing : ∃ other, phase other = .owing) : ∃ other, Function.update phase call after other = .owing := by
  obtain ⟨other, owes⟩ := owing
  have different : other ≠ call := by
    rintro rfl
    exact clear (here.symm.trans owes)
  exact ⟨other, by rw [Function.update_of_ne different, owes]⟩

omit [Ring Time] in
/-- A counter that was there keeps its deadline when it counts on. -/
private theorem incr_deadline {now : Time} {key : String} {keys : RedisAuthAttemptStore Time} {entry : Entry Nat Time}
    (there : keys.find now key ≠ none) (stored : (Keys.incr keys now key).2 key = some entry) :
    ∃ earlier, keys key = some earlier ∧ earlier.deadline = entry.deadline := by
  obtain ⟨earlier, found⟩ := Option.ne_none_iff_exists'.mp there
  simp only [Keys.incr, Function.update_self, found, incremented] at stored
  obtain rfl := Option.some.inj stored
  exact ⟨earlier, (Option.filter_eq_some_iff.mp found).1, rfl⟩

theorem owed_step (inv : Owed username trace w phase)
    (allowed : windowsStart env username calls trace w ⟨call, command⟩)
    (move : CounterMoves settings username (calls.breaks call) (phase call) command reply after)
    (answered : (authMachine settings env).exec call command w = some (reply, w')) :
    Owed username (trace ++ [⟨call, command⟩]) w' (Function.update phase call after) := by
  constructor
  · intro entry stored undated
    generalize here : phase call = current at move
    cases move with
    | delete =>
        cases answered
        simp [Keys.delete, RedisAuthAttemptStore.counterKey_ne_lockoutKey] at stored
    | countFirst => exact ⟨call, Function.update_self ..⟩
    | countBroken broken =>
        obtain rfl := (Prod.mk.inj (Option.some.inj answered)).2
        have there : w.redis.find (w.now env) (RedisAuthAttemptStore.counterKey username) ≠ none :=
          fun absent => allowed rfl absent broken
        obtain ⟨earlier, was, same⟩ := incr_deadline there stored
        exact owing_elsewhere here (fun same => by cases same) (inv.counter earlier was (same.trans undated))
    | count later =>
        cases answered
        have there : w.redis.find (w.now env) (RedisAuthAttemptStore.counterKey username) ≠ none := by
          intro absent
          apply later
          simp only [Keys.incr, AuthWorld.tick, absent, incremented]
        obtain ⟨earlier, was, same⟩ := incr_deadline there stored
        exact owing_elsewhere here (fun same => by cases same) (inv.counter earlier was (same.trans undated))
    | expire =>
        cases answered
        simp only [AuthWorld.record, Keys.expire, Function.update_self] at stored
        obtain ⟨_, _, rfl⟩ := Option.map_eq_some_iff.mp stored
        cases undated
    | lock =>
        cases answered
        simp only [AuthWorld.record, Keys.setFor,
          Function.update_of_ne (RedisAuthAttemptStore.counterKey_ne_lockoutKey _ _)] at stored
        exact owing_elsewhere here (fun same => by cases same) (inv.counter entry stored undated)
  · intro other owes
    by_cases same : other = call
    · subst same
      exact ⟨_, List.mem_append_right _ List.mem_cons_self, rfl⟩
    · rw [Function.update_of_ne same] at owes
      obtain ⟨label, member, own⟩ := inv.underWay other owes
      exact ⟨label, List.mem_append_left _ member, own⟩

/-- Where no connection breaks between the `INCR` that creates a counter and its `EXPIRE`,
    the counter is gone or has a deadline whenever no call is under way. -/
theorem counter_expires {d : CounterSystem Time}
    (run : (authMachine settings env).Reach (windowsStart env username calls) (counting settings username calls) d)
    (quiet : Quiet d) {entry : Entry Nat Time}
    (stored : d.world.redis (RedisAuthAttemptStore.counterKey username) = some entry) : entry.deadline ≠ none := by
  obtain ⟨phase, follows, inv⟩ := run.invariant (fun trace w phase => Owed username trace w phase)
    (fun _ _ _ _ _ _ _ _ inv allowed move answered => owed_step inv allowed move answered)
    (fun call => program_obeys (calls.call call)) ⟨nofun, nofun⟩
  intro undated
  obtain ⟨call, owes⟩ := inv.counter entry stored undated
  rcases quiet call with ⟨ended, done⟩ | silent
  · have obeys := follows call
    rw [done] at obeys
    exact obeys owes
  · obtain ⟨label, member, own⟩ := inv.underWay call owes
    exact silent label member own

end Steps

/-! ## Two failures -/

/-- Two failed logins, of which the connection of the first breaks after so many commands. -/
def twoFailures (breaks : Option Nat) : CounterCalls where
  call _ := .recordFailure
  breaks call := if call = 0 then breaks else none

/-- Commands a second apart. -/
def everySecond : AuthEnvironment Int where
  clock ticks := ticks
  backend _ := .authenticationError

/-- What a finished run shows: who took its steps, whether they have ended, and the counter. -/
def shown (d : CounterSystem Int) : List Nat × List Bool × Option (Entry Nat Int) :=
  (d.trace.map Label.party,
    d.trace.map fun label => match d.program label.party with
      | .done _ => true
      | .issue _ _ => false,
    d.world.redis (RedisAuthAttemptStore.counterKey "alice"))

theorem quiet_of_shown {d : CounterSystem Int} {parties : List Nat} {ended : List Bool}
    {counter : Option (Entry Nat Int)} (same : shown d = (parties, ended, counter))
    (allEnded : ∀ stopped ∈ ended, stopped = true) : Quiet d := by
  intro call
  by_cases acted : ∃ label ∈ d.trace, label.party = call
  · obtain ⟨label, member, rfl⟩ := acted
    left
    have stopped := allEnded _ ((Prod.mk.inj (Prod.mk.inj same).2).1 ▸ List.mem_map_of_mem member)
    cases program : d.program label.party with
    | done ended => exact ⟨ended, rfl⟩
    | issue command next => simp [program] at stopped
  · right
    intro label member own
    exact acted ⟨label, member, own⟩

theorem counter_expires_demo : ∃ d : CounterSystem Int, Quiet d ∧
    d.world.redis (RedisAuthAttemptStore.counterKey "alice") = some ⟨2, some 301⟩ ∧ some (301 : Int) ≠ none := by
  obtain ⟨d, run, seen⟩ := Machine.schedule_observed (authMachine ⟨5, 300, 300⟩ everySecond)
    (windowsStart everySecond "alice" (twoFailures none)) [0, 0, 1] (counting ⟨5, 300, 300⟩ "alice" (twoFailures none))
    shown ([0, 0, 1], [true, true, true], some ⟨2, some 301⟩) (by decide +kernel)
  have quiet := quiet_of_shown seen (by decide)
  have stored := (Prod.mk.inj (Prod.mk.inj seen).2).2
  exact ⟨d, quiet, stored, counter_expires run quiet stored⟩

/-- The connection breaks between `INCR` and `EXPIRE`, and the counter stays for good. -/
theorem counter_left_behind : ∃ d : CounterSystem Int,
    (authMachine ⟨5, 300, 300⟩ everySecond).Reach Machine.anyStep
      (counting ⟨5, 300, 300⟩ "alice" (twoFailures (some 1))) d ∧ Quiet d ∧
    d.world.redis (RedisAuthAttemptStore.counterKey "alice") = some ⟨1, none⟩ := by
  obtain ⟨d, run, seen⟩ := Machine.schedule_observed (authMachine ⟨5, 300, 300⟩ everySecond) Machine.anyStep [0]
    (counting ⟨5, 300, 300⟩ "alice" (twoFailures (some 1))) shown ([0], [true], some ⟨1, none⟩) (by decide +kernel)
  exact ⟨d, run, quiet_of_shown seen (by decide), (Prod.mk.inj (Prod.mk.inj seen).2).2⟩

end LanguageAgent.Webui
