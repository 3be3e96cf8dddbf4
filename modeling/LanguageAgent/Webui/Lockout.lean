import LanguageAgent.Webui.Authentication

/-! # Lockout under concurrent guesses

The lock check, the backend's verdict and the count are separate awaits, so calls that
overlap may all be let through before the first failure is counted. The bound holds
where no lock check comes between the lock check of another call and the end of its
`record_failure`.
-/

namespace LanguageAgent.Webui

open Expiring Interleaving

/-! ## What a call does next -/

inductive LoginPhase where
  | start
  | passed
  | forwarded
  /-- The first failure of a window has been counted. -/
  | starting
  | locking
  | clearing
  | done
  deriving DecidableEq

/-- Where the call goes once its failure is counted. -/
def afterCount (settings : AuthRateLimitSettings) (failures : Nat) : LoginPhase :=
  if (failures : Int) ≥ settings.maxFailedAttempts then .locking else .done

open RedisAuthAttemptStore in
inductive LoginMoves (store : StoreKind) (settings : AuthRateLimitSettings) (username : String) :
    Protocol authSignature LoginPhase where
  | redisCheck {locked} (redis : store = .redis) :
      LoginMoves store settings username .start (.exists_ (lockoutKey username)) locked
        (if locked then .done else .passed)
  | memoryCheck {locked} (memory : store = .memory) :
      LoginMoves store settings username .start (.memoryIsLocked username) locked
        (if locked then .done else .passed)
  | refused {password} :
      LoginMoves store settings username .passed (.authenticate username password) .authenticationError
        .forwarded
  | accepted {password user} :
      LoginMoves store settings username .passed (.authenticate username password) (.user user) .clearing
  | failed {password category} :
      LoginMoves store settings username .passed (.authenticate username password) (.clientError category)
        .done
  | countFirst (redis : store = .redis) :
      LoginMoves store settings username .forwarded (.incr (counterKey username)) 1 .starting
  | count {failures} (redis : store = .redis) (later : failures ≠ 1) :
      LoginMoves store settings username .forwarded (.incr (counterKey username)) failures
        (afterCount settings failures)
  | memoryCount {failures} (memory : store = .memory) :
      LoginMoves store settings username .forwarded (.memoryRecordFailure username) failures .done
  | expire (redis : store = .redis) : LoginMoves store settings username .starting
      (.expire (counterKey username) settings.rateLimitWindowSeconds) () (afterCount settings 1)
  | lock (redis : store = .redis) : LoginMoves store settings username .locking
      (.setFor (lockoutKey username) settings.lockoutSeconds) () .done
  | clear {keys} : LoginMoves store settings username .clearing (.delete keys) () .done
  | memoryClear : LoginMoves store settings username .clearing (.memoryClear username) () .done

/-- A count below the limit is the last command of the call. -/
theorem afterCount_cases (settings : AuthRateLimitSettings) (failures : Nat) :
    if decide ((failures : Int) < settings.maxFailedAttempts) then afterCount settings failures = .done
    else afterCount settings failures = .locking := by
  unfold afterCount
  by_cases below : (failures : Int) < settings.maxFailedAttempts
  · rw [if_pos (decide_eq_true below), if_neg (by omega)]
  · rw [if_neg (by simp [below]), if_pos (by omega)]

section Conformance

variable {store : StoreKind} {settings : AuthRateLimitSettings} {username : String}

private theorem lock_obeys {α : Type} (failures : Nat) (out : α) :
    ((StoreKind.lock settings username failures).bind fun _ => .done out).Obeys
      (LoginMoves .redis settings username) (fun _ _ => True) (afterCount settings failures) := by
  unfold StoreKind.lock afterCount
  split
  · intro _
    exact ⟨.done, .lock rfl, trivial⟩
  · trivial

theorem recordFailure_obeys {α : Type} (out : α) :
    ((store.recordFailure settings username).bind fun _ => .done out).Obeys
      (LoginMoves store settings username) (fun _ _ => True) .forwarded := by
  cases store with
  | redis =>
      intro failures
      by_cases first : failures = 1
      · subst first
        refine ⟨.starting, .countFirst rfl, fun _ => ⟨afterCount settings 1, .expire rfl, ?_⟩⟩
        exact lock_obeys 1 out
      · refine ⟨afterCount settings failures, .count rfl first, ?_⟩
        simp only [first, if_false]
        exact lock_obeys failures out
  | memory => exact fun failures => ⟨.done, .memoryCount rfl, trivial⟩

theorem authenticateUser_obeys {name password : String} (same : Python.stripText name = username) :
    (authenticateUser store settings name password).Obeys (LoginMoves store settings username)
      (fun _ _ => True) .start := by
  subst same
  have checked : ∀ locked : Bool, (if locked then (.done none : AuthProgram (Option User)) else
      .issue (.authenticate (Python.stripText name) password) (handleReply store settings (Python.stripText name))).Obeys
        (LoginMoves store settings (Python.stripText name)) (fun _ _ => True) (if locked then .done else .passed) := by
    intro locked
    cases locked with
    | true => trivial
    | false =>
        intro reply
        cases reply with
        | user user =>
            refine ⟨.clearing, .accepted, ?_⟩
            cases store with
            | redis => exact fun _ => ⟨.done, .clear, trivial⟩
            | memory => exact fun _ => ⟨.done, .memoryClear, trivial⟩
        | authenticationError => exact ⟨.forwarded, .refused, recordFailure_obeys none⟩
        | clientError category => exact ⟨.done, .failed, trivial⟩
  cases store with
  | redis => exact fun locked => ⟨_, .redisCheck rfl, checked locked⟩
  | memory => exact fun locked => ⟨_, .memoryCheck rfl, checked locked⟩

end Conformance

/-! ## The condition -/

section Bounds

variable {Time : Type} [Ring Time] [LinearOrder Time]

/-- No lock check comes between the lock check of another call and the end of its
    `record_failure`. -/
def oneAtATime (w : AuthWorld Time) : AuthCommand → Prop
  | .exists_ _ | .memoryIsLocked _ => w.passed ⊆ w.recorded
  | _ => True

/-- The window of the first failure has not ended. -/
def windowOpen (store : StoreKind) (env : AuthEnvironment Time) (username : String) (w : AuthWorld Time) :
    Prop :=
  (w.standing store username).failures.all (Entry.isLive (w.now env)) = true

/-- All steps fall within one window, and the calls do not overlap. -/
def guessesApart (store : StoreKind) (env : AuthEnvironment Time) (username : String) :
    Guard authSignature Nat (AuthWorld Time) := fun _ w label =>
  windowOpen store env username w ∧ oneAtATime w label.command

omit [Ring Time] in
theorem windowOpen_iff {store : StoreKind} {env : AuthEnvironment Time} {username : String}
    {w : AuthWorld Time} : windowOpen store env username w ↔
      ∀ entry, (w.standing store username).failures = some entry → entry.isLive (w.now env) = true := by
  unfold windowOpen
  cases (w.standing store username).failures with
  | none =>
      constructor
      · intro _ entry same
        cases same
      · exact fun _ => rfl
  | some entry =>
      constructor
      · intro live other same
        cases same
        exact live
      · exact fun live => live entry rfl

instance (w : AuthWorld Time) (command : AuthCommand) : Decidable (oneAtATime w command) := by
  cases command <;> unfold oneAtATime <;> infer_instance

instance (store : StoreKind) (env : AuthEnvironment Time) (username : String)
    (trace : List (Label authSignature Nat)) (w : AuthWorld Time) (label : Label authSignature Nat) :
    Decidable (guessesApart store env username trace w label) :=
  inferInstanceAs (Decidable ((_ = true) ∧ _))

/-- All steps fall within one window. -/
def withinWindow (store : StoreKind) (env : AuthEnvironment Time) (username : String) :
    Guard authSignature Nat (AuthWorld Time) := fun _ w _ => windowOpen store env username w

instance (store : StoreKind) (env : AuthEnvironment Time) (username : String)
    (trace : List (Label authSignature Nat)) (w : AuthWorld Time) (label : Label authSignature Nat) :
    Decidable (withinWindow store env username trace w label) := inferInstanceAs (Decidable (_ = true))

/-! ## The invariant -/

/-- Which of the records a call is on, by its phase. -/
def LoginPhase.OnRecord (w : AuthWorld Time) (call : Nat) : LoginPhase → Prop
  | .start => call ∉ w.passed
  | .passed => call ∈ w.passed ∧ call ∉ w.forwarded
  | .forwarded => call ∈ w.forwarded ∧ call ∉ w.counted
  | .starting => call ∈ w.counted ∧ call ∉ w.recorded ∧ w.counted.card = 1
  | .locking => call ∈ w.counted ∧ call ∉ w.recorded
  | .clearing => False
  | .done => call ∈ w.passed → call ∈ w.recorded

/-- The in-memory store is not used before instant zero. -/
def InUse (env : AuthEnvironment Time) (w : AuthWorld Time) : Prop :=
  w.memory.Paired ∧ (0 ≤ w.now env ∨ w.memory = {} ∧ w.passed = ∅)

/-- One call at a time is under way, and the failures recorded without a lock are fewer than
    allowed: the count locks. -/
structure Bounded (store : StoreKind) (settings : AuthRateLimitSettings) (env : AuthEnvironment Time)
    (username : String) (w : AuthWorld Time) (phase : Nat → LoginPhase) : Prop where
  onRecord : ∀ call, (phase call).OnRecord w call
  forwarded : w.forwarded ⊆ w.passed
  counted : w.counted ⊆ w.forwarded
  recorded : w.recorded ⊆ w.counted
  alone : ∀ call other, call ∈ w.passed → call ∉ w.recorded → other ∈ w.passed → other ∉ w.recorded →
    call = other
  /-- The counter is the number of failures counted. -/
  counter : (w.standing store username).failures.map Entry.value =
    if w.counted.card = 0 then none else some w.counted.card
  belowLimit : w.everLocked = false → (w.recorded.card : Int) < settings.maxFailedAttempts
  bounded : w.everLocked = false → (w.passed.card : Int) ≤ settings.maxFailedAttempts
  unlocked : ∀ call, phase call = .passed → ∀ t, w.now env ≤ t →
    (w.standing store username).isLocked t = false
  inUse : store = .memory → InUse env w

/-! ## One step -/

omit [Ring Time] in
theorem Standing.isLocked_later {standing : Standing Time} {now later : Time} (le : now ≤ later)
    (unlocked : standing.isLocked now = false) : standing.isLocked later = false := by
  have lockout := congrArg Standing.lockout (standing.after_after le)
  unfold Standing.isLocked at unlocked ⊢
  rw [← lockout]
  simp only [Standing.after, Option.isSome_eq_false_iff, Option.isNone_iff_eq_none] at unlocked ⊢
  rw [unlocked, Option.filter_none]

/-- Each record of the calls may only gain this one. -/
structure Grows (call : Nat) (w w' : AuthWorld Time) : Prop where
  ticks : w'.ticks = w.ticks + 1
  passed : w'.passed = w.passed ∨ w'.passed = insert call w.passed
  forwarded : w'.forwarded = w.forwarded ∨ w'.forwarded = insert call w.forwarded
  counted : w'.counted = w.counted ∨ w'.counted = insert call w.counted
  recorded : w'.recorded = w.recorded ∨ w'.recorded = insert call w.recorded

theorem authExec_grows {settings : AuthRateLimitSettings} {env : AuthEnvironment Time} {call : Nat}
    {command : AuthCommand} {reply : command.Reply} {w w' : AuthWorld Time}
    (answered : authExec settings env call command w = some (reply, w')) : Grows call w w' := by
  cases command with
  | exists_ | memoryIsLocked =>
      cases answered
      refine ⟨?_, ?_, ?_, ?_, ?_⟩ <;> unfold AuthWorld.check <;> split <;> simp [AuthWorld.tick]
  | incr | expire =>
      cases answered
      refine ⟨rfl, .inl rfl, .inl rfl, by simp [AuthWorld.record, AuthWorld.count, AuthWorld.tick], ?_⟩
      unfold AuthWorld.record
      split <;> simp [AuthWorld.tick, AuthWorld.count]
  | _ =>
      cases answered
      refine ⟨rfl, ?_, ?_, ?_, ?_⟩ <;> simp [AuthWorld.record, AuthWorld.count, AuthWorld.tick]

private theorem mem_of_grows {call other : Nat} {before after : Finset Nat} (different : other ≠ call)
    (grows : after = before ∨ after = insert call before) : other ∈ after ↔ other ∈ before := by
  rcases grows with rfl | rfl
  · rfl
  · simp only [Finset.mem_insert, different, false_or]

omit [Ring Time] [LinearOrder Time] in
/-- The records of a call that is not under way are what they were. -/
theorem LoginPhase.OnRecord.other {call other : Nat} {w w' : AuthWorld Time} {phase : LoginPhase}
    (grows : Grows call w w') (different : other ≠ call) (counted : w.counted ⊆ w.passed)
    (idle : other ∈ w.passed → other ∈ w.recorded) (onRecord : phase.OnRecord w other) :
    phase.OnRecord w' other := by
  cases phase with
  | starting => exact absurd (idle (counted onRecord.1)) onRecord.2.1
  | clearing => exact onRecord.elim
  | _ => simpa only [LoginPhase.OnRecord, mem_of_grows different grows.passed,
      mem_of_grows different grows.forwarded, mem_of_grows different grows.counted,
      mem_of_grows different grows.recorded] using onRecord

variable {store : StoreKind} {settings : AuthRateLimitSettings} {env : AuthEnvironment Time}
  {username : String} {w w' : AuthWorld Time} {phase : Nat → LoginPhase} {call : Nat}

/-- A call that is under way is the only one. -/
theorem Bounded.idle (inv : Bounded store settings env username w phase) (passed : call ∈ w.passed)
    (underWay : call ∉ w.recorded) {other : Nat} (different : other ≠ call) (member : other ∈ w.passed) :
    other ∈ w.recorded := by
  by_contra alsoUnderWay
  exact different (inv.alone other call member alsoUnderWay passed underWay)

/-- What is left to show of a step: the call's own record, and what became of the store. -/
theorem Bounded.step {after : LoginPhase}
    (inv : Bounded store settings env username w phase)
    (idle : ∀ other, other ≠ call → other ∈ w.passed → other ∈ w.recorded)
    (grows : Grows call w w') (own : after.OnRecord w' call) (forwarded : w'.forwarded ⊆ w'.passed)
    (counted : w'.counted ⊆ w'.forwarded) (recorded : w'.recorded ⊆ w'.counted)
    (counter : (w'.standing store username).failures.map Entry.value =
      if w'.counted.card = 0 then none else some w'.counted.card)
    (belowLimit : w'.everLocked = false → (w'.recorded.card : Int) < settings.maxFailedAttempts)
    (bounded : w'.everLocked = false → (w'.passed.card : Int) ≤ settings.maxFailedAttempts)
    (passed : after = .passed → ∀ t, w'.now env ≤ t → (w'.standing store username).isLocked t = false)
    (inUse : store = .memory → InUse env w') :
    Bounded store settings env username w' (Function.update phase call after) := by
  have still : ∀ other, other ≠ call → other ∈ w'.passed → other ∈ w'.recorded := by
    intro other different member
    rw [mem_of_grows different grows.passed] at member
    rw [mem_of_grows different grows.recorded]
    exact idle other different member
  refine ⟨fun other => ?_, forwarded, counted, recorded, ?_, counter, belowLimit, bounded,
    fun other isPassed => ?_, inUse⟩
  · by_cases same : other = call
    · subst same
      rwa [Function.update_self]
    · rw [Function.update_of_ne same]
      exact (inv.onRecord other).other grows same (inv.counted.trans inv.forwarded) (idle other same)
  · intro one other onePassed oneUnderWay otherPassed otherUnderWay
    have isCall : ∀ a, a ∈ w'.passed → a ∉ w'.recorded → a = call := fun a passed underWay =>
      by_contra fun different => underWay (still a different passed)
    rw [isCall one onePassed oneUnderWay, isCall other otherPassed otherUnderWay]
  · by_cases same : other = call
    · subst same
      rw [Function.update_self] at isPassed
      exact passed isPassed
    · -- no other call is under way
      rw [Function.update_of_ne same] at isPassed
      have stands := inv.onRecord other
      rw [isPassed] at stands
      exact absurd (inv.counted (inv.recorded (idle other same stands.1))) stands.2

private theorem Bounded.check_step {locked : Bool} (monotone : Monotone env.clock)
    (inv : Bounded store settings env username w phase) (start : phase call = .start)
    (apart : w.passed ⊆ w.recorded)
    (grows : Grows call w w') (passed : w'.passed = if locked then w.passed else insert call w.passed)
    (forwarded : w'.forwarded = w.forwarded) (counted : w'.counted = w.counted)
    (recorded : w'.recorded = w.recorded) (everLocked : w'.everLocked = w.everLocked)
    (failures : (w'.standing store username).failures = (w.standing store username).failures)
    (lockout : ∀ t, w.now env ≤ t →
      (w'.standing store username).isLocked t = (w.standing store username).isLocked t)
    (answer : locked = false → (w.standing store username).isLocked (w.now env) = false)
    (inUse : store = .memory → InUse env w') :
    Bounded store settings env username w' (Function.update phase call (if locked then .done else .passed)) := by
  have fresh : call ∉ w.passed := by
    have own := inv.onRecord call
    rwa [start] at own
  have subset : w.passed ⊆ w'.passed := by
    rw [passed]
    split
    · exact subset_rfl
    · exact Finset.subset_insert _ _
  refine inv.step (fun other _ member => apart member) grows ?_ ?_ ?_ ?_ ?_ ?_ ?_ ?_ inUse
  · cases locked with
    | true =>
        intro member
        rw [passed, if_pos rfl] at member
        exact absurd member fresh
    | false =>
        refine ⟨?_, ?_⟩
        · rw [passed]
          exact Finset.mem_insert_self _ _
        · rw [forwarded]
          exact fun member => fresh (inv.forwarded member)
  · rw [forwarded]
    exact inv.forwarded.trans subset
  · rw [counted, forwarded]
    exact inv.counted
  · rw [recorded, counted]
    exact inv.recorded
  · rw [failures, counted]
    exact inv.counter
  · rw [everLocked, recorded]
    exact inv.belowLimit
  · intro never
    rw [everLocked] at never
    cases locked with
    | true =>
        rw [passed]
        exact inv.bounded never
    | false =>
        -- all calls let through so far have recorded their failure, and none of them has locked
        have fewer := Finset.card_le_card apart
        have below := inv.belowLimit never
        rw [passed, if_neg Bool.false_ne_true, Finset.card_insert_of_notMem fresh]
        omega
  · intro isPassed t le
    cases locked with
    | true => cases isPassed
    | false =>
        have later : w.now env ≤ w'.now env := by
          unfold AuthWorld.now
          rw [grows.ticks]
          exact monotone (Nat.le_succ _)
        rw [lockout t (later.trans le)]
        exact Standing.isLocked_later (later.trans le) (answer rfl)

omit [Ring Time] [LinearOrder Time] in
/-- The counter after one more failure. -/
private theorem counter_succ {before after : Option (Entry Nat Time)} {records : Finset Nat}
    (counter : before.map Entry.value = if records.card = 0 then none else some records.card)
    (fresh : call ∉ records)
    (counted : after.map Entry.value = some ((before.map Entry.value).getD 0 + 1)) :
    after.map Entry.value =
      if (insert call records).card = 0 then none else some (insert call records).card := by
  rw [Finset.card_insert_of_notMem fresh, if_neg (Nat.succ_ne_zero _), counted, counter]
  split
  · rename_i empty
    rw [empty, Option.getD_none]
  · rw [Option.getD_some]

/-- What counting a failure replies is how many have been counted. -/
theorem Bounded.count_reply (inv : Bounded store settings env username w phase) :
    ((w.standing store username).failures.map Entry.value).getD 0 = w.counted.card := by
  rw [inv.counter]
  split
  · rename_i empty
    rw [empty, Option.getD_none]
  · rw [Option.getD_some]

private theorem Bounded.count_step {after : LoginPhase}
    (inv : Bounded store settings env username w phase) (last : Bool) (isForwarded : phase call = .forwarded)
    (next : if last then after = .done else after = .locking ∨ after = .starting ∧ w.counted.card = 0)
    (grows : Grows call w w')
    (passed : w'.passed = w.passed) (forwarded : w'.forwarded = w.forwarded)
    (counted : w'.counted = insert call w.counted)
    (recorded : w'.recorded = if last then insert call w.recorded else w.recorded)
    (everLocked : w'.everLocked = false → w.everLocked = false)
    (below : w'.everLocked = false → last = true → (w.counted.card : Int) + 1 < settings.maxFailedAttempts)
    (failures : (w'.standing store username).failures.map Entry.value =
      some (((w.standing store username).failures.map Entry.value).getD 0 + 1))
    (inUse : store = .memory → InUse env w') :
    Bounded store settings env username w' (Function.update phase call after) := by
  have own := inv.onRecord call
  rw [isForwarded] at own
  have fresh : call ∉ w.recorded := fun member => own.2 (inv.recorded member)
  have member : call ∈ w'.counted := by
    rw [counted]
    exact Finset.mem_insert_self _ _
  refine inv.step (fun other => inv.idle (inv.forwarded own.1) fresh) grows ?_ ?_ ?_ ?_ ?_ ?_ ?_ ?_ inUse
  · cases last with
    | true =>
        subst next
        intro _
        rw [recorded]
        exact Finset.mem_insert_self _ _
    | false =>
        have notRecorded : call ∉ w'.recorded := by
          rw [recorded]
          exact fresh
        rcases next with rfl | ⟨rfl, first⟩
        · exact ⟨member, notRecorded⟩
        · refine ⟨member, notRecorded, ?_⟩
          rw [counted, Finset.card_insert_of_notMem own.2, first]
  · rw [forwarded, passed]
    exact inv.forwarded
  · rw [forwarded, counted]
    exact Finset.insert_subset own.1 inv.counted
  · rw [recorded, counted]
    split
    · exact Finset.insert_subset_insert _ inv.recorded
    · exact inv.recorded.trans (Finset.subset_insert _ _)
  · rw [counted]
    exact counter_succ inv.counter own.2 failures
  · intro never
    rw [recorded]
    split
    · rename_i isLast
      have fewer := Finset.card_le_card inv.recorded
      have room := below never isLast
      rw [Finset.card_insert_of_notMem fresh]
      omega
    · exact inv.belowLimit (everLocked never)
  · rw [passed]
    exact fun never => inv.bounded (everLocked never)
  · rintro rfl
    cases last with
    | true => cases next
    | false => rcases next with next | ⟨next, _⟩ <;> cases next

/-- A step of a call whose failure has been counted. -/
private theorem Bounded.counted_step {after : LoginPhase}
    (inv : Bounded store settings env username w phase) (last : Bool) (isCounted : call ∈ w.counted)
    (underWay : call ∉ w.recorded) (next : if last then after = .done else after = .locking)
    (grows : Grows call w w')
    (passed : w'.passed = w.passed) (forwarded : w'.forwarded = w.forwarded)
    (counted : w'.counted = w.counted)
    (recorded : w'.recorded = if last then insert call w.recorded else w.recorded)
    (everLocked : w'.everLocked = false → w.everLocked = false)
    (below : w'.everLocked = false → last = true → (w.counted.card : Int) < settings.maxFailedAttempts)
    (failures : (w'.standing store username).failures.map Entry.value =
      (w.standing store username).failures.map Entry.value)
    (inUse : store = .memory → InUse env w') :
    Bounded store settings env username w' (Function.update phase call after) := by
  have isPassed := inv.forwarded (inv.counted isCounted)
  refine inv.step (fun other => inv.idle isPassed underWay) grows ?_ ?_ ?_ ?_ ?_ ?_ ?_ ?_ inUse
  · cases last with
    | true =>
        subst next
        intro _
        rw [recorded]
        exact Finset.mem_insert_self _ _
    | false =>
        subst next
        refine ⟨?_, ?_⟩
        · rw [counted]
          exact isCounted
        · rw [recorded]
          exact underWay
  · rw [forwarded, passed]
    exact inv.forwarded
  · rw [forwarded, counted]
    exact inv.counted
  · rw [recorded, counted]
    split
    · exact Finset.insert_subset isCounted inv.recorded
    · exact inv.recorded
  · rw [counted, failures]
    exact inv.counter
  · intro never
    rw [recorded]
    split
    · rename_i isLast
      have fewer := Finset.card_le_card (Finset.insert_subset isCounted inv.recorded)
      have room := below never isLast
      omega
    · exact inv.belowLimit (everLocked never)
  · rw [passed]
    exact fun never => inv.bounded (everLocked never)
  · rintro rfl
    cases last <;> cases next

/-! ### Redis -/

section Redis

open RedisAuthAttemptStore

omit [Ring Time] in
private theorem holds_incr (redis : RedisAuthAttemptStore Time) (now : Time) (username : String) :
    holds (Keys.incr redis now (counterKey username)).2 username =
      ⟨some (incremented (redis.find now (counterKey username))), (holds redis username).lockout⟩ := by
  simp only [holds, Keys.incr, Function.update_self,
    Function.update_of_ne (counterKey_ne_lockoutKey _ _).symm]

omit [Ring Time] in
private theorem incremented_value (redis : RedisAuthAttemptStore Time) {now : Time} {username : String}
    (within : ∀ entry, (holds redis username).failures = some entry → entry.isLive now = true) :
    (incremented (redis.find now (counterKey username))).value =
      ((holds redis username).failures.map Entry.value).getD 0 + 1 := by
  have found : redis.find now (counterKey username) = (holds redis username).failures := by
    cases stored : (holds redis username).failures with
    | none => exact congrArg (Option.filter _) stored
    | some entry =>
        have live := within entry stored
        have stored : redis (counterKey username) = some entry := stored
        rw [Keys.find, stored, Option.filter_some, live, if_pos rfl]
  rw [found]
  cases (holds redis username).failures <;> rfl

private theorem holds_expire (redis : RedisAuthAttemptStore Time) (ttl : Time) {now : Time} {username : String}
    (within : ∀ entry, (holds redis username).failures = some entry → entry.isLive now = true) :
    (holds (Keys.expire redis now (counterKey username) ttl) username).failures.map Entry.value =
      (holds redis username).failures.map Entry.value := by
  have own : (holds (Keys.expire redis now (counterKey username) ttl) username).failures =
      (redis.find now (counterKey username)).map fun entry => { entry with deadline := some (now + ttl) } :=
    Function.update_self _ _ _
  rw [own]
  cases stored : (holds redis username).failures with
  | none =>
      have stored : redis (counterKey username) = none := stored
      rw [Keys.find, stored]
      rfl
  | some entry =>
      have live := within entry stored
      have stored : redis (counterKey username) = some entry := stored
      rw [Keys.find, stored, Option.filter_some, live, if_pos rfl]
      rfl

end Redis

/-! ### In memory -/

section Memory

open InMemoryAuthAttemptStore

/-- Before instant zero the store takes every username for locked. -/
private theorem isLocked_unused {now : Time} (before : ¬0 ≤ now) (username : String) :
    ({} : InMemoryAuthAttemptStore Time).isLocked now username = (true, {}) := by
  simp only [InMemoryAuthAttemptStore.isLocked, purgeExpired, Option.getD_none, before, if_false, gt_iff_lt,
    not_le.mp before, decide_true]

/-- A lock check keeps what the store holds of the username. -/
private theorem isLocked_standing {memory : InMemoryAuthAttemptStore Time} {now : Time} {username : String}
    (nonneg : 0 ≤ now)
    (within : ∀ entry, (memory.holds username).failures = some entry → entry.isLive now = true) :
    let checked := (memory.isLocked now username).2.holds username
    checked.failures = (memory.holds username).failures ∧
      ∀ t, now ≤ t → checked.isLocked t = (memory.holds username).isLocked t := by
  intro checked
  have purged : checked = (memory.holds username).after now := by
    simp only [checked, InMemoryAuthAttemptStore.isLocked, purgeExpired_eq memory nonneg, holds_mk,
      Function.update_self, ← standing_after]
    rfl
  constructor
  · rw [purged]
    cases stored : (memory.holds username).failures with
    | none => rw [Standing.after, stored, Option.filter_none]
    | some entry => rw [Standing.after, stored, Option.filter_some, within entry stored, if_pos rfl]
  · intro t le
    rw [purged, Standing.isLocked, Standing.after_after _ le]
    rfl

private theorem isLocked_answer {memory : InMemoryAuthAttemptStore Time} {now : Time} {username : String}
    (settings : AuthRateLimitSettings) (paired : Paired memory) (nonneg : 0 ≤ now) :
    (memory.isLocked now username).1 = (memory.holds username).isLocked now :=
  AttemptAnswer.locked.inj ((keepsBook settings).answers now (.isLocked username) nonneg paired)

private theorem failure_value (settings : AuthRateLimitSettings) {now : Time} {standing : Standing Time}
    (within : ∀ entry, standing.failures = some entry → entry.isLive now = true) :
    (Book.failure settings now standing).value = (standing.failures.map Entry.value).getD 0 + 1 := by
  unfold Book.failure
  cases stored : standing.failures with
  | none => simp only [Standing.after, stored, Option.filter_none, Option.map_none, Option.getD_none]
  | some entry =>
      simp only [Standing.after, stored, Option.filter_some, within entry stored, if_true, Option.map_some,
        Option.getD_some]

/-- What a lock check of the in-memory store does to the records. -/
private structure MemoryChecked (settings : AuthRateLimitSettings) (env : AuthEnvironment Time)
    (username : String) (call : Nat) (locked : Bool) (w w' : AuthWorld Time) : Prop where
  passed : w'.passed = if locked then w.passed else insert call w.passed
  forwarded : w'.forwarded = w.forwarded
  counted : w'.counted = w.counted
  recorded : w'.recorded = w.recorded
  everLocked : w'.everLocked = w.everLocked
  failures : (w'.memory.holds username).failures = (w.memory.holds username).failures
  lockout : ∀ t, w.now env ≤ t → (w'.memory.holds username).isLocked t = (w.memory.holds username).isLocked t
  answer : locked = false → (w.memory.holds username).isLocked (w.now env) = false
  inUse : Monotone env.clock → InUse env w'

private theorem memoryChecked {locked : Bool} (inUse : InUse env w)
    (within : ∀ entry, (w.memory.holds username).failures = some entry → entry.isLive (w.now env) = true)
    (answered : authExec settings env call (.memoryIsLocked username) w = some (locked, w')) :
    MemoryChecked settings env username call locked w w' := by
  have grows := authExec_grows answered
  have later : Monotone env.clock → w.now env ≤ w'.now env := by
    intro monotone
    unfold AuthWorld.now
    rw [grows.ticks]
    exact monotone (Nat.le_succ _)
  cases answered
  by_cases nonneg : 0 ≤ w.now env
  · have paired := inUse.1
    obtain ⟨failures, lockout⟩ := isLocked_standing nonneg within
    refine ⟨AuthWorld.check_passed _ _ _, AuthWorld.check_forwarded _ _ _, AuthWorld.check_counted _ _ _,
      AuthWorld.check_recorded _ _ _, AuthWorld.check_everLocked _ _ _, ?_, ?_, ?_, ?_⟩
    · rw [AuthWorld.check_memory]
      exact failures
    · intro t le
      rw [AuthWorld.check_memory]
      exact lockout t le
    · exact fun unlocked => (isLocked_answer settings paired nonneg).symm.trans unlocked
    · intro monotone
      refine ⟨?_, .inl (nonneg.trans (later monotone))⟩
      rw [AuthWorld.check_memory]
      exact (keepsBook settings).sound (w.now env) (.isLocked username) nonneg paired
  · obtain ⟨unused, empty⟩ := inUse.2.resolve_left nonneg
    have checked : w.tick.memory.isLocked (w.now env) username = (true, {}) := by
      have unused : w.tick.memory = {} := unused
      rw [unused]
      exact isLocked_unused nonneg username
    simp only [checked]
    refine ⟨rfl, rfl, rfl, rfl, rfl, ?_, ?_, (fun unlocked => by cases unlocked), ?_⟩
    · rw [unused]
      rfl
    · intro t _
      rw [unused]
      rfl
    · intro _
      exact ⟨fun _ => rfl, .inr ⟨rfl, empty⟩⟩

end Memory

/-! ### Any move -/

private theorem InUse.tick (used : InMemoryAuthAttemptStore.Paired w'.memory)
    (monotone : Monotone env.clock) (nonneg : 0 ≤ w.now env) (ticks : w'.ticks = w.ticks + 1) :
    InUse env w' := by
  refine ⟨used, .inl (nonneg.trans ?_)⟩
  unfold AuthWorld.now
  rw [ticks]
  exact monotone (Nat.le_succ _)

/-- A count that is not the first of its window is the last command, or locks. -/
private theorem Bounded.redis_count {failures : Nat} (inv : Bounded .redis settings env username w phase)
    (within : ∀ entry, (w.standing .redis username).failures = some entry → entry.isLive (w.now env) = true)
    (isAt : phase call = .forwarded) (later : failures ≠ 1)
    (answered : authExec settings env call (.incr (RedisAuthAttemptStore.counterKey username)) w = some (failures, w')) :
    Bounded .redis settings env username w' (Function.update phase call (afterCount settings failures)) := by
  have grows := authExec_grows answered
  obtain ⟨replied, rfl⟩ := Prod.mk.inj (Option.some.inj answered)
  have counts := incremented_value w.redis within
  have total := inv.count_reply
  have replied : (incremented (w.redis.find (w.now env) (RedisAuthAttemptStore.counterKey username))).value =
    failures := replied
  simp only [AuthWorld.standing] at total
  refine inv.count_step (decide ((failures : Int) < settings.maxFailedAttempts))
    isAt ?_ grows rfl rfl rfl ?_ id ?_ ?_ (by rintro ⟨⟩)
  · have next := afterCount_cases settings failures
    split at next
    · rw [if_pos ‹_›, next]
    · rw [if_neg ‹_›]
      exact .inl next
  · have same : decide ((Keys.incr w.redis (w.now env) (RedisAuthAttemptStore.counterKey username)).1 ≠ 1 ∧
        ((Keys.incr w.redis (w.now env) (RedisAuthAttemptStore.counterKey username)).1 : Int) <
          settings.maxFailedAttempts) = decide ((failures : Int) < settings.maxFailedAttempts) :=
      decide_eq_decide.mpr <| by
        have replied : (Keys.incr w.redis (w.now env) (RedisAuthAttemptStore.counterKey username)).1 = failures :=
          replied
        rw [replied]
        exact and_iff_right later
    exact congrArg (fun last : Bool => if last then insert call w.recorded else w.recorded) same
  · intro _ below
    have below := of_decide_eq_true below
    omega
  · simp only [AuthWorld.standing, AuthWorld.record, AuthWorld.count, AuthWorld.tick, holds_incr,
      Option.map_some]
    exact congrArg some counts

/-- In memory the one call counts and locks. -/
private theorem Bounded.memory_count {failures : Nat} (monotone : Monotone env.clock)
    (inv : Bounded .memory settings env username w phase)
    (within : ∀ entry, (w.memory.holds username).failures = some entry → entry.isLive (w.now env) = true)
    (isAt : phase call = .forwarded)
    (answered : authExec settings env call (.memoryRecordFailure username) w = some (failures, w')) :
    Bounded .memory settings env username w' (Function.update phase call .done) := by
  have grows := authExec_grows answered
  have own := inv.onRecord call
  rw [isAt] at own
  obtain ⟨value, rfl⟩ := Prod.mk.inj (Option.some.inj answered)
  obtain ⟨paired, used⟩ := inv.inUse rfl
  have nonneg : 0 ≤ w.now env := by
    refine used.resolve_right fun unused => ?_
    have member := inv.forwarded own.1
    rw [unused.2] at member
    exact Finset.notMem_empty _ member
  obtain ⟨standing, stillPaired, counts⟩ :=
    InMemoryAuthAttemptStore.holds_recordFailure settings paired nonneg username
  have bySuccessor := failure_value settings within
  have total := inv.count_reply
  simp only [AuthWorld.standing] at total
  have standing := congrFun standing username
  rw [Function.update_self] at standing
  refine inv.count_step true isAt rfl grows rfl rfl rfl rfl ?_ ?_ ?_ ?_
  · exact fun never => (Bool.or_eq_false_iff.mp never).1
  · intro never _
    have below := of_decide_eq_false (Bool.or_eq_false_iff.mp never).2
    have replied : (w.memory.recordFailure settings (w.now env) username).1 = w.counted.card + 1 := by omega
    simp only [AuthWorld.tick, replied] at below
    omega
  · refine (congrArg (fun standing => standing.failures.map Entry.value) standing).trans ?_
    exact congrArg some bySuccessor
  · exact fun _ => InUse.tick stillPaired monotone nonneg rfl

theorem bounded_step {command : AuthCommand} {reply : command.Reply} {after : LoginPhase}
    (monotone : Monotone env.clock) (wrong : ∀ call, env.backend call = .authenticationError)
    (inv : Bounded store settings env username w phase)
    (within : ∀ entry, (w.standing store username).failures = some entry → entry.isLive (w.now env) = true)
    (apart : oneAtATime w command)
    (move : LoginMoves store settings username (phase call) command reply after)
    (answered : authExec settings env call command w = some (reply, w')) :
    Bounded store settings env username w' (Function.update phase call after) := by
  have grows := authExec_grows answered
  have own := inv.onRecord call
  generalize isAt : phase call = before at move own
  cases move with
  | redisCheck redis =>
      subst redis
      cases answered
      refine inv.check_step monotone isAt apart grows (AuthWorld.check_passed _ _ _)
        (AuthWorld.check_forwarded _ _ _) (AuthWorld.check_counted _ _ _) (AuthWorld.check_recorded _ _ _)
        (AuthWorld.check_everLocked _ _ _) ?_ ?_ id (by rintro ⟨⟩)
      · simp only [AuthWorld.standing, AuthWorld.check_redis, AuthWorld.tick]
      · intro t _
        simp only [AuthWorld.standing, AuthWorld.check_redis, AuthWorld.tick]
  | memoryCheck memory =>
      subst memory
      have checked := memoryChecked (inv.inUse rfl) within answered
      exact inv.check_step monotone isAt apart grows checked.passed checked.forwarded checked.counted
        checked.recorded checked.everLocked checked.failures checked.lockout checked.answer
        fun _ => checked.inUse monotone
  | refused =>
      obtain ⟨_, rfl⟩ := Prod.mk.inj (Option.some.inj answered)
      have underWay : call ∉ w.recorded := fun member => own.2 (inv.counted (inv.recorded member))
      refine inv.step (fun other => inv.idle own.1 underWay) grows ⟨Finset.mem_insert_self _ _, ?_⟩ ?_ ?_
        inv.recorded inv.counter inv.belowLimit inv.bounded (by rintro ⟨⟩) fun memory => ?_
      · exact fun member => own.2 (inv.counted member)
      · exact Finset.insert_subset own.1 inv.forwarded
      · exact inv.counted.trans (Finset.subset_insert _ _)
      · obtain ⟨paired, nonneg | ⟨_, empty⟩⟩ := inv.inUse memory
        · exact InUse.tick paired monotone nonneg rfl
        · exact absurd own.1 (by rw [empty]; exact Finset.notMem_empty _)
  | accepted => cases (wrong call).symm.trans (congrArg Prod.fst (Option.some.inj answered))
  | failed => cases (wrong call).symm.trans (congrArg Prod.fst (Option.some.inj answered))
  | countFirst redis =>
      subst redis
      obtain ⟨first, rfl⟩ := Prod.mk.inj (Option.some.inj answered)
      have counts := incremented_value w.redis within
      have total := inv.count_reply
      have first : (incremented (w.redis.find (w.now env) (RedisAuthAttemptStore.counterKey username))).value = 1 :=
        first
      refine inv.count_step false isAt (.inr ⟨rfl, ?_⟩) grows rfl rfl rfl ?_ id (by rintro _ ⟨⟩) ?_
        (by rintro ⟨⟩)
      · simp only [AuthWorld.standing] at total
        omega
      · exact if_neg fun later => (of_decide_eq_true later).1 first
      · simp only [AuthWorld.standing, AuthWorld.record, AuthWorld.count, AuthWorld.tick, holds_incr,
          Option.map_some]
        exact congrArg some counts
  | count redis later =>
      subst redis
      exact inv.redis_count within isAt later answered
  | memoryCount memory =>
      subst memory
      exact inv.memory_count monotone within isAt answered
  | expire redis =>
      subst redis
      obtain ⟨_, rfl⟩ := Prod.mk.inj (Option.some.inj answered)
      have failures := holds_expire w.redis (settings.rateLimitWindowSeconds : Time) within
      obtain ⟨isCounted, underWay, first⟩ := own
      refine inv.counted_step (decide (1 < settings.maxFailedAttempts)) isCounted underWay
        (afterCount_cases settings 1) grows rfl rfl rfl rfl id ?_ failures (by rintro ⟨⟩)
      · intro _ below
        have below := of_decide_eq_true below
        omega
  | lock redis =>
      subst redis
      obtain ⟨_, rfl⟩ := Prod.mk.inj (Option.some.inj answered)
      refine inv.counted_step true own.1 own.2 rfl grows rfl rfl rfl rfl (by rintro ⟨⟩) (by rintro ⟨⟩) ?_
        (by rintro ⟨⟩)
      simp only [AuthWorld.standing, RedisAuthAttemptStore.holds, Keys.setFor, AuthWorld.tick, AuthWorld.record,
        Function.update_of_ne (RedisAuthAttemptStore.counterKey_ne_lockoutKey _ _)]
  | clear => exact own.elim
  | memoryClear => exact own.elim

/-! ## Runs -/

section Runs

variable {usernames passwords : Nat → String} {d : AuthSystem Time}

private theorem bounded_boot (positive : settings.Positive) :
    Bounded store settings env username ({} : AuthWorld Time) fun _ => .start where
  onRecord _ := Finset.notMem_empty _
  forwarded := subset_rfl
  counted := subset_rfl
  recorded := subset_rfl
  alone _ _ passed := absurd passed (Finset.notMem_empty _)
  counter := by cases store <;> rfl
  belowLimit _ := Int.lt_of_lt_of_le Int.zero_lt_one positive.attempts
  bounded _ := Int.le_trans (Int.zero_le_ofNat 1) positive.attempts
  unlocked _ passed := by cases passed
  inUse _ := by
    refine ⟨fun _ => rfl, ?_⟩
    by_cases nonneg : 0 ≤ env.clock 0
    · exact .inl nonneg
    · exact .inr ⟨rfl, rfl⟩

/-- The commands of a call that is about to go to the backend. -/
private theorem LoginMoves.of_authenticate {name password : String} {reply : BackendReply}
    {before after : LoginPhase}
    (move : LoginMoves store settings username before (.authenticate name password) reply after) :
    before = .passed := by
  cases move <;> rfl

end Runs

end Bounds

/-! ## Two deployments -/

/-- Nobody knows the password, and each command takes a second. -/
def guessing : AuthEnvironment Int where
  clock ticks := ticks
  backend _ := .authenticationError

end LanguageAgent.Webui
