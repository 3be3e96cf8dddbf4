import LanguageAgent.Webui.AuthRateLimit
import Mathlib.Algebra.Order.Ring.Int
import Mathlib.Data.List.Chain

/-! # Both stores keep the same book of login attempts

The book says what a store is for: per username, how often it has failed in the window
that is still open, and until when it is locked. Redis keeps it by letting keys expire,
the process by purging its dictionaries.
-/

namespace LanguageAgent.Webui

open Expiring

/-- What is known of one username. -/
structure Standing (Time : Type) where
  failures : Option (Entry Nat Time) := none
  lockout : Option (Entry Nat Time) := none

abbrev Book (Time : Type) := String → Standing Time

variable {Time : Type} [LinearOrder Time]

/-- What is left of it at this instant. -/
def Standing.after (standing : Standing Time) (now : Time) : Standing Time :=
  ⟨standing.failures.filter (Entry.isLive now), standing.lockout.filter (Entry.isLive now)⟩

theorem Standing.after_after (standing : Standing Time) {now later : Time} (le : now ≤ later) :
    (standing.after now).after later = standing.after later := by
  simp only [Standing.after, filter_isLive_later le]

/-- Two books that tell the same from this instant on. -/
def Alike (now : Time) (book other : Book Time) : Prop :=
  ∀ username, (book username).after now = (other username).after now

theorem Alike.later {now later : Time} {book other : Book Time} (alike : Alike now book other)
    (le : now ≤ later) : Alike later book other := by
  intro username
  rw [← (book username).after_after le, alike username, Standing.after_after _ le]

variable [Ring Time]

namespace Book

/-- One more failure: the open window counts it, or a new one starts with it. -/
def failure (settings : AuthRateLimitSettings) (now : Time) (standing : Standing Time) : Entry Nat Time :=
  match (standing.after now).failures with
  | some entry => { entry with value := entry.value + 1 }
  | none => ⟨1, some (now + (settings.rateLimitWindowSeconds : Time))⟩

def lockout (settings : AuthRateLimitSettings) (now : Time) (standing : Standing Time) (failures : Nat) :
    Option (Entry Nat Time) :=
  if (failures : Int) ≥ settings.maxFailedAttempts then
    some ⟨1, some (now + (settings.lockoutSeconds : Time))⟩
  else (standing.after now).lockout

/-- The standing after one more failure. -/
def fail (settings : AuthRateLimitSettings) (now : Time) (standing : Standing Time) : Standing Time :=
  let entry := failure settings now standing
  ⟨some entry, lockout settings now standing entry.value⟩

def answer (settings : AuthRateLimitSettings) (book : Book Time) (now : Time) :
    AttemptCall → AttemptAnswer × Book Time
  | .isLocked username => (.locked ((book username).after now).lockout.isSome, book)
  | .recordFailure username =>
      (.failures (failure settings now (book username)).value,
        Function.update book username (fail settings now (book username)))
  | .clear username => (.cleared, Function.update book username {})

theorem fail_congr {settings : AuthRateLimitSettings} {now : Time} {standing other : Standing Time}
    (same : standing.after now = other.after now) : fail settings now standing = fail settings now other := by
  have failure : failure settings now standing = failure settings now other := by
    simp only [Book.failure, same]
  simp only [fail, failure, lockout, same]

/-- Alike books give the same answer and stay alike. -/
theorem answer_alike (settings : AuthRateLimitSettings) {now : Time} {book other : Book Time}
    (alike : Alike now book other) (call : AttemptCall) :
    (answer settings book now call).1 = (answer settings other now call).1 ∧
      Alike now (answer settings book now call).2 (answer settings other now call).2 := by
  have update : ∀ username standing, Alike now (Function.update book username standing)
      (Function.update other username standing) := by
    intro username standing name
    by_cases same : name = username
    · subst same
      rw [Function.update_self, Function.update_self]
    · rw [Function.update_of_ne same, Function.update_of_ne same]
      exact alike name
  cases call with
  | isLocked username => exact ⟨by simp only [answer, alike username], alike⟩
  | recordFailure username =>
      refine ⟨by simp only [answer, failure, alike username], ?_⟩
      simp only [answer, fail_congr (alike username)]
      exact update username _
  | clear username => exact ⟨rfl, update username {}⟩

end Book

/-! ## Refinement -/

/-- A store keeps the book: it answers as the book it holds would, at each instant from
    zero on, and holds the book that comes of it. -/
structure KeepsBook {Store : Type} (settings : AuthRateLimitSettings)
    (answer : Store → Time → AttemptCall → AttemptAnswer × Store) (holds : Store → Book Time)
    (Sound : Store → Prop) : Prop where
  sound : ∀ {store} now call, 0 ≤ now → Sound store → Sound (answer store now call).2
  answers : ∀ {store} now call, 0 ≤ now → Sound store →
    (answer store now call).1 = (Book.answer settings (holds store) now call).1
  holds : ∀ {store} now call, 0 ≤ now → Sound store →
    Alike now (holds (answer store now call).2) (Book.answer settings (holds store) now call).2

/-- Instants that start at zero or later and never go back. -/
def Timely (start : Time) (calls : List (Time × AttemptCall)) : Prop :=
  (start :: calls.map Prod.fst).IsChain (· ≤ ·)

theorem KeepsBook.answers_eq {Store : Type} {settings : AuthRateLimitSettings}
    {answer : Store → Time → AttemptCall → AttemptAnswer × Store} {holds : Store → Book Time}
    {Sound : Store → Prop} (keeps : KeepsBook settings answer holds Sound) {start : Time}
    (nonneg : 0 ≤ start) {calls : List (Time × AttemptCall)} (timely : Timely start calls)
    {store : Store} (sound : Sound store) {book : Book Time} (alike : Alike start (holds store) book) :
    Webui.answers answer store calls = Webui.answers (Book.answer settings) book calls := by
  induction calls generalizing start store book with
  | nil => rfl
  | cons head rest ih =>
      obtain ⟨now, call⟩ := head
      obtain ⟨le, timely⟩ := List.isChain_cons_cons.mp timely
      have nonneg := nonneg.trans le
      obtain ⟨same, still⟩ := Book.answer_alike settings (alike.later le) call
      simp only [Webui.answers, keeps.answers now call nonneg sound, same]
      congr 1
      apply ih nonneg timely (keeps.sound now call nonneg sound)
      intro username
      rw [keeps.holds now call nonneg sound username, still username]

/-! ## Redis -/

namespace RedisAuthAttemptStore

theorem counterKey_injective {username other : String} (same : counterKey username = counterKey other) :
    username = other := String.append_right_inj _ |>.mp same

theorem lockoutKey_injective {username other : String} (same : lockoutKey username = lockoutKey other) :
    username = other := String.append_right_inj _ |>.mp same

theorem counterKey_ne_lockoutKey (username other : String) : counterKey username ≠ lockoutKey other := by
  intro same
  have chars := congrArg String.toList same
  simp only [counterKey, lockoutKey, String.toList_append] at chars
  have := congrArg (·[5]?) chars
  simp at this

/-- The book Redis holds. -/
def holds (store : RedisAuthAttemptStore Time) : Book Time := fun username =>
  ⟨store (counterKey username), store (lockoutKey username)⟩

/-- Every count has counted something. -/
def Counted (store : RedisAuthAttemptStore Time) : Prop := ∀ key entry, store key = some entry → 1 ≤ entry.value

omit [LinearOrder Time] [Ring Time] in
theorem Counted.update {store : RedisAuthAttemptStore Time} (counted : Counted store) (key : String)
    {entry : Option (Entry Nat Time)} (positive : ∀ some, entry = .some some → 1 ≤ some.value) :
    Counted (Function.update store key entry) := by
  intro other found stored
  by_cases same : other = key
  · subst same
    rw [Function.update_self] at stored
    exact positive found stored
  · rw [Function.update_of_ne same] at stored
    exact counted other found stored

omit [LinearOrder Time] [Ring Time] in
/-- What is done to the two keys of a username is done to its standing. -/
theorem holds_update (store : RedisAuthAttemptStore Time) (username : String)
    (failures lockout : Option (Entry Nat Time)) :
    holds (Function.update (Function.update store (counterKey username) failures)
        (lockoutKey username) lockout) =
      Function.update (holds store) username ⟨failures, lockout⟩ := by
  funext other
  by_cases same : other = username
  · subst same
    simp only [holds, Function.update_self, Function.update_of_ne (counterKey_ne_lockoutKey _ _)]
  · have counter : counterKey other ≠ counterKey username := fun h => same (counterKey_injective h)
    have lockout : lockoutKey other ≠ lockoutKey username := fun h => same (lockoutKey_injective h)
    simp only [holds, Function.update_of_ne same, Function.update_of_ne (counterKey_ne_lockoutKey _ _),
      Function.update_of_ne counter, Function.update_of_ne lockout,
      Function.update_of_ne (counterKey_ne_lockoutKey _ _).symm]

/-- The entry the counter is left with. -/
theorem counted_eq (settings : AuthRateLimitSettings) {store : RedisAuthAttemptStore Time}
    (counted : Counted store) (now : Time) (username : String) :
    let incr := Keys.incr store now (counterKey username)
    incr.1 = (Book.failure settings now (holds store username)).value ∧
      startWindow settings incr.2 now username incr.1 =
        Function.update store (counterKey username) (some (Book.failure settings now (holds store username))) := by
  intro incr
  have after : ((holds store username).after now).failures = store.find now (counterKey username) := rfl
  cases found : store.find now (counterKey username) with
  | none =>
      have live : Entry.isLive now (⟨1, none⟩ : Entry Nat Time) = true := rfl
      simp only [incr, Keys.incr, found, incremented, startWindow, if_true, Keys.expire,
        Keys.find_update_self, Option.filter_some, live, Option.map_some, Function.update_idem,
        Book.failure, after, and_self]
  | some entry =>
      have stored : store (counterKey username) = some entry := (Option.filter_eq_some_iff.mp found).1
      have more : entry.value + 1 ≠ 1 := by
        have := counted _ _ stored
        omega
      simp only [incr, Keys.incr, found, incremented, startWindow, more, if_false, Book.failure, after,
        and_self]

theorem recordFailure_eq {settings : AuthRateLimitSettings} {store : RedisAuthAttemptStore Time}
    {now : Time} {username : String} (counted : Counted store) :
    let entry := Book.failure settings now (holds store username)
    recordFailure settings store now username =
      (entry.value, Function.update (Function.update store (counterKey username) (some entry))
        (lockoutKey username)
        (if (entry.value : Int) ≥ settings.maxFailedAttempts then
          some ⟨1, some (now + (settings.lockoutSeconds : Time))⟩
        else store (lockoutKey username))) := by
  intro entry
  obtain ⟨value, started⟩ := counted_eq settings counted now username
  rw [value] at started
  simp only [recordFailure, value, started, lock, entry]
  congr 1
  split
  · rfl
  · apply (Function.update_eq_self_iff.mpr _).symm
    exact (Function.update_of_ne (counterKey_ne_lockoutKey _ _).symm _ _).symm

theorem failure_positive {settings : AuthRateLimitSettings} {now : Time} {standing : Standing Time} :
    1 ≤ (Book.failure settings now standing).value := by
  unfold Book.failure
  split
  · exact Nat.le_add_left 1 _
  · exact le_rfl

theorem keepsBook (settings : AuthRateLimitSettings) :
    KeepsBook settings (answer settings) holds (Counted : RedisAuthAttemptStore Time → Prop) where
  sound := by
    intro store now call _ counted
    have lockout : ∀ username some, store (lockoutKey username) = .some some → 1 ≤ some.value :=
      fun username => counted (lockoutKey username)
    cases call with
    | isLocked username => exact counted
    | recordFailure username =>
        simp only [answer, recordFailure_eq counted]
        apply (counted.update _ _).update
        · rintro _ stored
          split at stored
          · cases stored
            exact le_rfl
          · exact lockout username _ stored
        · rintro _ ⟨⟩
          exact failure_positive
    | clear username =>
        apply (counted.update _ _).update
        · rintro _ ⟨⟩
        · rintro _ ⟨⟩
  answers := by
    intro store now call _ counted
    cases call with
    | isLocked username => rfl
    | recordFailure username => simp only [answer, recordFailure_eq counted, Book.answer]
    | clear username => rfl
  holds := by
    intro store now call _ counted
    cases call with
    | isLocked username => exact fun _ => rfl
    | recordFailure username =>
        simp only [answer, recordFailure_eq counted, Book.answer, holds_update]
        intro other
        by_cases same : other = username
        · subst same
          rw [Function.update_self, Function.update_self]
          simp only [Book.fail, Book.lockout, Standing.after]
          split
          · rfl
          · simp only [filter_isLive_later le_rfl, holds]
        · rw [Function.update_of_ne same, Function.update_of_ne same]
    | clear username =>
        simp only [answer, clear, Keys.delete, holds_update, Book.answer]
        exact fun _ => rfl

end RedisAuthAttemptStore

/-! ## In memory -/

namespace InMemoryAuthAttemptStore

/-- The book the dictionaries hold. -/
def holds (store : InMemoryAuthAttemptStore Time) : Book Time := fun username =>
  ⟨(store.failureCounts username).bind fun count =>
      (store.failureExpiresAt username).map fun deadline => ⟨count, some deadline⟩,
    (store.lockedUntil username).map fun deadline => ⟨1, some deadline⟩⟩

/-- A count comes with the end of its window. -/
def Paired (store : InMemoryAuthAttemptStore Time) : Prop :=
  ∀ username, (store.failureCounts username).isSome = (store.failureExpiresAt username).isSome

/-- What purging leaves of one deadline. -/
def unexpired (now : Time) (deadline : Option Time) : Option Time :=
  deadline.filter fun deadline => decide (now < deadline)

private theorem unexpired_of_over {now : Time} {deadline : Option Time} (past : deadline.getD 0 ≤ now) :
    unexpired now deadline = none := by
  cases deadline with
  | none => rfl
  | some deadline =>
      have past : ¬now < deadline := not_lt.mpr past
      simp only [unexpired, Option.filter_some, past, decide_false, Bool.false_eq_true, if_false]

private theorem unexpired_of_open {now : Time} {deadline : Option Time} (nonneg : 0 ≤ now)
    (notOver : ¬deadline.getD 0 ≤ now) :
    unexpired now deadline = deadline ∧ ∃ instant, deadline = some instant ∧ now < instant := by
  cases deadline with
  | none => exact absurd nonneg notOver
  | some deadline =>
      have before : now < deadline := not_le.mp notOver
      refine ⟨?_, deadline, rfl, before⟩
      simp only [unexpired, Option.filter_some, before, decide_true, if_true]

/-- Purging a username drops what has expired of its three entries. -/
theorem purgeExpired_eq (store : InMemoryAuthAttemptStore Time) {now : Time} (nonneg : 0 ≤ now)
    (username : String) :
    store.purgeExpired now username =
      { failureCounts := Function.update store.failureCounts username
          ((unexpired now (store.failureExpiresAt username)).bind fun _ => store.failureCounts username)
        failureExpiresAt := Function.update store.failureExpiresAt username
          (unexpired now (store.failureExpiresAt username))
        lockedUntil := Function.update store.lockedUntil username
          (unexpired now (store.lockedUntil username)) } := by
  unfold purgeExpired
  by_cases failuresOver : (store.failureExpiresAt username).getD 0 ≤ now
  · by_cases lockOver : (store.lockedUntil username).getD 0 ≤ now
    · simp only [failuresOver, lockOver, if_true, unexpired_of_over, Option.bind_none]
    · obtain ⟨lockStays, _⟩ := unexpired_of_open nonneg lockOver
      simp only [failuresOver, lockOver, if_true, if_false, unexpired_of_over, Option.bind_none, lockStays,
        Function.update_eq_self]
  · obtain ⟨failuresStay, deadline, expires, _⟩ := unexpired_of_open nonneg failuresOver
    have bound : ((store.failureExpiresAt username).bind fun _ => store.failureCounts username) =
        store.failureCounts username := by
      rw [expires, Option.bind_some]
    by_cases lockOver : (store.lockedUntil username).getD 0 ≤ now
    · simp only [failuresOver, lockOver, if_true, if_false, bound, failuresStay, unexpired_of_over,
        Function.update_eq_self]
    · obtain ⟨lockStays, _⟩ := unexpired_of_open nonneg lockOver
      simp only [failuresOver, lockOver, if_false, bound, failuresStay, lockStays, Function.update_eq_self]

/-- What a store holds of a username, from the three entries of it. -/
def standing (count : Option Nat) (failuresEnd lockEnd : Option Time) : Standing Time :=
  ⟨count.bind fun count => failuresEnd.map fun deadline => ⟨count, some deadline⟩,
    lockEnd.map fun deadline => ⟨1, some deadline⟩⟩

omit [Ring Time] in
theorem standing_after (now : Time) (count : Option Nat) (failuresEnd lockEnd : Option Time) :
    (standing count failuresEnd lockEnd).after now =
      standing ((unexpired now failuresEnd).bind fun _ => count) (unexpired now failuresEnd)
        (unexpired now lockEnd) := by
  have lock : (lockEnd.map fun deadline => (⟨1, some deadline⟩ : Entry Nat Time)).filter
      (Entry.isLive now) = (unexpired now lockEnd).map fun deadline => ⟨1, some deadline⟩ := by
    cases lockEnd with
    | none => rfl
    | some deadline =>
        by_cases before : now < deadline <;>
          simp [unexpired, Option.filter_some, Entry.isLive, notReached, before]
  simp only [Standing.after, standing, lock]
  congr 1
  cases count with
  | none => cases unexpired now failuresEnd <;> rfl
  | some count =>
      cases failuresEnd with
      | none => rfl
      | some deadline =>
          by_cases before : now < deadline <;>
            simp [unexpired, Option.filter_some, Entry.isLive, notReached, before]

omit [LinearOrder Time] [Ring Time] in
theorem holds_mk (counts : String → Option Nat) (failuresEnd lockEnd : String → Option Time)
    (username : String) (count : Option Nat) (ownEnd ownLock : Option Time) :
    holds ⟨Function.update counts username count, Function.update failuresEnd username ownEnd,
        Function.update lockEnd username ownLock⟩ =
      Function.update (holds ⟨counts, failuresEnd, lockEnd⟩) username (standing count ownEnd ownLock) := by
  funext other
  by_cases same : other = username
  · subst same
    simp only [holds, Function.update_self, standing]
  · simp only [holds, Function.update_of_ne same]

omit [LinearOrder Time] [Ring Time] in
theorem Paired.update {counts : String → Option Nat} {failuresEnd lockEnd : String → Option Time}
    (paired : Paired ⟨counts, failuresEnd, lockEnd⟩) (username : String) {count : Option Nat}
    {ownEnd ownLock : Option Time} (both : count.isSome = ownEnd.isSome) :
    Paired ⟨Function.update counts username count, Function.update failuresEnd username ownEnd,
      Function.update lockEnd username ownLock⟩ := by
  intro other
  by_cases same : other = username
  · subst same
    simp only [Function.update_self, both]
  · simp only [Function.update_of_ne same]
    exact paired other

/-- The three entries of a username after one more failure. -/
theorem recordFailure_eq (settings : AuthRateLimitSettings) {store : InMemoryAuthAttemptStore Time}
    (paired : Paired store) {now : Time} (nonneg : 0 ≤ now) (username : String) :
    let entry := Book.failure settings now (store.holds username)
    ∃ count deadline, entry = ⟨count, some deadline⟩ ∧ store.recordFailure settings now username =
      (count,
        { failureCounts := Function.update store.failureCounts username (some count)
          failureExpiresAt := Function.update store.failureExpiresAt username (some deadline)
          lockedUntil := Function.update store.lockedUntil username
            (if (count : Int) ≥ settings.maxFailedAttempts then
              some (now + (settings.lockoutSeconds : Time))
            else unexpired now (store.lockedUntil username)) }) := by
  have failures : ((store.holds username).after now).failures =
      ((unexpired now (store.failureExpiresAt username)).bind fun _ => store.failureCounts username).bind
        fun count => (unexpired now (store.failureExpiresAt username)).map fun deadline =>
          ⟨count, some deadline⟩ :=
    congrArg Standing.failures (standing_after now _ _ _)
  cases ends : unexpired now (store.failureExpiresAt username) with
  | none =>
      simp only [ends, Option.bind_none] at failures
      refine ⟨1, now + (settings.rateLimitWindowSeconds : Time), ?_, ?_⟩
      · simp only [Book.failure, failures]
      · simp only [recordFailure, purgeExpired_eq store nonneg, startWindow, ends, Function.update_self,
          Option.getD_none, nonneg, if_true, Function.update_idem, Option.getD_some, Nat.zero_add, lock]
        split <;> rfl
  | some deadline =>
      obtain ⟨stored, before⟩ := Option.filter_eq_some_iff.mp ends
      have before := not_le.mpr (of_decide_eq_true before)
      obtain ⟨count, counts⟩ := Option.isSome_iff_exists.mp ((paired username).trans (by rw [stored]; rfl))
      simp only [ends, counts, Option.bind_some, Option.map_some] at failures
      refine ⟨count + 1, deadline, ?_, ?_⟩
      · simp only [Book.failure, failures]
      · simp only [recordFailure, purgeExpired_eq store nonneg, startWindow, ends, Function.update_self,
          Option.getD_some, before, if_false, Function.update_idem, Option.bind_some, counts, lock]
        split <;> rfl

/-- What the store holds after one more failure. -/
theorem holds_recordFailure (settings : AuthRateLimitSettings) {store : InMemoryAuthAttemptStore Time}
    (paired : Paired store) {now : Time} (nonneg : 0 ≤ now) (username : String) :
    (store.recordFailure settings now username).2.holds =
        Function.update store.holds username (Book.fail settings now (store.holds username)) ∧
      Paired (store.recordFailure settings now username).2 ∧
      (store.recordFailure settings now username).1 =
        (Book.failure settings now (store.holds username)).value := by
  obtain ⟨count, deadline, entry, recorded⟩ := recordFailure_eq settings paired nonneg username
  refine ⟨?_, ?_, ?_⟩
  · have lockout : ((store.holds username).after now).lockout =
        (unexpired now (store.lockedUntil username)).map fun deadline => ⟨1, some deadline⟩ :=
      congrArg Standing.lockout (standing_after now _ _ _)
    rw [recorded, holds_mk]
    congr 1
    simp only [standing, Book.fail, entry, Book.lockout, Option.bind_some, Option.map_some, lockout]
    split <;> rfl
  · rw [recorded]
    exact paired.update username rfl
  · rw [recorded, entry]

theorem keepsBook (settings : AuthRateLimitSettings) :
    KeepsBook settings (answer settings) holds (Paired : InMemoryAuthAttemptStore Time → Prop) where
  sound := by
    intro store now call nonneg paired
    cases call with
    | isLocked username =>
        simp only [answer, isLocked, purgeExpired_eq store nonneg]
        apply paired.update username
        cases ends : unexpired now (store.failureExpiresAt username) with
        | none => rfl
        | some deadline =>
            obtain ⟨stored, _⟩ := Option.filter_eq_some_iff.mp ends
            rw [Option.bind_some, paired username, stored]
    | recordFailure username => exact (holds_recordFailure settings paired nonneg username).2.1
    | clear username => exact paired.update username rfl
  answers := by
    intro store now call nonneg paired
    cases call with
    | isLocked username =>
        have lockout : ((store.holds username).after now).lockout =
            (unexpired now (store.lockedUntil username)).map fun deadline => ⟨1, some deadline⟩ :=
          congrArg Standing.lockout (standing_after now _ _ _)
        simp only [answer, isLocked, purgeExpired_eq store nonneg, Function.update_self, Book.answer, lockout,
          Option.isSome_map]
        cases ends : unexpired now (store.lockedUntil username) with
        | none => simp only [Option.getD_none, gt_iff_lt, not_lt.mpr nonneg, decide_false, Option.isSome_none]
        | some deadline =>
            obtain ⟨_, before⟩ := Option.filter_eq_some_iff.mp ends
            simp only [Option.getD_some, gt_iff_lt, of_decide_eq_true before, decide_true, Option.isSome_some]
    | recordFailure username =>
        simp only [answer, (holds_recordFailure settings paired nonneg username).2.2, Book.answer]
    | clear username => rfl
  holds := by
    intro store now call nonneg paired
    cases call with
    | isLocked username =>
        simp only [answer, isLocked, purgeExpired_eq store nonneg, holds_mk, ← standing_after]
        intro other
        by_cases same : other = username
        · subst same
          rw [Function.update_self]
          exact Standing.after_after _ le_rfl
        · rw [Function.update_of_ne same]
          rfl
    | recordFailure username =>
        simp only [answer, (holds_recordFailure settings paired nonneg username).1, Book.answer]
        exact fun _ => rfl
    | clear username =>
        simp only [answer, clear, holds_mk]
        exact fun _ => rfl

end InMemoryAuthAttemptStore

/-! ## The two stores -/

/-- For settings as the Web UI builds them, and calls at instants that start at zero or later
    and never go back, both stores give the same answers. -/
theorem attempt_stores_agree (settings : WebUISettings) (calls : List (Time × AttemptCall))
    (timely : Timely 0 calls) :
    answers (RedisAuthAttemptStore.answer (buildAuthRateLimitSettings settings)) (fun _ => none) calls =
      answers (InMemoryAuthAttemptStore.answer (buildAuthRateLimitSettings settings)) {} calls := by
  have counted : RedisAuthAttemptStore.Counted (fun _ => none : RedisAuthAttemptStore Time) := by
    rintro _ _ ⟨⟩
  have paired : InMemoryAuthAttemptStore.Paired ({} : InMemoryAuthAttemptStore Time) := fun _ => rfl
  have unknown : Alike (0 : Time) (fun _ => {}) fun _ => {} := fun _ => rfl
  have redis := (RedisAuthAttemptStore.keepsBook (buildAuthRateLimitSettings settings)).answers_eq le_rfl
    timely counted unknown
  have memory := (InMemoryAuthAttemptStore.keepsBook (buildAuthRateLimitSettings settings)).answers_eq le_rfl
    timely paired unknown
  exact redis.trans memory.symm

/-- A second failure locks, and the count outlives the lock but not the window. -/
def demoCalls : List (Int × AttemptCall) :=
  [(0, .isLocked "alice"), (0, .recordFailure "alice"), (1, .recordFailure "alice"),
    (2, .isLocked "alice"), (2, .isLocked "bob"), (4, .isLocked "alice"), (5, .recordFailure "alice"),
    (8, .isLocked "alice"), (10, .recordFailure "alice"), (11, .clear "alice"), (12, .isLocked "alice")]

theorem attempt_stores_agree_demo :
    answers (RedisAuthAttemptStore.answer (buildAuthRateLimitSettings ⟨2, 3, 10⟩)) (fun _ => none) demoCalls =
        [.locked false, .failures 1, .failures 2, .locked true, .locked false, .locked false, .failures 3,
          .locked false, .failures 1, .cleared, .locked false] ∧
      answers (RedisAuthAttemptStore.answer (buildAuthRateLimitSettings ⟨2, 3, 10⟩)) (fun _ => none) demoCalls =
        answers (InMemoryAuthAttemptStore.answer (buildAuthRateLimitSettings ⟨2, 3, 10⟩)) {} demoCalls :=
  ⟨by decide +kernel, attempt_stores_agree ⟨2, 3, 10⟩ demoCalls (by unfold Timely; decide)⟩

end LanguageAgent.Webui
