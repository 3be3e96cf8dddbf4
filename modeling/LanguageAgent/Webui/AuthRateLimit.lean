import LanguageAgent.Expiring.Keys
import Mathlib.Algebra.Order.Ring.Defs

/-! # The login-attempt stores

The two implementations of `AuthAttemptStore`. Every call is given the instant at
which it runs; Redis is a store of keys with a time to live.
-/

namespace LanguageAgent.Webui

open Expiring

/-- The fields of the Web UI's settings that bound login attempts. -/
structure WebUISettings where
  authMaxFailedAttempts : Int
  authLockoutSeconds : Int
  authRateLimitWindowSeconds : Int

structure AuthRateLimitSettings where
  maxFailedAttempts : Int
  lockoutSeconds : Int
  rateLimitWindowSeconds : Int

def buildAuthRateLimitSettings (settings : WebUISettings) : AuthRateLimitSettings where
  maxFailedAttempts := max 1 settings.authMaxFailedAttempts
  lockoutSeconds := max 1 settings.authLockoutSeconds
  rateLimitWindowSeconds := max 1 settings.authRateLimitWindowSeconds

/-- Every setting is at least one. -/
structure AuthRateLimitSettings.Positive (settings : AuthRateLimitSettings) : Prop where
  attempts : 1 ≤ settings.maxFailedAttempts
  lockout : 1 ≤ settings.lockoutSeconds
  window : 1 ≤ settings.rateLimitWindowSeconds

variable {Time : Type} [Ring Time] [LinearOrder Time]

/-! ## Redis -/

/-- The connection, as the keys it reaches. -/
abbrev RedisAuthAttemptStore (Time : Type) := Keys String Nat Time

namespace RedisAuthAttemptStore

def counterKey (username : String) : String := "auth:failures:" ++ username

def lockoutKey (username : String) : String := "auth:lockout:" ++ username

def isLocked (store : RedisAuthAttemptStore Time) (now : Time) (username : String) : Bool :=
  (store.find now (lockoutKey username)).isSome

/-- `EXPIRE` after the first failure of a window. -/
def startWindow (settings : AuthRateLimitSettings) (store : RedisAuthAttemptStore Time) (now : Time)
    (username : String) (failures : Nat) : RedisAuthAttemptStore Time :=
  if failures = 1 then
    Keys.expire store now (counterKey username) (settings.rateLimitWindowSeconds : Time)
  else store

/-- `SET` of the lockout key once there are too many failures. -/
def lock (settings : AuthRateLimitSettings) (store : RedisAuthAttemptStore Time) (now : Time)
    (username : String) (failures : Nat) : RedisAuthAttemptStore Time :=
  if (failures : Int) ≥ settings.maxFailedAttempts then
    Keys.setFor store now (lockoutKey username) 1 (settings.lockoutSeconds : Time)
  else store

def recordFailure (settings : AuthRateLimitSettings) (store : RedisAuthAttemptStore Time) (now : Time)
    (username : String) : Nat × RedisAuthAttemptStore Time :=
  let counted := Keys.incr store now (counterKey username)
  let started := startWindow settings counted.2 now username counted.1
  (counted.1, lock settings started now username counted.1)

def clear (store : RedisAuthAttemptStore Time) (username : String) : RedisAuthAttemptStore Time :=
  Keys.delete (Keys.delete store (counterKey username)) (lockoutKey username)

end RedisAuthAttemptStore

/-! ## In memory -/

structure InMemoryAuthAttemptStore (Time : Type) where
  failureCounts : String → Option Nat := fun _ => none
  failureExpiresAt : String → Option Time := fun _ => none
  lockedUntil : String → Option Time := fun _ => none

namespace InMemoryAuthAttemptStore

def purgeExpired (store : InMemoryAuthAttemptStore Time) (now : Time) (username : String) :
    InMemoryAuthAttemptStore Time :=
  let store :=
    if (store.failureExpiresAt username).getD 0 ≤ now then
      { store with
        failureCounts := Function.update store.failureCounts username none
        failureExpiresAt := Function.update store.failureExpiresAt username none }
    else store
  if (store.lockedUntil username).getD 0 ≤ now then
    { store with lockedUntil := Function.update store.lockedUntil username none }
  else store

def isLocked (store : InMemoryAuthAttemptStore Time) (now : Time) (username : String) :
    Bool × InMemoryAuthAttemptStore Time :=
  let store := store.purgeExpired now username
  (decide ((store.lockedUntil username).getD 0 > now), store)

/-- A window starts at the first failure after the last one has ended. -/
def startWindow (settings : AuthRateLimitSettings) (store : InMemoryAuthAttemptStore Time) (now : Time)
    (username : String) : InMemoryAuthAttemptStore Time :=
  if (store.failureExpiresAt username).getD 0 ≤ now then
    { store with
      failureCounts := Function.update store.failureCounts username (some 0)
      failureExpiresAt := Function.update store.failureExpiresAt username
        (some (now + (settings.rateLimitWindowSeconds : Time))) }
  else store

def lock (settings : AuthRateLimitSettings) (store : InMemoryAuthAttemptStore Time) (now : Time)
    (username : String) (failures : Nat) : InMemoryAuthAttemptStore Time :=
  if (failures : Int) ≥ settings.maxFailedAttempts then
    { store with lockedUntil :=
        Function.update store.lockedUntil username (some (now + (settings.lockoutSeconds : Time))) }
  else store

def recordFailure (settings : AuthRateLimitSettings) (store : InMemoryAuthAttemptStore Time)
    (now : Time) (username : String) : Nat × InMemoryAuthAttemptStore Time :=
  let store := (store.purgeExpired now username).startWindow settings now username
  let failures := (store.failureCounts username).getD 0 + 1
  let store := { store with
    failureCounts := Function.update store.failureCounts username (some failures) }
  (failures, store.lock settings now username failures)

def clear (store : InMemoryAuthAttemptStore Time) (username : String) : InMemoryAuthAttemptStore Time where
  failureCounts := Function.update store.failureCounts username none
  failureExpiresAt := Function.update store.failureExpiresAt username none
  lockedUntil := Function.update store.lockedUntil username none

end InMemoryAuthAttemptStore

/-! ## Sequences of calls -/

inductive AttemptCall where
  | isLocked (username : String)
  | recordFailure (username : String)
  | clear (username : String)

inductive AttemptAnswer where
  | locked (answer : Bool)
  | failures (count : Nat)
  | cleared
  deriving DecidableEq

def RedisAuthAttemptStore.answer (settings : AuthRateLimitSettings) (store : RedisAuthAttemptStore Time)
    (now : Time) : AttemptCall → AttemptAnswer × RedisAuthAttemptStore Time
  | .isLocked username => (.locked (isLocked store now username), store)
  | .recordFailure username =>
      let recorded := recordFailure settings store now username
      (.failures recorded.1, recorded.2)
  | .clear username => (.cleared, clear store username)

def InMemoryAuthAttemptStore.answer (settings : AuthRateLimitSettings)
    (store : InMemoryAuthAttemptStore Time) (now : Time) :
    AttemptCall → AttemptAnswer × InMemoryAuthAttemptStore Time
  | .isLocked username =>
      let checked := store.isLocked now username
      (.locked checked.1, checked.2)
  | .recordFailure username =>
      let recorded := store.recordFailure settings now username
      (.failures recorded.1, recorded.2)
  | .clear username => (.cleared, store.clear username)

/-- The answers of a store to calls made at given instants. -/
def answers {Store : Type} (answer : Store → Time → AttemptCall → AttemptAnswer × Store) (store : Store) :
    List (Time × AttemptCall) → List AttemptAnswer
  | [] => []
  | (now, call) :: rest =>
      let answered := answer store now call
      answered.1 :: answers answer answered.2 rest

end LanguageAgent.Webui
