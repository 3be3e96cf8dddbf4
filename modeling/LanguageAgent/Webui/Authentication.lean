import LanguageAgent.Interleaving.Protocol
import LanguageAgent.Python.Text
import LanguageAgent.Webui.AttemptStores
import LanguageAgent.Webui.Client
import Mathlib.Data.Finset.Card

/-! # Web UI logins

`authenticate_user` as a program whose commands are its awaits: the Redis commands one
by one, the calls of the in-memory store, and the request to the backend.
-/

namespace LanguageAgent.Webui

open Expiring Interleaving

/-- `cl.User`, its metadata spelled out. -/
structure User where
  identifier : String
  displayName : String
  userId : String
  role : String
  isAdmin : Bool
  preferredLanguage : Option String
  uiTheme : Option String

/-- `user.display_name or user.username` -/
def toChainlitUser (user : Client.AuthenticatedBackendUser) : User where
  identifier := user.username
  displayName := match user.displayName with
    | some name => if name = "" then user.username else name
    | none => user.username
  userId := toString user.userId
  role := user.role
  isAdmin := user.isAdmin
  preferredLanguage := user.preferredLanguage
  uiTheme := user.uiTheme

inductive BackendReply where
  | user (user : Client.AuthenticatedBackendUser)
  /-- `BackendUserAuthenticationError` -/
  | authenticationError
  /-- Any other `BackendClientError`. -/
  | clientError (category : String)

inductive StoreKind where
  | redis
  | memory
  deriving DecidableEq

inductive AuthCommand where
  | exists_ (key : String)
  | incr (key : String)
  | expire (key : String) (seconds : Int)
  | setFor (key : String) (seconds : Int)
  | delete (keys : List String)
  | memoryIsLocked (username : String)
  | memoryRecordFailure (username : String)
  | memoryClear (username : String)
  /-- `client.authenticate_user` -/
  | authenticate (username password : String)
  deriving DecidableEq

abbrev AuthCommand.Reply : AuthCommand → Type
  | .exists_ _ | .memoryIsLocked _ => Bool
  | .incr _ | .memoryRecordFailure _ => Nat
  | .authenticate _ _ => BackendReply
  | .expire _ _ | .setFor _ _ | .delete _ | .memoryClear _ => Unit

abbrev authSignature : Signature := ⟨AuthCommand, AuthCommand.Reply⟩

abbrev AuthProgram (α : Type) := Program authSignature α

namespace StoreKind

def isLocked (username : String) : StoreKind → AuthProgram Bool
  | .redis => .issue (.exists_ (RedisAuthAttemptStore.lockoutKey username)) .done
  | .memory => .issue (.memoryIsLocked username) .done

/-- The lockout key is set once there are too many failures. -/
def lock (settings : AuthRateLimitSettings) (username : String) (failures : Nat) : AuthProgram Nat :=
  if (failures : Int) ≥ settings.maxFailedAttempts then
    .issue (.setFor (RedisAuthAttemptStore.lockoutKey username) settings.lockoutSeconds) fun _ => .done failures
  else .done failures

def recordFailure (settings : AuthRateLimitSettings) (username : String) : StoreKind → AuthProgram Nat
  | .redis => .issue (.incr (RedisAuthAttemptStore.counterKey username)) fun failures =>
      if failures = 1 then
        .issue (.expire (RedisAuthAttemptStore.counterKey username) settings.rateLimitWindowSeconds) fun _ =>
          lock settings username failures
      else lock settings username failures
  | .memory => .issue (.memoryRecordFailure username) .done

def clear (username : String) : StoreKind → AuthProgram Unit
  | .redis => .issue (.delete [RedisAuthAttemptStore.counterKey username,
      RedisAuthAttemptStore.lockoutKey username]) .done
  | .memory => .issue (.memoryClear username) .done

end StoreKind

/-- What is done with the backend's reply. -/
def handleReply (store : StoreKind) (settings : AuthRateLimitSettings) (username : String) :
    BackendReply → AuthProgram (Option User)
  | .user user => (store.clear username).bind fun _ => .done (some (toChainlitUser user))
  | .authenticationError => (store.recordFailure settings username).bind fun _ => .done none
  | .clientError _ => .done none

def authenticateUser (store : StoreKind) (settings : AuthRateLimitSettings) (username password : String) :
    AuthProgram (Option User) :=
  let normalizedUsername := Python.stripText username
  (store.isLocked normalizedUsername).bind fun locked =>
    if locked then .done none
    else .issue (.authenticate normalizedUsername password) (handleReply store settings normalizedUsername)

/-! ## Concurrent calls -/

/-- The store and the backend, with a record of the calls: which have found the username
    unlocked, which have reached the backend, which have had their failure counted, which
    have returned from `record_failure`, and whether a failure has locked the username yet. -/
structure AuthWorld (Time : Type) where
  redis : RedisAuthAttemptStore Time := fun _ => none
  memory : InMemoryAuthAttemptStore Time := {}
  ticks : Nat := 0
  passed : Finset Nat := ∅
  forwarded : Finset Nat := ∅
  counted : Finset Nat := ∅
  recorded : Finset Nat := ∅
  everLocked : Bool := false

/-- What the calls cannot influence: the instant of each command, and the backend's replies. -/
structure AuthEnvironment (Time : Type) where
  clock : Nat → Time
  backend : Nat → BackendReply

variable {Time : Type} [Ring Time] [LinearOrder Time]

namespace AuthWorld

def now (env : AuthEnvironment Time) (w : AuthWorld Time) : Time := env.clock w.ticks

def tick (w : AuthWorld Time) : AuthWorld Time := { w with ticks := w.ticks + 1 }

/-- A lock check that finds the username unlocked lets the call through. -/
def check (w : AuthWorld Time) (call : Nat) (locked : Bool) : AuthWorld Time :=
  if locked then w else { w with passed := insert call w.passed }

def count (w : AuthWorld Time) (call : Nat) : AuthWorld Time := { w with counted := insert call w.counted }

/-- `record_failure` returns once nothing is left to set. -/
def record (w : AuthWorld Time) (call : Nat) (last : Bool) : AuthWorld Time :=
  { w with recorded := if last then insert call w.recorded else w.recorded }

section Check

variable (w : AuthWorld Time) (call : Nat) (locked : Bool)

omit [Ring Time] [LinearOrder Time]

@[simp] theorem check_passed :
    (w.check call locked).passed = if locked then w.passed else insert call w.passed := by
  cases locked <;> rfl

@[simp] theorem check_forwarded : (w.check call locked).forwarded = w.forwarded := by cases locked <;> rfl

@[simp] theorem check_counted : (w.check call locked).counted = w.counted := by cases locked <;> rfl

@[simp] theorem check_recorded : (w.check call locked).recorded = w.recorded := by cases locked <;> rfl

@[simp] theorem check_everLocked : (w.check call locked).everLocked = w.everLocked := by cases locked <;> rfl

@[simp] theorem check_redis : (w.check call locked).redis = w.redis := by cases locked <;> rfl

@[simp] theorem check_memory : (w.check call locked).memory = w.memory := by cases locked <;> rfl

@[simp] theorem check_ticks : (w.check call locked).ticks = w.ticks := by cases locked <;> rfl

end Check

end AuthWorld

/-- The effect of one command at its instant. -/
def authExec (settings : AuthRateLimitSettings) (env : AuthEnvironment Time) (call : Nat)
    (command : AuthCommand) (w : AuthWorld Time) : Option (command.Reply × AuthWorld Time) :=
  let now := w.now env
  let w := w.tick
  match command with
  | .exists_ key =>
      let found := (w.redis.find now key).isSome
      some (found, w.check call found)
  | .incr key =>
      let counted := Keys.incr w.redis now key
      some (counted.1, ({ w with redis := counted.2 }.count call).record call
        (decide (counted.1 ≠ 1 ∧ (counted.1 : Int) < settings.maxFailedAttempts)))
  | .expire key seconds =>
      some ((), { w with redis := Keys.expire w.redis now key (seconds : Time) }.record call
        (decide (1 < settings.maxFailedAttempts)))
  | .setFor key seconds =>
      some ((), { w with
        redis := Keys.setFor w.redis now key 1 (seconds : Time), everLocked := true }.record call true)
  | .delete keys => some ((), { w with redis := keys.foldl Keys.delete w.redis })
  | .memoryIsLocked username =>
      let checked := w.memory.isLocked now username
      some (checked.1, { w with memory := checked.2 }.check call checked.1)
  | .memoryRecordFailure username =>
      let recorded := w.memory.recordFailure settings now username
      some (recorded.1, ({ w with
        memory := recorded.2
        everLocked := w.everLocked || decide ((recorded.1 : Int) ≥ settings.maxFailedAttempts) }.count
          call).record call true)
  | .memoryClear username => some ((), { w with memory := w.memory.clear username })
  | .authenticate _ _ => some (env.backend call, { w with forwarded := insert call w.forwarded })

def authMachine (settings : AuthRateLimitSettings) (env : AuthEnvironment Time) :
    Machine authSignature Nat (AuthWorld Time) := ⟨authExec settings env⟩

abbrev AuthSystem (Time : Type) := Config authSignature Nat (AuthWorld Time) (Option User)

/-- No failure is known yet, and each call is about to start. -/
def logins (store : StoreKind) (settings : AuthRateLimitSettings) (usernames passwords : Nat → String) :
    AuthSystem Time :=
  ⟨[], {}, fun call => authenticateUser store settings (usernames call) (passwords call)⟩

/-- What the store holds of the username. -/
def AuthWorld.standing (store : StoreKind) (username : String) (w : AuthWorld Time) : Standing Time :=
  match store with
  | .redis => RedisAuthAttemptStore.holds w.redis username
  | .memory => w.memory.holds username

def Standing.isLocked (standing : Standing Time) (now : Time) : Bool := (standing.after now).lockout.isSome

end LanguageAgent.Webui
