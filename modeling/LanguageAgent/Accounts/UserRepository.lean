import LanguageAgent.Domain.Json
import LanguageAgent.Sequences.UniqueKeys
import Mathlib.Logic.Relation

/-! # The table of users

Usernames are unique, and ids are counted up. A row keeps who it is: logins and approvals
change nothing of it but its times and whether it is active.
-/

namespace LanguageAgent.Accounts

open Sequences

/-- A row of `users`, which `to_domain` copies. -/
structure UserProfile (Time : Type) where
  id : Nat
  username : String
  displayName : Option String
  passwordHash : String
  role : String
  isActive : Bool
  isAdmin : Bool
  createdAt : Time
  updatedAt : Time
  lastLoginAt : Option Time
  preferredLanguage : Option String
  uiTheme : Option String
  profileMetadata : Dict

structure UserTable (Time : Type) where
  rows : List (UserProfile Time) := []
  nextId : Nat := 1
  counted : ∀ user ∈ rows, user.id < nextId := by simp
  ids : UniqueKeys UserProfile.id rows := by exact List.nodup_nil
  usernames : UniqueKeys UserProfile.username rows := by exact List.nodup_nil

inductive CreationError where
  | valueError (message : String)
  | usernameAlreadyExists (username : String)
  /-- An error of the database or of the password library. -/
  | other

/-- The arguments of `create_user`, with its defaults. -/
structure NewUser where
  username : String
  passwordHash : String
  displayName : Option String := none
  role : String := "user"
  isActive : Bool := true
  isAdmin : Bool := false
  preferredLanguage : Option String := none
  uiTheme : Option String := none
  profileMetadata : Dict := []

variable {Time : Type}

namespace UserTable

variable (table : UserTable Time)

def getByUsername (username : String) : Option (UserProfile Time) := findBy UserProfile.username username table.rows

def getById (userId : Nat) : Option (UserProfile Time) := findBy UserProfile.id userId table.rows

def newRow (now : Time) (new : NewUser) : UserProfile Time where
  id := table.nextId
  username := new.username
  displayName := new.displayName
  passwordHash := new.passwordHash
  role := new.role
  isActive := new.isActive
  isAdmin := new.isAdmin
  createdAt := now
  updatedAt := now
  lastLoginAt := none
  preferredLanguage := new.preferredLanguage
  uiTheme := new.uiTheme
  profileMetadata := new.profileMetadata

/-- The row is committed where no row has its username and the database takes it:
    `accepts` is what the database checks besides, such as the widths of the columns. -/
def createUser (accepts : UserProfile Time → Bool) (now : Time) (new : NewUser) :
    Except CreationError (UserProfile Time × UserTable Time) :=
  let user := table.newRow now new
  if taken : ∃ other ∈ table.rows, other.username = user.username then .error (.usernameAlreadyExists new.username)
  else if accepts user = false then .error .other
  else .ok (user,
    { rows := table.rows ++ [user]
      nextId := table.nextId + 1
      counted := by
        intro other member
        rcases List.mem_append.mp member with old | added
        · exact Nat.lt_succ_of_lt (table.counted other old)
        · rw [List.mem_singleton.mp added]
          exact Nat.lt_succ_self _
      ids := table.ids.append fun other member => (table.counted other member).ne
      usernames := table.usernames.append fun other member same => taken ⟨other, member, same⟩ })

/-- The row with this id is changed, its id and username apart. -/
def modify (userId : Nat) (change : UserProfile Time → UserProfile Time) (id : ∀ user, (change user).id = user.id)
    (username : ∀ user, (change user).username = user.username) : UserTable Time where
  rows := table.rows.map fun user => if user.id = userId then change user else user
  nextId := table.nextId
  counted := by
    intro user member
    obtain ⟨old, isRow, rfl⟩ := List.mem_map.mp member
    have below := table.counted old isRow
    split
    · rwa [id]
    · exact below
  ids := table.ids.map fun user => by split <;> simp [id]
  usernames := table.usernames.map fun user => by split <;> simp [username]

def updateLastLogin (userId : Nat) (now : Time) : Option (UserProfile Time) × UserTable Time :=
  match table.getById userId with
  | none => (none, table)
  | some user =>
      let login user := { user with lastLoginAt := some now, updatedAt := now }
      (some (login user), table.modify userId login (fun _ => rfl) fun _ => rfl)

/-- An account is approved or blocked, which is done in the database itself. -/
def setActive (userId : Nat) (active : Bool) : UserTable Time :=
  table.modify userId (fun user => { user with isActive := active }) (fun _ => rfl) fun _ => rfl

end UserTable

/-! ## What stays of an account -/

/-- The two rows are one account: they differ at most in their times and in whether it is active. -/
def SameAccount (user other : UserProfile Time) : Prop :=
  other = { user with isActive := other.isActive, updatedAt := other.updatedAt, lastLoginAt := other.lastLoginAt }

namespace SameAccount

variable {user other third : UserProfile Time}

theorem refl (user : UserProfile Time) : SameAccount user user := rfl

theorem trans (same : SameAccount user other) (more : SameAccount other third) : SameAccount user third := by
  rw [SameAccount] at same more ⊢
  rw [more, same]

theorem id (same : SameAccount user other) : other.id = user.id := by
  rw [SameAccount] at same
  rw [same]

theorem username (same : SameAccount user other) : other.username = user.username := by
  rw [SameAccount] at same
  rw [same]

theorem passwordHash (same : SameAccount user other) : other.passwordHash = user.passwordHash := by
  rw [SameAccount] at same
  rw [same]

end SameAccount

namespace UserTable

/-- The table has the account. -/
def Has (table : UserTable Time) (user : UserProfile Time) : Prop := ∃ row ∈ table.rows, SameAccount user row

/-- The table has it, and it is active. -/
def HasActive (table : UserTable Time) (user : UserProfile Time) : Prop :=
  ∃ row ∈ table.rows, SameAccount user row ∧ row.isActive = true

/-- One change of the table. -/
inductive Step (accepts : UserProfile Time → Bool) : UserTable Time → UserTable Time → Prop where
  | created {table after : UserTable Time} {now : Time} {new : NewUser} {user : UserProfile Time}
      (created : table.createUser accepts now new = .ok (user, after)) : Step accepts table after
  | loggedIn (table : UserTable Time) (userId : Nat) (now : Time) : Step accepts table (table.updateLastLogin userId now).2
  | activated (table : UserTable Time) (userId : Nat) (active : Bool) : Step accepts table (table.setActive userId active)

abbrev Run (accepts : UserProfile Time → Bool) : UserTable Time → UserTable Time → Prop :=
  Relation.ReflTransGen (Step accepts)

variable {accepts : UserProfile Time → Bool} {table after : UserTable Time} {now : Time} {new : NewUser}
  {user : UserProfile Time} {username : String} {userId : Nat}

/-- All a successful `create_user` can have done. -/
theorem createUser_ok (created : table.createUser accepts now new = .ok (user, after)) :
    user = table.newRow now new ∧ after.rows = table.rows ++ [user] ∧ ∀ other ∈ table.rows, other.username ≠ user.username := by
  unfold createUser at created
  dsimp only at created
  split at created
  · cases created
  · rename_i free
    split at created
    · cases created
    · cases created
      exact ⟨rfl, rfl, fun other member same => free ⟨other, member, same⟩⟩

theorem modify_has {change : UserProfile Time → UserProfile Time} {id : ∀ user, (change user).id = user.id}
    {username : ∀ user, (change user).username = user.username} (same : ∀ user, SameAccount user (change user))
    (has : table.Has user) : (table.modify userId change id username).Has user := by
  obtain ⟨row, member, account⟩ := has
  refine ⟨_, List.mem_map_of_mem member, account.trans ?_⟩
  split
  · exact same row
  · exact SameAccount.refl row

theorem updateLastLogin_has (has : table.Has user) : (table.updateLastLogin userId now).2.Has user := by
  cases found : table.getById userId with
  | none => simpa [updateLastLogin, found] using has
  | some row =>
      simp only [updateLastLogin, found]
      exact modify_has (fun _ => rfl) has

/-- A step keeps every account. -/
theorem Step.has (step : Step accepts table after) (has : table.Has user) : after.Has user := by
  cases step with
  | created created =>
      obtain ⟨-, rows, -⟩ := createUser_ok created
      obtain ⟨row, member, account⟩ := has
      exact ⟨row, rows ▸ List.mem_append_left _ member, account⟩
  | loggedIn userId now => exact updateLastLogin_has has
  | activated userId active => exact modify_has (fun _ => rfl) has

theorem Run.has (run : Run accepts table after) (has : table.Has user) : after.Has user := by
  induction run with
  | refl => exact has
  | tail earlier step ih => exact step.has ih

/-- A username is searched for among the rows. -/
theorem getByUsername_some (found : table.getByUsername username = some user) : user ∈ table.rows ∧ user.username = username :=
  findBy_some found

theorem getByUsername_mem (member : user ∈ table.rows) : table.getByUsername user.username = some user :=
  findBy_mem table.usernames member

/-- A row that is there is found again, and the login is noted in it. -/
theorem updateLastLogin_mem (member : user ∈ table.rows) :
    (table.updateLastLogin user.id now).1 = some { user with lastLoginAt := some now, updatedAt := now } := by
  have found : table.getById user.id = some user := findBy_mem table.ids member
  simp [updateLastLogin, found]

end UserTable

end LanguageAgent.Accounts
