import LanguageAgent.Accounts.UserAuthService

/-! # Who can sign in

Signing in strips the username. The sign-up has stripped it too, but `create_user.py`
stores it as it is given.
-/

namespace LanguageAgent.Accounts

variable {Salt Time : Type}

/-- An account is created in one of two ways. -/
inductive CreationPath where
  | signup (settings : SignupSettings) (command : UserSignupCommand)
  | script (settings : PasswordSettings) (args : CreateUserArgs)

namespace CreationPath

def username : CreationPath → String
  | .signup _ command => command.username
  | .script _ args => args.username

def password : CreationPath → String
  | .signup _ command => command.password
  | .script _ args => args.password

/-- The account and the table after it, where the path succeeds. -/
def run (hashing : PasswordHashing Salt) (casefold : String → String) (accepts : UserProfile Time → Bool) (salt : Salt)
    (now : Time) (table : UserTable Time) : CreationPath → Option (UserProfile Time × UserTable Time)
  | .signup settings command => (signupUser hashing casefold accepts settings salt now command table).toOption
  | .script settings args =>
      match createUserScript hashing casefold accepts settings salt now args table with
      | (.created user, after) => some (user, after)
      | _ => none

/-- The script is given a username without space around it. -/
def Tight : CreationPath → Prop
  | .signup _ _ => True
  | .script _ args => normalizeUsername args.username = args.username

/-- The username that is stored. -/
def stored : CreationPath → String
  | .signup _ command => normalizeUsername command.username
  | .script _ args => args.username

theorem tight_iff (path : CreationPath) : path.Tight ↔ normalizeUsername path.username = path.stored := by
  cases path with
  | signup settings command => exact iff_of_true trivial rfl
  | script settings args => rfl

theorem run_created {path : CreationPath} {hashing : PasswordHashing Salt} {casefold : String → String}
    {accepts : UserProfile Time → Bool} {salt : Salt} {now : Time} {table after : UserTable Time}
    {user : UserProfile Time} (run : path.run hashing casefold accepts salt now table = some (user, after)) :
    Created hashing salt path.stored path.password user after := by
  cases path with
  | signup settings command =>
      simp only [CreationPath.run] at run
      cases signup : signupUser hashing casefold accepts settings salt now command table with
      | error failure =>
          rw [signup] at run
          cases run
      | ok result =>
          rw [signup] at run
          cases run
          exact signupUser_created signup
  | script settings args =>
      simp only [CreationPath.run] at run
      split at run
      · rename_i script
        cases run
        exact createUserScript_created script
      · cases run

end CreationPath

/-- With its password, and with no other, the username signs in to the account. -/
def SignsIn (hashing : PasswordHashing Salt) (username password : String) (account : UserProfile Time)
    (table : UserTable Time) : Prop :=
  ∀ now, (∃ user, (authenticatePasswordUser hashing now username password table).1 = some user ∧ SameAccount account user) ∧
    ∀ other, other ≠ password → (authenticatePasswordUser hashing now username other table).1 = none

section SigningIn

variable {hashing : PasswordHashing Salt} {now : Time} {table : UserTable Time} {user account : UserProfile Time}
  {username password : String}

/-- Whoever is signed in has the stripped username. -/
theorem authenticate_username (signedIn : (authenticatePasswordUser hashing now username password table).1 = some user) :
    user.username = normalizeUsername username := by
  unfold authenticatePasswordUser at signedIn
  split at signedIn
  · cases signedIn
  · rename_i row found
    obtain ⟨member, name⟩ := UserTable.getByUsername_some found
    have login := @UserTable.updateLastLogin_mem _ table now row member
    split at signedIn
    · cases signedIn
    · split at signedIn
      · cases signedIn
      · split at signedIn
        · rename_i refreshed
          rw [refreshed] at login
          cases login
          cases signedIn
          exact name
        · cases signedIn
          exact name

/-- What signing in comes to for a row that is there, and active. -/
theorem authenticate_row (member : user ∈ table.rows) (active : user.isActive = true)
    (name : normalizeUsername username = user.username) :
    (authenticatePasswordUser hashing now username password table).1 =
      if hashing.verifyPassword password user.passwordHash = true then
        some { user with lastLoginAt := some now, updatedAt := now }
      else none := by
  have found : table.getByUsername (normalizeUsername username) = some user := by
    rw [name]
    exact UserTable.getByUsername_mem member
  have login := @UserTable.updateLastLogin_mem _ table now user member
  simp only [authenticatePasswordUser, found, active, Bool.true_eq_false, if_false]
  cases accepted : hashing.verifyPassword password user.passwordHash with
  | false => simp
  | true =>
      cases updated : table.updateLastLogin user.id now with
      | mk refreshed after =>
          rw [updated] at login
          simp only at login
          simp [login, active]

/-- An active account is signed in to under its stored username, and no other. -/
theorem signsIn_iff {salt : Salt} (hashed : hashing.hashPassword salt password = some account.passwordHash)
    (active : table.HasActive account) :
    SignsIn hashing username password account table ↔ normalizeUsername username = account.username := by
  obtain ⟨row, member, same, isActive⟩ := active
  constructor
  · intro signsIn
    obtain ⟨⟨user, signedIn, isAccount⟩, -⟩ := signsIn row.createdAt
    exact (authenticate_username signedIn).symm.trans isAccount.username
  · intro name now
    have verified : ∀ other, hashing.verifyPassword other row.passwordHash = true ↔ other = password := by
      rw [same.passwordHash]
      exact hashing.verify_hash hashed
    have signs : ∀ other, _ := fun other =>
      @authenticate_row _ _ hashing now table row username other member isActive (name.trans same.username.symm)
    constructor
    · exact ⟨_, (signs password).trans (if_pos ((verified password).mpr rfl)), same.trans rfl⟩
    · intro other differs
      exact (signs other).trans (if_neg fun accepted => differs ((verified other).mp accepted))

/-- As long as it stays active, whoever was given an account can sign in with it, unless the
    script was given a username with space around it. -/
theorem account_signs_in_iff {path : CreationPath} {casefold : String → String} {accepts : UserProfile Time → Bool}
    {salt : Salt} {before created later : UserTable Time}
    (run : path.run hashing casefold accepts salt now before = some (account, created))
    (changes : UserTable.Run accepts created later)
    (active : ∀ row ∈ later.rows, row.id = account.id → row.isActive = true) :
    SignsIn hashing path.username path.password account later ↔ path.Tight := by
  have creation := CreationPath.run_created run
  obtain ⟨row, member, same⟩ := changes.has ⟨account, creation.member, SameAccount.refl account⟩
  rw [signsIn_iff creation.hashed ⟨row, member, same, active row member same.id⟩, creation.username, path.tight_iff]

end SigningIn

/-- Hashes that are the password behind a mark. -/
def plainHashing : PasswordHashing Unit where
  hashPassword _ password := some ("$" ++ password)
  verifyPassword password hashed := "$" ++ password == hashed
  verify_hash := by
    rintro salt password hashed hash other
    cases hash
    simp

/-- Every row fits the columns, and no letter needs folding. -/
def plainRun (path : CreationPath) : Option (UserProfile Nat × UserTable Nat) :=
  path.run plainHashing id (fun _ => true) () 0 {}

/-- A sign-up whose username has space around it. -/
def paddedSignup : CreationPath :=
  .signup { defaultRole := "user", requireAdminApproval := false } { username := " bob ", password := "correct horse" }

theorem account_signs_in_signup : ∃ account created, plainRun paddedSignup = some (account, created) ∧
    SignsIn plainHashing " bob " "correct horse" account created := by
  cases run : plainRun paddedSignup with
  | none => exact absurd (congrArg Option.isSome run) (by decide)
  | some result =>
      have alone : (plainRun paddedSignup).map (fun result => result.2.rows.map fun row => row.isActive) = some [true] := by
        decide
      rw [run, Option.map_some, Option.some_inj] at alone
      refine ⟨result.1, result.2, rfl, (account_signs_in_iff run .refl ?_).mpr trivial⟩
      intro row member isAccount
      have found := List.mem_map_of_mem (f := fun row : UserProfile Nat => row.isActive) member
      rw [alone] at found
      exact List.mem_singleton.mp found

/-- The script's options with space before the username. -/
def paddedScript : CreationPath := .script {} { username := " bob", password := "correct horse" }

/-- The account is active, and its username and password do not sign in to it. -/
theorem padded_username_shut_out : ∃ account created, plainRun paddedScript = some (account, created) ∧
    account.isActive = true ∧ ¬ SignsIn plainHashing " bob" "correct horse" account created := by
  cases run : plainRun paddedScript with
  | none => exact absurd (congrArg Option.isSome run) (by decide)
  | some result =>
      have active : (plainRun paddedScript).map (fun result => result.1.isActive) = some true := by decide
      have fails : (plainRun paddedScript).map (fun result =>
          (authenticatePasswordUser plainHashing 1 " bob" "correct horse" result.2).1.isSome) = some false := by decide
      rw [run, Option.map_some, Option.some_inj] at active fails
      refine ⟨result.1, result.2, rfl, active, fun signsIn => ?_⟩
      obtain ⟨⟨user, signedIn, -⟩, -⟩ := signsIn 1
      rw [signedIn] at fails
      cases fails

end LanguageAgent.Accounts
