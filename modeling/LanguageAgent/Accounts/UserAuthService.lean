import LanguageAgent.Accounts.UserRepository
import LanguageAgent.Python.Text

/-! # Accounts are created and signed in to

An account is created by the sign-up of the API or by the script `create_user.py`.
-/

namespace LanguageAgent.Accounts

open Python (stripText)

/-- `hash_password`, which may raise, and `verify_password`: it accepts the password that was hashed and no other. -/
structure PasswordHashing (Salt : Type) where
  hashPassword : Salt → String → Option String
  verifyPassword : String → String → Bool
  verify_hash : ∀ {salt password hashed}, hashPassword salt password = some hashed →
    ∀ other, verifyPassword other hashed = true ↔ other = password

/-! ## Usernames, display names and passwords -/

def usernameMinLength : Nat := 3

def usernameMaxLength : Nat := 64

def displayNameMaxLength : Nat := 80

def normalizeUsername (username : String) : String := stripText username

def isUsernameInner (c : Char) : Bool := c.isAlphanum || c == '.' || c == '_' || c == '@' || c == '-'

/-- `[A-Za-z0-9](?:[A-Za-z0-9._@-]{1,62}[A-Za-z0-9])?` -/
def matchesUsernamePattern : List Char → Bool
  | [] => false
  | first :: rest =>
      first.isAlphanum && (rest.isEmpty ||
        (rest.getLast?.any Char.isAlphanum && rest.dropLast.all isUsernameInner &&
          decide (1 ≤ rest.dropLast.length ∧ rest.dropLast.length ≤ 62)))

def validateUsername (username : String) : Except String Unit :=
  if username = "" then .error "Username is required."
  else if username.length < usernameMinLength ∨ username.length > usernameMaxLength then
    .error s!"Username must be between {usernameMinLength} and {usernameMaxLength} characters long."
  else if matchesUsernamePattern username.toList = false then
    .error "Username may use letters, numbers, dots, underscores, hyphens, or @."
  else .ok ()

def validateDisplayName : Option String → Except String (Option String)
  | none => .ok none
  | some displayName =>
      let normalizedDisplayName := stripText displayName
      if normalizedDisplayName = "" then .ok none
      else if normalizedDisplayName.length > displayNameMaxLength then
        .error s!"Display name must be {displayNameMaxLength} characters or fewer."
      else .ok (some normalizedDisplayName)

def obviousPasswords : List String :=
  ["password", "password123", "12345678", "123456789", "1234567890", "qwerty", "qwerty123", "letmein", "admin",
    "changeme", "welcome"]

structure PasswordSettings where
  requireStrongPassword : Bool := true
  minPasswordLength : Int := 12

def validatePasswordStrength (casefold : String → String) (settings : PasswordSettings) (password : String)
    (username : Option String) : Except String Unit :=
  if settings.requireStrongPassword = false then
    if password = "" ∨ stripText password = "" then .error "Password must not be empty." else .ok ()
  else if stripText password = "" then .error "Password must not be empty."
  else
    let loweredPassword := casefold password
    if loweredPassword ∈ obviousPasswords then
      .error "Password is too weak. Use a longer unique password from a password manager."
    else
      let normalizedUsername := casefold (stripText (username.getD ""))
      if normalizedUsername ≠ "" ∧ loweredPassword = normalizedUsername then
        .error "Password must not match the username."
      else if (password.length : Int) < settings.minPasswordLength then
        .error s!"Password must be at least {settings.minPasswordLength} characters long."
      else .ok ()

/-! ## The two ways to an account, and signing in -/

structure UserSignupCommand where
  username : String
  password : String
  confirmPassword : Option String := none
  displayName : Option String := none
  preferredLanguage : Option String := none

structure SignupSettings extends PasswordSettings where
  defaultRole : String
  requireAdminApproval : Bool

/-- The options of `create_user.py`. -/
structure CreateUserArgs where
  username : String
  password : String
  displayName : Option String := none
  admin : Bool := false
  inactive : Bool := false
  role : String := "user"
  preferredLanguage : Option String := none
  uiTheme : Option String := none

/-- How a run of `create_user.py` ends. -/
inductive ScriptEnd (Time : Type) where
  /-- The user is printed, and 0 is returned. -/
  | created (user : UserProfile Time)
  /-- The message goes to `stderr`, and 1 is returned. -/
  | refused (message : String)
  | raised

variable {Salt Time : Type}

/-- `(command.preferred_language or "").strip() or None` -/
def strippedLanguage (preferredLanguage : Option String) : Option String :=
  let language := stripText (preferredLanguage.getD "")
  if language = "" then none else some language

def signupUser (hashing : PasswordHashing Salt) (casefold : String → String) (accepts : UserProfile Time → Bool)
    (settings : SignupSettings) (salt : Salt) (now : Time) (command : UserSignupCommand) (table : UserTable Time) :
    Except CreationError (UserProfile Time × UserTable Time) := do
  let normalizedUsername := normalizeUsername command.username
  (validateUsername normalizedUsername).mapError .valueError
  let normalizedDisplayName ← (validateDisplayName command.displayName).mapError .valueError
  if command.confirmPassword.any (· ≠ command.password) then
    throw (.valueError "Password confirmation does not match.")
  (validatePasswordStrength casefold settings.toPasswordSettings command.password normalizedUsername).mapError .valueError
  match hashing.hashPassword salt command.password with
  | none => throw .other
  | some passwordHash =>
      table.createUser accepts now
        { username := normalizedUsername
          passwordHash
          displayName := normalizedDisplayName
          role := settings.defaultRole
          isActive := !settings.requireAdminApproval
          preferredLanguage := strippedLanguage command.preferredLanguage }

/-- `run` of `create_user.py` -/
def createUserScript (hashing : PasswordHashing Salt) (casefold : String → String) (accepts : UserProfile Time → Bool)
    (settings : PasswordSettings) (salt : Salt) (now : Time) (args : CreateUserArgs) (table : UserTable Time) :
    ScriptEnd Time × UserTable Time :=
  match validatePasswordStrength casefold settings args.password args.username with
  | .error message => (.refused message, table)
  | .ok () =>
      match hashing.hashPassword salt args.password with
      | none => (.raised, table)
      | some passwordHash =>
          match table.createUser accepts now
            { username := args.username
              passwordHash
              displayName := args.displayName
              role := args.role
              isActive := !args.inactive
              isAdmin := args.admin
              preferredLanguage := args.preferredLanguage
              uiTheme := args.uiTheme } with
          | .error (.usernameAlreadyExists _) => (.refused s!"Refusing to create duplicate username: {args.username}", table)
          | .error _ => (.raised, table)
          | .ok (user, after) => (.created user, after)

def authenticatePasswordUser (hashing : PasswordHashing Salt) (now : Time) (username password : String)
    (table : UserTable Time) : Option (UserProfile Time) × UserTable Time :=
  match table.getByUsername (normalizeUsername username) with
  | none => (none, table)
  | some user =>
      if user.isActive = false then (none, table)
      else if hashing.verifyPassword password user.passwordHash = false then (none, table)
      else
        match table.updateLastLogin user.id now with
        | (some login, after) => (some login, after)
        | (none, after) => (some user, after)

/-! ## What each of them does -/

section Creations

variable {hashing : PasswordHashing Salt} {casefold : String → String} {accepts : UserProfile Time → Bool}
  {salt : Salt} {now : Time} {table after : UserTable Time} {user : UserProfile Time}

/-- The account that a way to an account has created. -/
structure Created (hashing : PasswordHashing Salt) (salt : Salt) (username password : String) (user : UserProfile Time)
    (after : UserTable Time) : Prop where
  member : user ∈ after.rows
  username : user.username = username
  hashed : hashing.hashPassword salt password = some user.passwordHash

theorem created_of_createUser {new : NewUser} {password : String}
    (hashed : hashing.hashPassword salt password = some new.passwordHash)
    (created : table.createUser accepts now new = .ok (user, after)) :
    Created hashing salt new.username password user after := by
  obtain ⟨rfl, rows, -⟩ := UserTable.createUser_ok created
  exact ⟨rows ▸ List.mem_append_right _ List.mem_cons_self, rfl, hashed⟩

theorem signupUser_created {settings : SignupSettings} {command : UserSignupCommand}
    (signup : signupUser hashing casefold accepts settings salt now command table = .ok (user, after)) :
    Created hashing salt (normalizeUsername command.username) command.password user after := by
  simp only [signupUser, bind, Except.bind] at signup
  split at signup
  · cases signup
  · split at signup
    · cases signup
    · split at signup
      · cases signup
      · split at signup
        · cases signup
        · split at signup
          · cases signup
          · rename_i hashed
            exact created_of_createUser hashed signup

theorem createUserScript_created {settings : PasswordSettings} {args : CreateUserArgs}
    (script : createUserScript hashing casefold accepts settings salt now args table = (.created user, after)) :
    Created hashing salt args.username args.password user after := by
  unfold createUserScript at script
  split at script
  · cases script
  · split at script
    · cases script
    · rename_i hashed
      split at script
      · cases script
      · cases script
      · rename_i created
        cases script
        exact created_of_createUser hashed created

end Creations

end LanguageAgent.Accounts
