import LanguageAgent.Interleaving.Contract
import LanguageAgent.Interleaving.Log
import LanguageAgent.Site.Accounts

/-! # The site at work

Visitors sign in and sign up at the same time as accounts are created by the script and
switched on and off. Every await of a login is a command, and a request to the API is one.
-/

namespace LanguageAgent.Site

open Accounts Api Gateway Interleaving Queue Webui Webui.Client

inductive SiteCommand where
  /-- A call of the store of failed attempts. -/
  | attempts (command : AuthCommand)
  | authenticate (username password : String)
  | signUp (payload : Json)
  /-- `create_user.py` -/
  | script (settings : PasswordSettings) (args : CreateUserArgs)
  | setActive (userId : Nat) (active : Bool)

abbrev SiteCommand.Reply (Stamp : Type) : SiteCommand → Type
  | .attempts command => Except PyError command.Reply
  | .authenticate _ _ => ClientM Client.AuthenticatedBackendUser
  | .signUp _ => Except PyError JSONResponse
  | .script _ _ => ScriptEnd Stamp
  | .setActive _ _ => Unit

abbrev siteSignature (Stamp : Type) : Signature := ⟨SiteCommand, SiteCommand.Reply Stamp⟩

inductive Visitor where
  | login (username password : String)
  | signUp (payload : Json)
  | script (settings : PasswordSettings) (args : CreateUserArgs)
  | setActive (userId : Nat) (active : Bool)

/-- What a visitor gets, or the exception that is raised. -/
inductive Outcome (Stamp : Type) where
  | login (answer : Except PyError (Option User))
  | signUp (answer : Except PyError JSONResponse)
  | script (ending : ScriptEnd Stamp)
  | activated

variable {Salt Time Stamp : Type}

abbrev SiteProgram (Stamp α : Type) := Program (siteSignature Stamp) α

/-- The calls of the store of failed attempts, as commands of the site. What one of them
    raises nothing catches. -/
def attempting {α : Type} : AuthProgram α → SiteProgram Stamp (Except PyError α)
  | .done value => .done (.ok value)
  | .issue command next => .issue (.attempts command) fun
      | .ok reply => attempting (next reply)
      | .error raised => .done (.error raised)

/-- `authenticate_user` of the Web UI, whose backend is the API. -/
def signIn (store : StoreKind) (settings : AuthRateLimitSettings) (username password : String) :
    SiteProgram Stamp (Except PyError (Option User)) :=
  let normalizedUsername := Python.stripText username
  (attempting (store.isLocked normalizedUsername)).bind fun
    | .error raised => .done (.error raised)
    | .ok true => .done (.ok none)
    | .ok false => .issue (.authenticate normalizedUsername password) fun answer =>
        match loginAnswered store settings normalizedUsername answer with
        | .ok next => attempting next
        | .error raised => .done (.error raised)

def Visitor.program (store : StoreKind) (settings : AuthRateLimitSettings) : Visitor → SiteProgram Stamp (Outcome Stamp)
  | .login username password => (signIn store settings username password).bind fun answer => .done (.login answer)
  | .signUp payload => .issue (.signUp payload) fun answer => .done (.signUp answer)
  | .script settings args => .issue (.script settings args) fun ending => .done (.script ending)
  | .setActive userId active => .issue (.setActive userId active) fun _ => .done .activated

/-! ## The world -/

structure SiteWorld (Time Stamp : Type) where
  attempts : AuthWorld Time := {}
  users : UserTable Stamp
  ticks : Nat := 0

/-- How a call of Redis fares. -/
inductive StoreDelivery where
  | answered
  | lost (raised : PyError)
  /-- Redis has run the command when the connection fails. -/
  | unanswered (raised : PyError)

/-- The store that is no service cannot fail. -/
def inMemory : AuthCommand → Bool
  | .memoryIsLocked _ | .memoryRecordFailure _ | .memoryClear _ => true
  | _ => false

/-- What the visitors cannot influence. -/
structure Instant (Salt Time Stamp : Type) where
  /-- The clock of the Web UI. -/
  now : Time
  /-- The clock of the database. -/
  stamp : Stamp
  salt : Salt
  delivery : Delivery
  store : StoreDelivery

variable [Ring Time] [LinearOrder Time]

/-- The effect of one command at its instant. -/
def siteExec (site : Setup Salt Stamp) (settings : AuthRateLimitSettings) (env : Nat → Instant Salt Time Stamp)
    (visit : Nat) (command : SiteCommand) (w : SiteWorld Time Stamp) : Option (command.Reply Stamp × SiteWorld Time Stamp) :=
  let instant := env w.ticks
  let ticks := w.ticks + 1
  match command with
  | .attempts command =>
      let made := authExec settings ⟨fun _ => instant.now, fun _ => .authenticationError⟩ visit command w.attempts
      match if inMemory command then .answered else instant.store with
      | .answered => made.map fun answer => (.ok answer.1, { w with attempts := answer.2, ticks })
      | .lost raised => some (.error raised, { w with ticks })
      | .unanswered raised => made.map fun answer => (.error raised, { w with attempts := answer.2, ticks })
  | .authenticate username password =>
      let answered := site.authenticate instant.delivery instant.stamp username password w.users
      some (answered.1, { w with users := answered.2, ticks })
  | .signUp payload =>
      let answered := site.signUp instant.delivery instant.salt instant.stamp payload w.users
      some (answered.1, { w with users := answered.2, ticks })
  | .script settings args =>
      let ended := createUserScript site.api.hashing site.api.casefold site.api.accepts settings instant.salt
        instant.stamp args w.users
      some (ended.1, { w with users := ended.2, ticks })
  | .setActive userId active => some ((), { w with users := w.users.setActive userId active, ticks })

def siteMachine (site : Setup Salt Stamp) (settings : AuthRateLimitSettings) (env : Nat → Instant Salt Time Stamp) :
    Machine (siteSignature Stamp) Nat (SiteWorld Time Stamp) := ⟨siteExec site settings env⟩

abbrev SiteSystem (Time Stamp : Type) := Config (siteSignature Stamp) Nat (SiteWorld Time Stamp) (Outcome Stamp)

/-- The visits are about to start, and no failed attempt is known. -/
def visits (store : StoreKind) (settings : AuthRateLimitSettings) (users : UserTable Stamp) (visitors : Nat → Visitor) :
    SiteSystem Time Stamp :=
  ⟨[], { users }, fun visit => (visitors visit).program store settings⟩

/-! ## How the table changes -/

section Table

variable {site : Setup Salt Stamp} {settings : AuthRateLimitSettings} {env : Nat → Instant Salt Time Stamp}
  {table : UserTable Stamp}

theorem authenticatePasswordUser_run {hashing : PasswordHashing Salt} {now : Stamp} {username password : String}
    (accepts : UserProfile Stamp → Bool) :
    UserTable.Run accepts table (authenticatePasswordUser hashing now username password table).2 := by
  unfold authenticatePasswordUser
  split
  · exact .refl
  · rename_i row found
    split_ifs
    · exact .refl
    · exact .refl
    · have login : UserTable.Step accepts table (table.updateLastLogin row.id now).2 := .loggedIn table row.id now
      split <;> rename_i updated <;> exact .single (by simpa [updated] using login)

theorem Setup.authenticate_run (delivery : Delivery) (now : Stamp) (username password : String) :
    UserTable.Run site.api.accepts table (site.authenticate delivery now username password table).2 := by
  have handled : ∀ key, UserTable.Run site.api.accepts table
      (loginEndpoint site.api now key (loginPayload username password) table).2 := by
    intro key
    have after := @loginEndpoint_after _ _ site now username password table key
    rcases after with same | same <;> rw [same]
    exact authenticatePasswordUser_run _
  unfold Setup.authenticate Delivery.exchange
  cases authHeaders site.apiKey with
  | error raised => exact .refl
  | ok _ =>
      cases delivery with
      | lost failure => exact .refl
      | answered => exact handled _
      | unanswered failure => exact handled _

theorem Setup.Creates.step {salt : Salt} {now : Stamp} {form : SignupForm} {user : UserProfile Stamp}
    {after : UserTable Stamp} (creates : site.Creates salt now form user table after) :
    UserTable.Step site.api.accepts table after := by
  obtain ⟨new, created, -⟩ := creates_spec creates
  exact .created created

theorem Setup.signUp_run (sound : site.Sound) (delivery : Delivery) (salt : Salt) (now : Stamp) (payload : Json) :
    UserTable.Run site.api.accepts table (site.signUp delivery salt now payload table).2 := by
  cases payload with
  | obj fields =>
      have answer := signUp_answer sound delivery salt now fields table
      revert answer
      cases site.signUp delivery salt now (.obj fields) table with
      | mk outcome after =>
          intro answer
          cases answer with
          | created user creates => exact .single creates.step
          | refused response status unchanged => exact unchanged ▸ .refl
          | unanswered response status user creates => exact .single creates.step
          | unsent unchanged => exact unchanged ▸ .refl
  | _ =>
      simp only [Setup.signUp]
      split_ifs <;> exact .refl

theorem createUserScript_run (settings : PasswordSettings) (args : CreateUserArgs) (salt : Salt) (now : Stamp) :
    UserTable.Run site.api.accepts table
      (createUserScript site.api.hashing site.api.casefold site.api.accepts settings salt now args table).2 := by
  unfold createUserScript
  split
  · exact .refl
  · split
    · exact .refl
    · split
      · exact .refl
      · exact .refl
      · rename_i created
        exact .single (.created created)

/-- A call of the store of failed attempts is answered, or Redis has raised. -/
theorem siteExec_attempts {visit : Nat} {command : AuthCommand} {reply : Except PyError command.Reply}
    {w after : SiteWorld Time Stamp}
    (answered : siteExec site settings env visit (.attempts command) w = some (reply, after)) :
    (∃ attempts, after = { w with attempts, ticks := w.ticks + 1 } ∧ (attempts = w.attempts ∨
        ∃ own, authExec settings ⟨fun _ => (env w.ticks).now, fun _ => .authenticationError⟩ visit command w.attempts =
          some (own, attempts))) ∧
      ∀ raised, reply = .error raised → inMemory command = false ∧
        ((env w.ticks).store = .lost raised ∨ (env w.ticks).store = .unanswered raised) := by
  unfold siteExec at answered
  dsimp only at answered
  have remote : ∀ delivery, (if inMemory command then StoreDelivery.answered else (env w.ticks).store) = delivery →
      delivery ≠ .answered → inMemory command = false ∧ (env w.ticks).store = delivery := by
    intro delivery same raises
    split_ifs at same with memory
    · exact absurd same.symm raises
    · exact ⟨Bool.eq_false_iff.mpr memory, same⟩
  split at answered
  · obtain ⟨⟨own, attempts⟩, made, same⟩ := Option.map_eq_some_iff.mp answered
    cases same
    exact ⟨⟨_, rfl, .inr ⟨own, made⟩⟩, fun raised other => by cases other⟩
  · rename_i raised fares
    cases answered
    refine ⟨⟨_, rfl, .inl rfl⟩, fun other same => ?_⟩
    cases same
    exact (remote _ fares (by simp)).imp id .inl
  · rename_i raised fares
    obtain ⟨⟨own, attempts⟩, made, same⟩ := Option.map_eq_some_iff.mp answered
    cases same
    refine ⟨⟨_, rfl, .inr ⟨own, made⟩⟩, fun other same => ?_⟩
    cases same
    exact (remote _ fares (by simp)).imp id .inr

/-- Every command changes the table as its operations do. -/
theorem siteExec_run (sound : site.Sound) {visit : Nat} {command : SiteCommand} {reply : command.Reply Stamp}
    {w after : SiteWorld Time Stamp} (answered : siteExec site settings env visit command w = some (reply, after)) :
    UserTable.Run site.api.accepts w.users after.users := by
  cases command with
  | attempts command =>
      obtain ⟨⟨attempts, rfl, -⟩, -⟩ := siteExec_attempts answered
      exact .refl
  | authenticate username password =>
      obtain ⟨-, rfl⟩ := Prod.mk.inj (Option.some.inj answered)
      exact Setup.authenticate_run ..
  | signUp payload =>
      obtain ⟨-, rfl⟩ := Prod.mk.inj (Option.some.inj answered)
      exact Setup.signUp_run sound ..
  | script settings args =>
      obtain ⟨-, rfl⟩ := Prod.mk.inj (Option.some.inj answered)
      exact createUserScript_run ..
  | setActive userId active =>
      obtain ⟨-, rfl⟩ := Prod.mk.inj (Option.some.inj answered)
      exact .single (.activated ..)

variable {c d : SiteSystem Time Stamp} {guard : Guard (siteSignature Stamp) Nat (SiteWorld Time Stamp)}

theorem reach_run (sound : site.Sound) (reach : (siteMachine site settings env).Reach guard c d) :
    UserTable.Run site.api.accepts c.world.users d.world.users := by
  have changes := Machine.Reach.world (fun w w' => UserTable.Run site.api.accepts w.users w'.users)
    (fun party command reply world world' answered => .single (siteExec_run sound answered)) reach
  generalize d.world = world at changes
  induction changes with
  | refl => exact .refl
  | tail _ step ih => exact ih.trans step

theorem modify_ids {userId : Nat} {change : UserProfile Stamp → UserProfile Stamp}
    (id : ∀ user, (change user).id = user.id) (username : ∀ user, (change user).username = user.username)
    (small : ∀ row ∈ table.rows, row.id < 2 ^ 31) :
    ∀ row ∈ (table.modify userId change id username).rows, row.id < 2 ^ 31 := by
  intro row member
  obtain ⟨old, isRow, rfl⟩ := List.mem_map.mp member
  split
  · rw [id]
    exact small old isRow
  · exact small old isRow

/-- The ids of a table stay as small as the database makes them. -/
theorem run_ids (sound : site.Sound) {after : UserTable Stamp} (run : UserTable.Run site.api.accepts table after)
    (small : ∀ row ∈ table.rows, row.id < 2 ^ 31) : ∀ row ∈ after.rows, row.id < 2 ^ 31 := by
  induction run with
  | refl => exact small
  | tail _ step ih =>
      cases step with
      | created created =>
          obtain ⟨-, rows, -⟩ := UserTable.createUser_ok created
          rw [rows]
          intro row member
          rcases List.mem_append.mp member with old | new
          · exact ih row old
          · rw [List.mem_singleton.mp new]
            exact sound.ids _ (createUser_accepted created)
      | loggedIn userId now =>
          unfold UserTable.updateLastLogin
          split
          · exact ih
          · refine modify_ids ?_ ?_ ih <;> exact fun _ => rfl
      | activated userId active => exact modify_ids _ _ ih

end Table

/-! ## What the visitors are told -/

abbrev SiteLog (Stamp : Type) := Log (siteSignature Stamp)

abbrev told (command : SiteCommand) (reply : command.Reply Stamp) : Answer (siteSignature Stamp) := ⟨command, reply⟩

/-- The command counts a failed attempt. -/
def SiteCommand.counts : SiteCommand → Bool
  | .attempts (.incr _) | .attempts (.memoryRecordFailure _) => true
  | _ => false

/-- The API has refused the credentials. -/
def Refused (username password : String) (log : SiteLog Stamp) : Prop :=
  ∃ error : BackendClientError, told (.authenticate (Python.stripText username) password) (.error (.client error)) ∈ log ∧
    error.reply = .authenticationError

/-- Only a login whose credentials were refused counts a failed attempt. -/
def Visitor.Allowed (visitor : Visitor) (log : SiteLog Stamp) (command : SiteCommand) : Prop :=
  command.counts = true → ∃ username password, visitor = .login username password ∧ Refused username password log

/-- What a visitor gets is what the log says. -/
def Visitor.Concluded : Visitor → Outcome Stamp → SiteLog Stamp → Prop
  | .login username password, .login (.ok (some signedIn)), log =>
      ∃ user, told (.authenticate (Python.stripText username) password) (.ok user) ∈ log ∧
        signedIn = toChainlitUser user
  | .login _ _, .login (.ok none), _ => True
  | .login username password, .login (.error raised), log =>
      told (.authenticate (Python.stripText username) password) (.error (.other raised)) ∈ log ∨
        ∃ command, told (.attempts command) (.error raised) ∈ log
  | .signUp payload, .signUp answer, log => told (.signUp payload) answer ∈ log
  | .script _ _, .script _, _ => True
  | .setActive _ _, .activated, _ => True
  | _, _, _ => False

theorem normalizeUsername_stripped (username : String) :
    normalizeUsername (Python.stripText username) = normalizeUsername username :=
  Python.stripText_stripText username

section Logs

variable {store : StoreKind} {settings : AuthRateLimitSettings} {visitor : Visitor} {username password : String}
  {log : SiteLog Stamp}

/-- Only these commands are issued. -/
def issuing (K : AuthCommand → Prop) : Contract authSignature := ⟨fun _ _ => True, K⟩

/-- The store is asked as its program says, until Redis raises. -/
theorem attempting_obeys {α : Type} {p : AuthProgram α} {K : AuthCommand → Prop} {value : α → Prop}
    {post : Except PyError α → SiteLog Stamp → Prop} (issues : p.Honours (issuing K) value)
    (every : ∀ later command, K command → visitor.Allowed (log ++ later) (.attempts command))
    (ends : ∀ a later, value a → post (.ok a) (log ++ later))
    (raises : ∀ command raised later, told (.attempts command) (.error raised) ∈ later → post (.error raised) (log ++ later)) :
    (attempting p).Obeys (logging visitor.Allowed) post log := by
  induction p generalizing log with
  | done a =>
      have ended := ends a [] issues
      rwa [List.append_nil] at ended
  | issue command next ih =>
      obtain ⟨mayIssue, rest⟩ := issues
      rw [attempting, Program.obeys_issue]
      rintro (raised | reply)
      · exact ⟨_, ⟨by simpa using every [] command mayIssue, rfl⟩, raises command raised _ (by simp)⟩
      · refine ⟨_, ⟨by simpa using every [] command mayIssue, rfl⟩, ?_⟩
        refine ih reply (rest reply trivial) ?_ ?_ ?_ <;> intros <;> simp only [List.append_assoc]
        · exact every _ _ ‹_›
        · exact ends _ _ ‹_›
        · exact raises _ _ _ (List.mem_append_right _ ‹_›)

/-- The command counts no failure. -/
def Uncounted (command : AuthCommand) : Prop := (SiteCommand.attempts command).counts = false

theorem Uncounted.allowed {command : AuthCommand} (uncounted : Uncounted command) :
    visitor.Allowed log (.attempts command) := fun counts => absurd (uncounted.symm.trans counts) Bool.false_ne_true

/-- Neither checking nor clearing counts a failure. -/
theorem isLocked_uncounted : (store.isLocked username).Honours (issuing Uncounted) fun _ => True := by
  cases store <;> exact ⟨rfl, fun _ _ => trivial⟩

theorem clear_uncounted : (store.clear username).Honours (issuing Uncounted) fun _ => True := by
  cases store <;> exact ⟨rfl, fun _ _ => trivial⟩

theorem recordFailure_issues : (store.recordFailure settings username).Honours (issuing fun _ => True) fun _ => True := by
  have locks : ∀ failures, (StoreKind.lock settings username failures).Honours (issuing fun _ => True) fun _ => True := by
    intro failures
    unfold StoreKind.lock
    split_ifs
    · exact ⟨trivial, fun _ _ => trivial⟩
    · trivial
  cases store with
  | memory => exact ⟨trivial, fun _ _ => trivial⟩
  | redis =>
      refine ⟨trivial, fun failures _ => ?_⟩
      dsimp only
      split_ifs
      · exact ⟨trivial, fun _ _ => locks failures⟩
      · exact locks failures

/-- What a login makes of the reply is what the reply says. -/
theorem handled_obeys {answer : ClientM Client.AuthenticatedBackendUser} {next : AuthProgram (Option User)}
    (told : told (.authenticate (Python.stripText username) password) answer ∈ log)
    (handled : loginAnswered store settings (Python.stripText username) answer = .ok next) :
    (attempting next).Obeys (logging (Visitor.login username password).Allowed)
      (fun answer log => (Visitor.login username password).Concluded (.login answer) log) log := by
  have raises : ∀ (command : AuthCommand) (raised : PyError) (later : SiteLog Stamp),
      Site.told (.attempts command) (.error raised) ∈ later →
        (Visitor.login username password).Concluded (.login (.error raised)) (log ++ later) :=
    fun command raised later member => .inr ⟨command, List.mem_append_right _ member⟩
  rcases answer with ⟨error | raised⟩ | ⟨user⟩
  · cases handled
    cases same : error.reply with
    | authenticationError =>
        have refused : ∀ later, Refused username password (log ++ later) :=
          fun later => ⟨error, List.mem_append_left _ told, same⟩
        have none_ : (handleReply store settings (Python.stripText username) .authenticationError).Honours
            (issuing fun _ => True) (· = none) := recordFailure_issues.bind fun _ _ => rfl
        refine attempting_obeys none_ (fun later command _ _ => ⟨username, password, rfl, refused later⟩) ?_ raises
        rintro _ later rfl
        trivial
    | clientError category => trivial
    | user user =>
        cases error <;> cases same
  · cases handled
  · cases handled
    have some_ : (handleReply store settings (Python.stripText username) (.user user)).Honours (issuing Uncounted)
        (· = some (toChainlitUser user)) := clear_uncounted.bind fun _ _ => rfl
    refine attempting_obeys some_ (fun later command uncounted => uncounted.allowed) ?_ raises
    rintro _ later rfl
    exact ⟨user, List.mem_append_left _ told, rfl⟩

theorem signIn_obeys :
    (signIn store settings username password : SiteProgram Stamp _).Obeys
      (logging (Visitor.login username password).Allowed)
      (fun answer log => (Visitor.login username password).Concluded (.login answer) log) [] := by
  rw [signIn, Program.obeys_bind]
  refine attempting_obeys isLocked_uncounted (fun later command uncounted => uncounted.allowed) ?_ ?_
  · rintro (_ | _) later -
    · intro answer
      refine ⟨_, ⟨fun counts => by simp [SiteCommand.counts] at counts, rfl⟩, ?_⟩
      have last : told (.authenticate (Python.stripText username) password) answer ∈
          ([] ++ later) ++ [told (.authenticate (Python.stripText username) password) answer] := by simp
      dsimp only
      cases handled : loginAnswered store settings (Python.stripText username) answer with
      | ok next => exact handled_obeys last handled
      | error raised =>
          rcases answer with ⟨error | other⟩ | ⟨user⟩ <;> cases handled
          exact .inl last
    · trivial
  · exact fun command raised later member => .inr ⟨command, List.mem_append_right _ member⟩

theorem Visitor.program_obeys : (visitor.program store settings : SiteProgram Stamp _).Obeys
    (logging visitor.Allowed) visitor.Concluded [] := by
  have silent : ∀ command : SiteCommand, command.counts = false → visitor.Allowed ([] : SiteLog Stamp) command :=
    fun command no yes => by simp [no] at yes
  cases visitor with
  | login username password =>
      rw [Visitor.program, Program.obeys_bind]
      exact signIn_obeys
  | signUp payload => exact fun answer => ⟨_, ⟨silent _ rfl, rfl⟩, by simp [Concluded]⟩
  | script settings args => exact fun ending => ⟨_, ⟨silent _ rfl, rfl⟩, trivial⟩
  | setActive userId active => exact fun _ => ⟨_, ⟨silent _ rfl, rfl⟩, trivial⟩

end Logs

/-! ## A small site -/

section Example

/-- Numbers with a point are all written alike. -/
def plainLibrary : JsonLibrary where
  floats := { text := fun _ => ['0', '.', '0'], plain := fun _ => by decide }
  floatOf _ := .finite 0
  depth := 9

def plainSite : Setup Unit Nat where
  api :=
    { auth := { enabled := true, apiKey := some "key" }
      settings := { defaultRole := "user", requireAdminApproval := false }
      signupEnabled := true
      hashing := plainHashing
      casefold := id
      accepts := fun user => decide (user.id < 2 ^ 31)
      libraryError := .valueError "The password cannot be hashed."
      isoformat := fun _ => "2024-01-01T00:00:00"
      strOf := plainStrOf
      describe := fun _ _ => [] }
  library := plainLibrary
  apiKey := "key"
  signupEnabled := true

theorem plainSite_sound : plainSite.Sound where
  ids user accepted := by simpa [plainSite] using accepted
  describes :=
    { held := ⟨4, rfl, fun _ _ => by simp [plainSite, Json.HeldFields]⟩
      distinct := fun _ _ => by simp [plainSite]
      fresh := fun _ _ => by simp [plainSite] }

/-- Alice signs up and signs in, and somebody else tries her username, as does her twin. -/
def someVisitors : Nat → Visitor
  | 0 => .signUp (.obj [("username", .str " alice"), ("password", .str "correct horse")])
  | 1 => .login "alice " "correct horse"
  | 2 => .login "alice" "battery staple"
  | 3 => .signUp (.obj [("username", .str "alice2"), ("password", .str "battery staple")])
  | _ => .setActive 1 false

/-- Every response arrives. -/
def calm (ticks : Nat) : Instant Unit Int Nat := ⟨ticks, ticks, (), .answered, .answered⟩

abbrev calmSite : Machine (siteSignature Nat) Nat (SiteWorld Int Nat) := siteMachine plainSite ⟨5, 300, 300⟩ calm

theorem nobody_counted : ∀ user ∈ ([] : List (UserProfile Nat)), user.id < 1 := List.forall_mem_nil _

/-- The first visits of a new site. -/
def someVisits : SiteSystem Int Nat := visits .redis ⟨5, 300, 300⟩ { counted := nobody_counted } someVisitors

/-- The status a sign-up was answered with. -/
def statusOf (visit : Nat) (d : SiteSystem Int Nat) : Nat :=
  match d.program visit with
  | .done (.signUp (.ok response)) => response.statusCode
  | _ => 0

theorem statusOf_created {visit : Nat} {d : SiteSystem Int Nat} (status : statusOf visit d = 201) :
    ∃ response : JSONResponse, d.program visit = .done (.signUp (.ok response)) ∧ response.statusCode = 201 := by
  unfold statusOf at status
  split at status
  · rename_i response ended
    exact ⟨response, ended, status⟩
  · cases status

/-- Who a login has let in. -/
def letIn (visit : Nat) (d : SiteSystem Int Nat) : Option User :=
  match d.program visit with
  | .done (.login (.ok user)) => user
  | _ => none

theorem letIn_some {visit : Nat} {d : SiteSystem Int Nat} {user : User} (found : letIn visit d = some user) :
    d.program visit = .done (.login (.ok (some user))) := by
  unfold letIn at found
  split at found
  · rename_i ended
    rw [ended, found]
  · cases found

end Example

end LanguageAgent.Site
