import LanguageAgent.Site.System

/-! # Who a login is

Whatever else happens on the site, a login is somebody whose account was active and whose
password was right, and only wrong credentials count as a failed attempt.
-/

namespace LanguageAgent.Site

open Accounts Api Gateway Interleaving Queue Webui Webui.Client

variable {Salt Time Stamp : Type} [Ring Time] [LinearOrder Time] {site : Setup Salt Stamp}
  {settings : AuthRateLimitSettings} {env : Nat → Instant Salt Time Stamp} {store : StoreKind} {users : UserTable Stamp}
  {visitors : Nat → Visitor} {c d : SiteSystem Time Stamp} {visit : Nat} {username password : String}

/-- The account a user is shown for. -/
def shownUser (user : UserProfile Stamp) : User := toChainlitUser (backendUser user)

/-- The credentials are those of an active account. -/
structure Holder (hashing : PasswordHashing Salt) (username password : String) (table : UserTable Stamp)
    (user : UserProfile Stamp) : Prop where
  active : ∃ row ∈ table.rows, row.isActive = true ∧ SameAccount row user
  username : user.username = normalizeUsername username
  password : hashing.verifyPassword password user.passwordHash = true

/-- At this point of the run the API was asked, and this is what it made of the credentials. -/
theorem answered_authenticate (sound : site.Sound) (small : ∀ row ∈ c.world.users.rows, row.id < 2 ^ 31)
    {answer : ClientM Client.AuthenticatedBackendUser}
    (answered : (siteMachine site settings env).Answered Machine.anyStep c d visit
      (told (.authenticate (Python.stripText username) password) answer)) :
    ∃ before after : SiteSystem Time Stamp, (siteMachine site settings env).Reach Machine.anyStep c before ∧
      (siteMachine site settings env).Reach Machine.anyStep before d ∧
      (siteMachine site settings env).Reach Machine.anyStep after d ∧
      SignInAnswer site.apiKey site.api.hashing (env before.world.ticks).stamp (Python.stripText username) password
        before.world.users after.world.users answer := by
  obtain ⟨before, after, first, step, -, given, rest⟩ := answered
  obtain ⟨same, world⟩ := Prod.mk.inj (Option.some.inj given)
  refine ⟨before, after, first, .head step rest, rest, ?_⟩
  have ids := run_ids sound (reach_run sound first) small
  dsimp only at same
  rw [← world, ← same]
  exact authenticate_answer sound ids _

theorem authenticatePasswordUser_stripped (hashing : PasswordHashing Salt) (now : Stamp) (table : UserTable Stamp) :
    authenticatePasswordUser hashing now (Python.stripText username) password table =
      authenticatePasswordUser hashing now username password table := by
  simp only [authenticatePasswordUser, normalizeUsername_stripped]

/-- A failure that is counted has been counted by a command of the visit. -/
theorem counted_logged {logs : Nat → SiteLog Stamp} (start : c.world.attempts.counted = ∅)
    (logged : (siteMachine site settings env).Logged Machine.anyStep c d logs) :
    ∀ visit ∈ d.world.attempts.counted, ∃ answer ∈ logs visit, answer.command.counts = true := by
  refine Machine.Logged.invariant (fun w (logs : Nat → SiteLog Stamp) => ∀ visit ∈ w.attempts.counted,
    ∃ answer ∈ logs visit, answer.command.counts = true) (by simp [start]) ?_ logged
  intro w logs party command reply after known answered visit counted
  have grown : visit ∈ w.attempts.counted → ∃ answer ∈ Function.update logs party (logs party ++ [⟨command, reply⟩]) visit,
      answer.command.counts = true := by
    intro before
    obtain ⟨answer, member, counts⟩ := known visit before
    refine ⟨answer, ?_, counts⟩
    by_cases same : visit = party
    · subst same
      simp [member]
    · simpa [same] using member
  by_cases own : visit = party ∧ command.counts = true
  · obtain ⟨rfl, counts⟩ := own
    exact ⟨⟨command, reply⟩, by simp, counts⟩
  · refine grown ?_
    cases command with
    | attempts command =>
        have given : siteExec site settings env party (.attempts command) w = some (reply, after) := answered
        obtain ⟨⟨attempts, rfl, rfl | ⟨reply, made⟩⟩, -⟩ := siteExec_attempts given
        · exact counted
        · cases command <;> cases made <;> simp_all [AuthWorld.count, AuthWorld.record, AuthWorld.tick, SiteCommand.counts]
    | _ =>
        obtain ⟨-, rfl⟩ := Prod.mk.inj (Option.some.inj answered)
        exact counted

/-- In a step of the visit Redis raised this. -/
def RedisRaised (site : Setup Salt Stamp) (settings : AuthRateLimitSettings) (env : Nat → Instant Salt Time Stamp)
    (c d : SiteSystem Time Stamp) (visit : Nat) (raised : PyError) : Prop :=
  ∃ (command : AuthCommand) (before after : SiteSystem Time Stamp),
    (siteMachine site settings env).Reach Machine.anyStep c before ∧
      (siteMachine site settings env).Step Machine.anyStep before after ∧
      after.trace = before.trace ++ [⟨visit, .attempts command⟩] ∧
      (siteMachine site settings env).Reach Machine.anyStep after d ∧ inMemory command = false ∧
      ((env before.world.ticks).store = .lost raised ∨ (env before.world.ticks).store = .unanswered raised)

theorem answered_raised {command : AuthCommand} {raised : PyError}
    (answered : (siteMachine site settings env).Answered Machine.anyStep c d visit
      (told (.attempts command) (.error raised))) : RedisRaised site settings env c d visit raised := by
  obtain ⟨before, after, first, step, own, given, rest⟩ := answered
  have told : siteExec site settings env visit (.attempts command) before.world = some (.error raised, after.world) := given
  obtain ⟨remote, fares⟩ := (siteExec_attempts told).2 raised rfl
  exact ⟨command, before, after, first, step, own, rest, remote, fares⟩

/-- A login that is let in is let in as an account that was active when its credentials were
    checked, and which is there for good. A login raises only what Redis has raised to it, or
    that the API key cannot be sent. -/
theorem login_genuine (sound : site.Sound) (small : ∀ row ∈ users.rows, row.id < 2 ^ 31)
    (reach : (siteMachine site settings env).Reach Machine.anyStep (visits store settings users visitors) d)
    (isLogin : visitors visit = .login username password) {outcome : Outcome Stamp}
    (ended : d.program visit = .done outcome) :
    ∃ answer, outcome = .login answer ∧
      (∀ raised, answer = .error raised → (raised = headerNotAscii ∧ Python.isAscii site.apiKey = false) ∨
        RedisRaised site settings env (visits store settings users visitors) d visit raised) ∧
      ∀ shown, answer = .ok (some shown) → ∃ (before : SiteSystem Time Stamp) (user : UserProfile Stamp),
        (siteMachine site settings env).Reach Machine.anyStep (visits store settings users visitors) before ∧
          (siteMachine site settings env).Reach Machine.anyStep before d ∧
          Holder site.api.hashing username password before.world.users user ∧ d.world.users.Has user ∧
          shown = shownUser user := by
  obtain ⟨logs, logged⟩ := reach.logged
  have obeys := (logged.obeys visit Visitor.program_obeys).2
  rw [ended, Program.obeys_done, isLogin] at obeys
  cases outcome with
  | login answer =>
      rcases answer with raised | ⟨_ | shown⟩
      · refine ⟨_, rfl, fun _ same => ?_, fun shown same => by cases same⟩
        cases same
        rcases obeys with told | ⟨command, told⟩
        · obtain ⟨before, after, -, -, -, answer⟩ := answered_authenticate sound small (logged.mem _ told)
          generalize same : (.error (.other raised) : ClientM Client.AuthenticatedBackendUser) = outcome at answer
          cases answer with
          | unsent notAscii unchanged =>
              cases same
              exact .inl ⟨rfl, notAscii⟩
          | _ => cases same
        · exact .inr (answered_raised (logged.mem _ told))
      · exact ⟨_, rfl, fun raised same => (by cases same), fun shown same => by cases same⟩
      · refine ⟨_, rfl, fun raised same => (by cases same), fun _ same => ?_⟩
        cases same
        obtain ⟨user, told, rfl⟩ := obeys
        obtain ⟨before, after, first, later, rest, answer⟩ := answered_authenticate sound small (logged.mem _ told)
        generalize same : (.ok user : ClientM Client.AuthenticatedBackendUser) = outcome at answer
        cases answer with
        | signedIn user authenticated =>
            cases same
            obtain ⟨active, member, name, verified⟩ := authenticate_some authenticated
            rw [normalizeUsername_stripped] at name
            exact ⟨before, user, first, later, ⟨active, name, verified⟩,
              (reach_run sound rest).has ⟨user, member, SameAccount.refl user⟩, rfl⟩
        | _ => cases same
  | _ => cases obeys

theorem login_genuine_alice : ∃ (d : SiteSystem Int Nat) (shown : User) (before : SiteSystem Int Nat)
    (user : UserProfile Nat), calmSite.Reach Machine.anyStep someVisits d ∧
      d.program 1 = .done (.login (.ok (some shown))) ∧
      Holder plainHashing "alice " "correct horse" before.world.users user ∧ shown = shownUser user := by
  obtain ⟨d, reach, seen⟩ := Machine.schedule_observed calmSite Machine.anyStep [0, 1, 1, 1, 4] someVisits
    (fun d => (letIn 1 d).isSome) true (by decide +kernel)
  obtain ⟨shown, entered⟩ := Option.isSome_iff_exists.mp seen
  have ended := letIn_some entered
  obtain ⟨answer, same, -, genuine⟩ := login_genuine plainSite_sound (by simp) reach rfl ended
  cases same
  obtain ⟨before, user, -, -, holder, -, same⟩ := genuine shown rfl
  exact ⟨d, shown, before, user, reach, ended, holder, same⟩

/-- A failed attempt is counted only for credentials that were refused when they were checked:
    no outage, no lost response and no other visit counts against a username. -/
theorem counted_refused (sound : site.Sound) (small : ∀ row ∈ users.rows, row.id < 2 ^ 31)
    (reach : (siteMachine site settings env).Reach Machine.anyStep (visits store settings users visitors) d)
    (counted : visit ∈ d.world.attempts.counted) :
    ∃ username password, visitors visit = .login username password ∧
      ∃ before : SiteSystem Time Stamp,
        (siteMachine site settings env).Reach Machine.anyStep (visits store settings users visitors) before ∧
          (siteMachine site settings env).Reach Machine.anyStep before d ∧
          (authenticatePasswordUser site.api.hashing (env before.world.ticks).stamp username password
            before.world.users).1 = none := by
  obtain ⟨logs, logged⟩ := reach.logged
  obtain ⟨answer, member, counts⟩ := counted_logged rfl logged visit counted
  obtain ⟨earlier, rest, same⟩ := List.append_of_mem member
  have allowed := (logged.obeys visit Visitor.program_obeys).1 earlier answer rest same
  obtain ⟨username, password, isLogin, error, told, reply⟩ := allowed counts
  obtain ⟨before, after, first, later, -, answered⟩ :=
    answered_authenticate sound small (logged.mem _ (same ▸ List.mem_append_left _ told))
  refine ⟨username, password, isLogin, before, first, later, ?_⟩
  generalize same : (.error (.client error) : ClientM Client.AuthenticatedBackendUser) = outcome at answered
  cases answered with
  | signedIn user authenticated => cases same
  | refused authenticated =>
      rw [authenticatePasswordUser_stripped] at authenticated
      rw [authenticated]
  | failed other reached changed =>
      cases same
      cases reply.symm.trans reached
  | unsent => cases same

theorem counted_refused_alice : ∃ d before : SiteSystem Int Nat, calmSite.Reach Machine.anyStep someVisits d ∧
    2 ∈ d.world.attempts.counted ∧
      (authenticatePasswordUser plainHashing before.world.ticks "alice" "battery staple" before.world.users).1 = none := by
  obtain ⟨d, reach, seen⟩ := Machine.schedule_observed calmSite Machine.anyStep [0, 2, 2, 2] someVisits
    (fun d => decide (2 ∈ d.world.attempts.counted)) true (by decide +kernel)
  have counted := of_decide_eq_true seen
  obtain ⟨username, password, isLogin, before, -, -, refused⟩ :=
    counted_refused plainSite_sound (by simp) reach counted
  cases isLogin
  exact ⟨d, before, reach, counted, refused⟩

end LanguageAgent.Site
