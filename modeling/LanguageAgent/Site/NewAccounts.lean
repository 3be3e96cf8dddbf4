import LanguageAgent.Site.System

/-! # What a sign-up leaves

An account that was announced is there for good and nobody else's, and its owner can sign in.
-/

namespace LanguageAgent.Site

open Accounts Api Gateway Interleaving Queue Webui Webui.Client

variable {Salt Time Stamp : Type} {site : Setup Salt Stamp}

/-! ## One request -/

section Request

variable {delivery : Delivery} {salt : Salt} {now : Stamp} {payload : Dict} {table : UserTable Stamp}
  {user other : UserProfile Stamp} {result : BackendSignupResult}

theorem signupFailed_ne (raised : BackendClientError) :
    (.ok (signupFailed raised) : Except PyError JSONResponse) ≠ .ok (signupCreated result) := by
  intro same
  have status := signupFailed_statusCode raised
  rw [Except.ok.inj same] at status
  simp [signupCreated] at status

/-- The response names the account. -/
theorem signupCreated_inj {api : AccountsApi Salt Stamp}
    (same : signupCreated (createdResult api user) = signupCreated (createdResult api other)) :
    user.id = other.id ∧ user.username = other.username := by
  simp only [signupCreated, createdResult, Json.optStr, JSONResponse.mk.injEq, Json.obj.injEq, List.cons.injEq,
    Prod.mk.injEq, Json.str.injEq, Json.int.injEq, Nat.cast_inj, true_and, and_true] at same
  exact ⟨same.2.1, same.1⟩

/-- Only a request that gets through is answered with an account. -/
theorem signUp_sent (sound : site.Sound)
    (created : (site.signUp delivery salt now (.obj payload) table).1 = .ok (signupCreated result)) :
    authHeaders site.apiKey = .ok () ∧ validateApiKey (some site.apiKey) site.api.auth = .ok () ∧
      ∃ data, validateBody site.api.describe UserSignupRequest.fields
        (SignupForm.ofPayload site.api.strOf payload).request = .ok data := by
  have failed : ∀ {exchange : Webui.Client.Exchange} {raised : BackendClientError},
      Client.signupUser site.library.loads site.api.strOf site.apiKey exchange = .error (.client raised) →
        signupAnswered (Client.signupUser site.library.loads site.api.strOf site.apiKey exchange) ≠
          .ok (signupCreated result) := by
    intro exchange raised fails
    rw [fails]
    exact signupFailed_ne raised
  unfold Setup.signUp at created
  split_ifs at created with disabled
  · simp [signupDisabled, signupRefusal, signupCreated] at created
  have sends : authHeaders site.apiKey = .ok () := by
    cases headers : authHeaders site.apiKey with
    | ok _ => rfl
    | error raised =>
        simp only [Client.signupUser, exchanged_unsent headers] at created
        rcases authHeaders_error headers with rfl | ⟨rfl, -⟩
        · exact absurd created (signupFailed_ne _)
        · cases created
  have lost : ∀ failure, signupAnswered (Client.signupUser site.library.loads site.api.strOf site.apiKey
      (.failed failure)) ≠ .ok (signupCreated result) := by
    intro failure
    cases failure <;> exact failed (by rw [Client.signupUser, exchanged_failed sends]; rfl)
  simp only [Delivery.exchange, sends] at created
  cases delivery with
  | lost failure => exact absurd created (lost failure)
  | unanswered failure => exact absurd created (lost failure)
  | answered =>
      cases answered : signupEndpoint site.api salt now (some site.apiKey)
          (SignupForm.ofPayload site.api.strOf payload).request table with
      | mk response after =>
          rw [answered] at created
          rcases endpoint_cases answered with ⟨-, failure, rfl, refused⟩ | ⟨accepted, data, valid, -⟩
          · have readable := readable_refusal site.api.strOf sound.describes (refused.imp id And.right)
            obtain ⟨raised, same⟩ := signupUser_readable site.api.strOf sends readable
            exact absurd created (failed same)
          · exact ⟨sends, accepted, data, valid⟩

/-- A required text of a valid body is as long as it has to be. -/
theorem valid_text {describe : List String → String → Dict} {fields : List RequestField} {body data : Dict}
    {name text : String} {minLength : Nat} {required : Bool}
    (valid : validateBody describe fields (.obj body) = .ok data) (there : ⟨name, .str minLength, required⟩ ∈ fields)
    (found : body.get? name = some (.str text)) : minLength ≤ text.length := by
  obtain ⟨same, clean⟩ := validateBody_ok valid
  obtain rfl := Json.obj.inj same
  have none := List.flatMap_eq_nil_iff.mp (List.append_eq_nil_iff.mp clean).1 _ there
  by_contra short
  simp [RequestField.errors, found, RequestType.problems, Nat.lt_of_not_le short] at none

theorem creates_username {form : SignupForm} {after : UserTable Stamp}
    (creates : site.Creates salt now form user table after) : normalizeUsername form.username ≠ "" := by
  intro blank
  simp [Setup.Creates, Accounts.signupUser, SignupForm.command, blank, validateUsername, bind, Except.bind,
    Except.mapError] at creates

/-- Credentials of an active account, when they arrive, sign in to it. -/
theorem authenticate_answered (sound : site.Sound) (sends : authHeaders site.apiKey = .ok ())
    (accepted : validateApiKey (some site.apiKey) site.api.auth = .ok ()) {username password : String}
    (named : username ≠ "") (chosen : password ≠ "") {row : UserProfile Stamp} (member : row ∈ table.rows)
    (small : row.id < 2 ^ 31) (active : row.isActive = true) (name : normalizeUsername username = row.username)
    (verified : site.api.hashing.verifyPassword password row.passwordHash = true) :
    (site.authenticate .answered now username password table).1 =
      .ok (backendUser { row with lastLoginAt := some now, updatedAt := now }) := by
  have long : ∀ text : String, text ≠ "" → ¬ text.length < 1 := by
    intro text filled short
    exact filled (String.length_eq_zero_iff.mp (by omega))
  have valid : validateBody site.api.describe UserPasswordLoginRequest.fields (loginPayload username password) =
      .ok [("username", .str username), ("password", .str password)] := by
    refine validateBody_obj ?_
    simp [bodyErrors, UserPasswordLoginRequest.fields, RequestField.errors, Dict.get?, List.lookup_cons,
      RequestType.problems, long username named, long password chosen]
  have login := @authenticate_row _ _ site.api.hashing now table row username password member active name
  rw [if_pos verified] at login
  have routed : loginEndpoint site.api now (some site.apiKey) (loginPayload username password) table =
      (⟨200, .obj (authenticatedUserResponseFromProfile { row with lastLoginAt := some now, updatedAt := now }), []⟩,
        (authenticatePasswordUser site.api.hashing now username password table).2) := by
    cases signed : authenticatePasswordUser site.api.hashing now username password table with
    | mk user after =>
        rw [signed] at login
        obtain rfl : user = _ := login
        simp [loginEndpoint, endpoint, accepted, valid, internalUserLogin, textOf, Dict.str?, Dict.get?, Json.str?,
          List.lookup_cons, signed]
  simp only [Setup.authenticate, Delivery.exchange, sends, routed]
  exact authenticateUser_profile sound sends small

end Request

/-! ## Whole runs -/

/-- The account a sign-up has added: its username was free, and its password is the one of the form. -/
structure NewAccount (site : Setup Salt Stamp) (fields : Dict) (user : UserProfile Stamp)
    (before after : UserTable Stamp) : Prop where
  username : user.username = normalizeUsername (SignupForm.ofPayload site.api.strOf fields).username
  named : user.username ≠ ""
  password : ∀ password, site.api.hashing.verifyPassword password user.passwordHash = true ↔
    password = (SignupForm.ofPayload site.api.strOf fields).password
  free : ∀ row ∈ before.rows, row.username ≠ user.username
  counted : ∀ row ∈ before.rows, row.id ≠ user.id
  added : after.rows = before.rows ++ [user]
  waits : user.isActive = !site.api.settings.requireAdminApproval
  plain : user.isAdmin = false ∧ user.role = site.api.settings.defaultRole

theorem Setup.Creates.newAccount {salt : Salt} {now : Stamp} {fields : Dict} {user : UserProfile Stamp}
    {before after : UserTable Stamp}
    (creates : site.Creates salt now (SignupForm.ofPayload site.api.strOf fields) user before after) :
    NewAccount site fields user before after := by
  obtain ⟨new, created, username, role, active, admin, hashed⟩ := creates_spec creates
  obtain ⟨rfl, rows, free⟩ := UserTable.createUser_ok created
  exact
    { username := username
      named := fun blank => creates_username creates (username.symm.trans blank)
      password := site.api.hashing.verify_hash hashed
      free := free
      counted := fun row member => (before.counted row member).ne
      added := rows
      waits := active
      plain := ⟨admin, role⟩ }

/-- What a sign-up is answered, and what it does to the table. -/
inductive SignUpEffect (site : Setup Salt Stamp) (payload : Json) (before after : UserTable Stamp) :
    Except PyError JSONResponse → Prop where
  | announced (fields : Dict) (user : UserProfile Stamp) (isObject : payload = .obj fields)
      (account : NewAccount site fields user before after) :
      SignUpEffect site payload before after (.ok (signupCreated (createdResult site.api user)))
  | unheard (response : JSONResponse) (status : response.statusCode = 502) (fields : Dict) (user : UserProfile Stamp)
      (isObject : payload = .obj fields) (account : NewAccount site fields user before after) :
      SignUpEffect site payload before after (.ok response)
  | refused (response : JSONResponse) (status : response.statusCode ∈ [400, 404, 409, 502]) (unchanged : after = before) :
      SignUpEffect site payload before after (.ok response)
  | raised (error : PyError) (unchanged : after = before) : SignUpEffect site payload before after (.error error)

theorem signUp_effect (sound : site.Sound) (delivery : Delivery) (salt : Salt) (now : Stamp) (payload : Json)
    (table : UserTable Stamp) : SignUpEffect site payload table (site.signUp delivery salt now payload table).2
      (site.signUp delivery salt now payload table).1 := by
  cases payload with
  | obj fields =>
      have answer := signUp_answer sound delivery salt now fields table
      revert answer
      cases site.signUp delivery salt now (.obj fields) table with
      | mk outcome after =>
          intro answer
          cases answer with
          | created user creates => exact .announced fields user rfl creates.newAccount
          | refused response status unchanged => exact .refused response status unchanged
          | unanswered response status user creates => exact .unheard response status fields user rfl creates.newAccount
          | unsent unchanged => exact .raised _ unchanged
  | _ =>
      simp only [Setup.signUp]
      split_ifs
      · exact .refused _ (by simp [signupDisabled, signupRefusal]) rfl
      · exact .raised _ rfl

section Runs

variable [Ring Time] [LinearOrder Time] {settings : AuthRateLimitSettings} {env : Nat → Instant Salt Time Stamp}
  {store : StoreKind} {users : UserTable Stamp} {visitors : Nat → Visitor} {c d : SiteSystem Time Stamp}
  {visit first second : Nat} {payload : Json} {answer : Except PyError JSONResponse}

theorem answered_signUp (sound : site.Sound)
    (answered : (siteMachine site settings env).Answered Machine.anyStep c d visit (told (.signUp payload) answer)) :
    ∃ before after : SiteSystem Time Stamp, (siteMachine site settings env).Reach Machine.anyStep c before ∧
      (siteMachine site settings env).Step Machine.anyStep before after ∧
      after.trace = before.trace ++ [⟨visit, .signUp payload⟩] ∧
      (siteMachine site settings env).exec visit (.signUp payload) before.world = some (answer, after.world) ∧
      (siteMachine site settings env).Reach Machine.anyStep after d ∧
      SignUpEffect site payload before.world.users after.world.users answer ∧
      answer = (site.signUp (env before.world.ticks).delivery (env before.world.ticks).salt (env before.world.ticks).stamp
        payload before.world.users).1 := by
  obtain ⟨before, after, first, step, own, given, rest⟩ := answered
  obtain ⟨same, world⟩ := Prod.mk.inj (Option.some.inj given)
  refine ⟨before, after, first, step, own, given, rest, ?_, same.symm⟩
  dsimp only at same
  rw [← world, ← same]
  exact signUp_effect sound ..

/-- A visit that ends with an answer to a sign-up has been one, and this is what it was told. -/
theorem signUp_told {logs : Nat → SiteLog Stamp} (logged : (siteMachine site settings env).Logged Machine.anyStep
      (visits store settings users visitors) d logs) (ended : d.program visit = .done (.signUp answer)) :
    ∃ payload, visitors visit = .signUp payload ∧ told (.signUp payload) answer ∈ logs visit := by
  have obeys := (logged.obeys visit Visitor.program_obeys).2
  rw [ended, Program.obeys_done] at obeys
  cases visitor : visitors visit with
  | signUp payload =>
      rw [visitor] at obeys
      exact ⟨payload, rfl, obeys⟩
  | _ =>
      rw [visitor] at obeys
      cases obeys

theorem SignUpEffect.created {before after : UserTable Stamp} {response : JSONResponse}
    (effect : SignUpEffect site payload before after (.ok response)) (status : response.statusCode = 201) :
    ∃ fields user, payload = .obj fields ∧ response = signupCreated (createdResult site.api user) ∧
      NewAccount site fields user before after := by
  cases effect with
  | announced fields user isObject account => exact ⟨fields, user, isObject, rfl, account⟩
  | unheard response other => omega
  | refused response refused => simp [status] at refused

theorem SignUpEffect.unchanged {before after : UserTable Stamp} {response : JSONResponse}
    (effect : SignUpEffect site payload before after (.ok response)) (other : response.statusCode ≠ 201)
    (heard : response.statusCode ≠ 502) : after = before := by
  cases effect with
  | announced => exact absurd rfl other
  | unheard response status => exact absurd status heard
  | refused response status unchanged => exact unchanged

/-- In the step that has answered a sign-up, an account that is announced was added with the
    username and password of the form, and is there for good. A sign-up that is told anything
    else but a 502 has changed nothing. -/
theorem signUp_stands (sound : site.Sound)
    (reach : (siteMachine site settings env).Reach Machine.anyStep (visits store settings users visitors) d)
    {response : JSONResponse} (ended : d.program visit = .done (.signUp (.ok response))) :
    ∃ (payload : Json) (before after : SiteSystem Time Stamp), visitors visit = .signUp payload ∧
      (siteMachine site settings env).Reach Machine.anyStep (visits store settings users visitors) before ∧
        (siteMachine site settings env).Step Machine.anyStep before after ∧
        after.trace = before.trace ++ [⟨visit, .signUp payload⟩] ∧
        (siteMachine site settings env).exec visit (.signUp payload) before.world = some (.ok response, after.world) ∧
        (siteMachine site settings env).Reach Machine.anyStep after d ∧
        (response.statusCode = 201 → ∃ fields user, payload = .obj fields ∧
          response = signupCreated (createdResult site.api user) ∧
          NewAccount site fields user before.world.users after.world.users ∧ d.world.users.Has user) ∧
        (response.statusCode ≠ 201 → response.statusCode ≠ 502 → after.world.users = before.world.users) := by
  obtain ⟨logs, logged⟩ := reach.logged
  obtain ⟨payload, isSignUp, told⟩ := signUp_told logged ended
  obtain ⟨before, after, first, step, own, given, rest, effect, -⟩ := answered_signUp sound (logged.mem _ told)
  refine ⟨payload, before, after, isSignUp, first, step, own, given, rest, fun status => ?_,
    fun other heard => effect.unchanged other heard⟩
  obtain ⟨fields, user, rfl, same, account⟩ := effect.created status
  have member : user ∈ after.world.users.rows := account.added ▸ List.mem_append_right _ (List.mem_singleton.mpr rfl)
  exact ⟨fields, user, rfl, same, account, (reach_run sound rest).has ⟨user, member, SameAccount.refl user⟩⟩

theorem signUp_stands_alice : ∃ (d before after : SiteSystem Int Nat) (fields : Dict) (user : UserProfile Nat),
    calmSite.Reach Machine.anyStep someVisits d ∧ someVisitors 0 = .signUp (.obj fields) ∧
      after.trace = before.trace ++ [⟨0, .signUp (.obj fields)⟩] ∧
      NewAccount plainSite fields user before.world.users after.world.users ∧ d.world.users.Has user := by
  obtain ⟨d, reach, seen⟩ := Machine.schedule_observed calmSite Machine.anyStep [1, 0, 1, 4] someVisits (statusOf 0) 201
    (by decide +kernel)
  obtain ⟨response, ended, status⟩ := statusOf_created seen
  obtain ⟨payload, before, after, isSignUp, -, -, own, -, -, created, -⟩ := signUp_stands plainSite_sound reach ended
  obtain ⟨fields, user, rfl, -, account, stays⟩ := created status
  exact ⟨d, before, after, fields, user, reach, isSignUp, own, account, stays⟩

/-- Whoever was told of an account can sign in with the username and the password of the form,
    from anywhere a run leads, as long as the account is active and the request arrives. -/
theorem signUp_signs_in (sound : site.Sound) (small : ∀ row ∈ users.rows, row.id < 2 ^ 31)
    (reach : (siteMachine site settings env).Reach Machine.anyStep (visits store settings users visitors) d)
    {response : JSONResponse} (ended : d.program visit = .done (.signUp (.ok response))) (status : response.statusCode = 201) :
    ∃ fields user, visitors visit = .signUp (.obj fields) ∧ response = signupCreated (createdResult site.api user) ∧
      ∀ later : SiteSystem Time Stamp, (siteMachine site settings env).Reach Machine.anyStep d later →
        (∀ row ∈ later.world.users.rows, row.id = user.id → row.isActive = true) →
          ∀ now username, normalizeUsername username =
              normalizeUsername (SignupForm.ofPayload site.api.strOf fields).username →
            ∃ shown, (site.authenticate .answered now (Python.stripText username)
                (SignupForm.ofPayload site.api.strOf fields).password later.world.users).1 = .ok (backendUser shown) ∧
              SameAccount user shown := by
  obtain ⟨logs, logged⟩ := reach.logged
  obtain ⟨payload, isSignUp, told⟩ := signUp_told logged ended
  obtain ⟨before, after, first, -, -, -, rest, effect, sent⟩ := answered_signUp sound (logged.mem _ told)
  obtain ⟨fields, user, rfl, rfl, account⟩ := effect.created status
  obtain ⟨sends, accepted, data, valid⟩ := signUp_sent sound sent.symm
  refine ⟨fields, user, isSignUp, rfl, fun later run active now username name => ?_⟩
  have chosen : 1 ≤ (SignupForm.ofPayload site.api.strOf fields).password.length := by
    refine valid_text valid (List.mem_cons_of_mem _ List.mem_cons_self) ?_
    simp [Dict.get?, List.lookup_cons]
  have member : user ∈ after.world.users.rows := account.added ▸ List.mem_append_right _ (List.mem_singleton.mpr rfl)
  obtain ⟨row, isRow, same⟩ := (reach_run sound (rest.trans run)).has ⟨user, member, SameAccount.refl user⟩
  have ids := run_ids sound (reach_run sound (reach.trans run)) small
  have stored : normalizeUsername username = row.username := name.trans (account.username.symm.trans same.username.symm)
  refine ⟨_, authenticate_answered sound sends accepted ?_ ?_ isRow (ids row isRow) (active row isRow same.id) ?_ ?_,
    same.trans rfl⟩
  · rw [← account.username] at name
    exact fun blank => account.named (name.symm.trans blank)
  · intro blank
    simp [blank] at chosen
  · rw [normalizeUsername_stripped, stored]
  · rw [same.passwordHash]
    exact (account.password _).mpr rfl

theorem signUp_signs_in_alice : ∃ (d : SiteSystem Int Nat) (shown : UserProfile Nat),
    calmSite.Reach Machine.anyStep someVisits d ∧
      (plainSite.authenticate .answered 9 (Python.stripText "alice") "correct horse" d.world.users).1 =
        .ok (backendUser shown) := by
  obtain ⟨d, reach, seen⟩ := Machine.schedule_observed calmSite Machine.anyStep [0] someVisits
    (fun d => (statusOf 0 d, d.world.users.rows.all fun row => row.isActive)) (201, true) (by decide +kernel)
  obtain ⟨created, active⟩ := Prod.mk.inj seen
  obtain ⟨response, ended, status⟩ := statusOf_created created
  obtain ⟨fields, user, isSignUp, -, signsIn⟩ := signUp_signs_in plainSite_sound (by simp) reach ended status
  cases isSignUp
  obtain ⟨shown, signedIn, -⟩ := signsIn d .refl (fun row member _ => List.all_eq_true.mp active row member) 9 "alice"
    (by decide +kernel)
  exact ⟨d, shown, reach, signedIn⟩

/-- The log tells of the account. -/
def Announced (site : Setup Salt Stamp) (user : UserProfile Stamp) (log : SiteLog Stamp) : Prop :=
  ∃ payload, told (.signUp payload) (.ok (signupCreated (createdResult site.api user))) ∈ log

theorem announced_append {user : UserProfile Stamp} {log : SiteLog Stamp} {last : Answer (siteSignature Stamp)}
    (announced : Announced site user (log ++ [last])) :
    Announced site user log ∨ ∃ payload, last = told (.signUp payload) (.ok (signupCreated (createdResult site.api user))) := by
  obtain ⟨payload, member⟩ := announced
  rcases List.mem_append.mp member with old | new
  · exact .inl ⟨payload, old⟩
  · exact .inr ⟨payload, (List.mem_singleton.mp new).symm⟩

/-- What is announced has just been added. -/
theorem announced_new (sound : site.Sound) {user : UserProfile Stamp} {w after : SiteWorld Time Stamp}
    (answered : (siteMachine site settings env).exec visit (.signUp payload) w =
      some (.ok (signupCreated (createdResult site.api user)), after)) :
    ∃ account ∈ after.users.rows, account.id = user.id ∧ account.username = user.username ∧
      ∀ row ∈ w.users.rows, row.id ≠ user.id ∧ row.username ≠ user.username := by
  obtain ⟨same, world⟩ := Prod.mk.inj (Option.some.inj answered)
  have effect := signUp_effect sound (env w.ticks).delivery (env w.ticks).salt (env w.ticks).stamp payload w.users
  rw [same] at effect
  obtain ⟨fields, account, -, response, new⟩ := effect.created rfl
  obtain ⟨id, username⟩ := signupCreated_inj response
  refine ⟨account, ?_, id.symm, username.symm, fun row member => ?_⟩
  · rw [← world]
    exact new.added ▸ List.mem_append_right _ (List.mem_singleton.mpr rfl)
  · rw [id, username]
    exact ⟨new.counted row member, new.free row member⟩

/-- The account is a row of the table. -/
def Stands (user : UserProfile Stamp) (table : UserTable Stamp) : Prop :=
  ∃ row ∈ table.rows, row.id = user.id ∧ row.username = user.username

theorem Stands.run {accepts : UserProfile Stamp → Bool} {user : UserProfile Stamp} {table after : UserTable Stamp}
    (stands : Stands user table) (run : UserTable.Run accepts table after) : Stands user after := by
  obtain ⟨row, member, id, username⟩ := stands
  obtain ⟨later, isRow, same⟩ := run.has ⟨row, member, SameAccount.refl row⟩
  exact ⟨later, isRow, same.id.trans id, same.username.trans username⟩

/-- Two visits are never told of one account, nor of one username. -/
theorem announced_distinct (sound : site.Sound) {logs : Nat → SiteLog Stamp}
    (logged : (siteMachine site settings env).Logged Machine.anyStep c d logs) :
    (∀ visit user, Announced site user (logs visit) → Stands user d.world.users) ∧
      ∀ first second, first ≠ second → ∀ user other, Announced site user (logs first) →
        Announced site other (logs second) → user.id ≠ other.id ∧ user.username ≠ other.username := by
  refine Machine.Logged.invariant (fun w (logs : Nat → SiteLog Stamp) =>
    (∀ visit user, Announced site user (logs visit) → Stands user w.users) ∧
      ∀ first second, first ≠ second → ∀ user other, Announced site user (logs first) →
        Announced site other (logs second) → user.id ≠ other.id ∧ user.username ≠ other.username)
    ⟨fun visit user told => ?_, fun first second _ user other told => ?_⟩ ?_ logged
  · obtain ⟨payload, member⟩ := told
    cases member
  · obtain ⟨payload, member⟩ := told
    cases member
  intro w logs party command reply after known answered
  obtain ⟨stand, distinct⟩ := known
  have run := siteExec_run sound answered
  -- an announcement is either an old one, or the party's new one
  have either : ∀ visit user, Announced site user (Function.update logs party (logs party ++ [⟨command, reply⟩]) visit) →
      Announced site user (logs visit) ∨ (visit = party ∧ Stands user after.users ∧
        ∀ row ∈ w.users.rows, row.id ≠ user.id ∧ row.username ≠ user.username) := by
    intro visit user announced
    by_cases own : visit = party
    · subst own
      rw [Function.update_self] at announced
      rcases announced_append announced with old | ⟨payload, same⟩
      · exact .inl old
      · cases same
        obtain ⟨account, member, id, username, fresh⟩ := announced_new sound answered
        exact .inr ⟨rfl, ⟨account, member, id, username⟩, fresh⟩
    · rw [Function.update_of_ne own] at announced
      exact .inl announced
  constructor
  · intro visit user announced
    rcases either visit user announced with old | ⟨-, stands, -⟩
    · exact (stand visit user old).run run
    · exact stands
  · intro first second different user other announced announcedOther
    rcases either first user announced with old | ⟨isFirst, -, fresh⟩
    · rcases either second other announcedOther with oldOther | ⟨-, -, fresh⟩
      · exact distinct first second different user other old oldOther
      · obtain ⟨row, member, id, username⟩ := stand first user old
        rw [← id, ← username]
        exact fresh row member
    · rcases either second other announcedOther with oldOther | ⟨isSecond, -, -⟩
      · obtain ⟨row, member, id, username⟩ := stand second other oldOther
        rw [← id, ← username]
        exact (fresh row member).imp Ne.symm Ne.symm
      · exact absurd (isFirst.trans isSecond.symm) different

/-- Two sign-ups that are each told of an account are told of two, under two usernames, and
    both are there. -/
theorem signUps_distinct (sound : site.Sound)
    (reach : (siteMachine site settings env).Reach Machine.anyStep (visits store settings users visitors) d)
    (different : first ≠ second) {response other : JSONResponse}
    (ended : d.program first = .done (.signUp (.ok response))) (status : response.statusCode = 201)
    (endedOther : d.program second = .done (.signUp (.ok other))) (statusOther : other.statusCode = 201) :
    ∃ user user' : UserProfile Stamp, response = signupCreated (createdResult site.api user) ∧
      other = signupCreated (createdResult site.api user') ∧ user.id ≠ user'.id ∧ user.username ≠ user'.username ∧
      Stands user d.world.users ∧ Stands user' d.world.users := by
  obtain ⟨logs, logged⟩ := reach.logged
  have announced : ∀ {visit : Nat} {response : JSONResponse}, d.program visit = .done (.signUp (.ok response)) →
      response.statusCode = 201 → ∃ user : UserProfile Stamp, response = signupCreated (createdResult site.api user) ∧
        Announced site user (logs visit) := by
    intro visit response ended status
    obtain ⟨payload, -, told⟩ := signUp_told logged ended
    obtain ⟨before, after, -, -, -, -, -, effect, -⟩ := answered_signUp sound (logged.mem _ told)
    obtain ⟨fields, user, -, rfl, -⟩ := effect.created status
    exact ⟨user, rfl, payload, told⟩
  obtain ⟨user, same, told⟩ := announced ended status
  obtain ⟨user', same', told'⟩ := announced endedOther statusOther
  obtain ⟨stand, distinct⟩ := announced_distinct sound logged
  obtain ⟨ids, usernames⟩ := distinct first second different user user' told told'
  exact ⟨user, user', same, same', ids, usernames, stand first user told, stand second user' told'⟩

theorem signUps_distinct_alice : ∃ (d : SiteSystem Int Nat) (user user' : UserProfile Nat),
    calmSite.Reach Machine.anyStep someVisits d ∧ statusOf 0 d = 201 ∧ statusOf 3 d = 201 ∧ user.id ≠ user'.id ∧
      user.username ≠ user'.username ∧ Stands user d.world.users ∧ Stands user' d.world.users := by
  obtain ⟨d, reach, seen⟩ := Machine.schedule_observed calmSite Machine.anyStep [1, 3, 0] someVisits
    (fun d => (statusOf 0 d, statusOf 3 d)) (201, 201) (by decide +kernel)
  obtain ⟨alice, twin⟩ := Prod.mk.inj seen
  obtain ⟨response, ended, status⟩ := statusOf_created alice
  obtain ⟨other, endedOther, statusOther⟩ := statusOf_created twin
  obtain ⟨user, user', -, -, distinct⟩ :=
    signUps_distinct plainSite_sound reach (by decide) ended status endedOther statusOther
  exact ⟨d, user, user', reach, alice, twin, distinct⟩

end Runs

end LanguageAgent.Site
