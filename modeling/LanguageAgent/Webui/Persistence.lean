import LanguageAgent.Webui.Authentication
import LanguageAgent.Domain.Json

/-! # Resumed chats

What the Web UI's session holds of its user: the profile of whoever is signed in, and
over it what the metadata of a resumed thread says.
-/

namespace LanguageAgent.Webui

/-- `str(value)`: the text itself, and the `repr` of anything else. -/
def pyStr (repr : Json → String) : Json → String
  | .str s => s
  | value => repr value

/-- `cl.User` -/
structure ChainlitUser where
  identifier : String
  displayName : Option String := none
  metadata : Dict := []

/-- The object `to_chainlit_user` makes. -/
def User.toChainlit (user : User) : ChainlitUser where
  identifier := user.identifier
  displayName := some user.displayName
  metadata :=
    [("user_id", .str user.userId), ("username", .str user.identifier), ("display_name", .str user.displayName),
     ("role", .str user.role), ("is_admin", .bool user.isAdmin),
     ("preferred_language", .optStr user.preferredLanguage), ("ui_theme", .optStr user.uiTheme)]

def sessionProfileKeys : List String :=
  ["user_id", "username", "display_name", "preferred_language", "ui_theme", "role", "is_admin"]

/-- The fields that say who the user is. -/
def identityKeys : List String := ["user_id", "username", "role", "is_admin"]

section Profile

variable (repr : Json → String)

/-- `user.display_name or user.identifier` -/
def ChainlitUser.shownName (user : ChainlitUser) : String :=
  match user.displayName with
  | some name => if name = "" then user.identifier else name
  | none => user.identifier

/-- `session_profile` -/
def ChainlitUser.profile (user : ChainlitUser) : Dict :=
  let get (key : String) (default : Json) : Json := (user.metadata.get? key).getD default
  [("user_id", .str (pyStr repr (get "user_id" (.str "")))),
   ("username", .str (pyStr repr (get "username" (.str user.identifier)))),
   ("display_name", .str (pyStr repr (get "display_name" (.str user.shownName)))),
   ("preferred_language", get "preferred_language" .null),
   ("ui_theme", get "ui_theme" .null),
   ("role", .str (pyStr repr (get "role" (.str "user")))),
   ("is_admin", .bool ((get "is_admin" (.bool false)).truthy))]

/-- The session after `cl.user_session.set` of each value. -/
def applyUserProfileToSession (user : Option ChainlitUser) (session : Dict) : Dict :=
  match user with
  | none => session
  | some user => session.update (user.profile repr)

/-- The profile fields a thread carries. -/
def restoredProfile (thread : Dict) : Dict :=
  match (Json.ifTruthy (thread.get? "metadata")).getD (.obj []) with
  | .obj metadata => sessionProfileKeys.filterMap fun key => (Dict.get? metadata key).map (key, ·)
  | _ => []

def restoreProfileFromThread (thread session : Dict) : Dict := session.update (restoredProfile thread)

def threadBelongsToUser (thread : Dict) (user : Option ChainlitUser) : Bool :=
  match user with
  | none => false
  | some user => pyStr repr (((Json.ifTruthy (thread.get? "userIdentifier")).getD (.str ""))) = user.identifier

/-- The session `on_chat_resume` leaves. -/
def onChatResume (user : Option ChainlitUser) (thread session : Dict) : Dict :=
  if threadBelongsToUser repr thread user then
    restoreProfileFromThread thread (applyUserProfileToSession repr user session)
  else session

end Profile

/-! ## Who the user is after a resume -/

section Resume

variable {repr : Json → String} {user : ChainlitUser} {thread session : Dict} {key : String}

theorem profile_distinct : ((user.profile repr).map Prod.fst).Nodup := by
  simp [ChainlitUser.profile]

theorem profile_identity (identifies : key ∈ identityKeys) : ∃ value, (user.profile repr).get? key = some value := by
  simp only [identityKeys, List.mem_cons, List.not_mem_nil, or_false] at identifies
  rcases identifies with rfl | rfl | rfl | rfl <;> exact ⟨_, rfl⟩

/-- What the metadata of a thread says of a key. -/
def threadValue (thread : Dict) (key : String) : Option Json :=
  match (Json.ifTruthy (thread.get? "metadata")).getD (.obj []) with
  | .obj metadata => Dict.get? metadata key
  | _ => none

private theorem lookup_filterMap {keys : List String} (distinct : keys.Nodup) (find : String → Option Json) :
    (keys.filterMap fun key => (find key).map (key, ·)).lookup key = if key ∈ keys then find key else none := by
  induction keys with
  | nil => rfl
  | cons first rest ih =>
      obtain ⟨fresh, distinct⟩ := List.nodup_cons.mp distinct
      have later := ih distinct
      cases found : find first with
      | none =>
          simp only [List.filterMap_cons, found, Option.map_none, later, List.mem_cons]
          by_cases same : key = first
          · subst same
            simp [fresh, found]
          · simp [same]
      | some value =>
          simp only [List.filterMap_cons, found, Option.map_some, List.lookup_cons, later, List.mem_cons]
          by_cases same : key = first
          · subst same
            simp [found]
          · have different : (key == first) = false := beq_eq_false_iff_ne.mpr same
            simp [same, different]

theorem restoredProfile_get? (kept : key ∈ sessionProfileKeys) :
    (restoredProfile thread).get? key = threadValue thread key := by
  unfold restoredProfile threadValue
  cases (Json.ifTruthy (thread.get? "metadata")).getD (.obj []) with
  | obj metadata => simp [Dict.get?, lookup_filterMap (by decide : sessionProfileKeys.Nodup), kept]
  | _ => rfl

theorem restoredProfile_distinct : ((restoredProfile thread).map Prod.fst).Nodup := by
  unfold restoredProfile
  cases (Json.ifTruthy (thread.get? "metadata")).getD (.obj []) with
  | obj metadata =>
      have keys : (sessionProfileKeys.filterMap fun key => (Dict.get? metadata key).map (key, ·)).map Prod.fst =
          sessionProfileKeys.filter fun key => (Dict.get? metadata key).isSome := by
        induction sessionProfileKeys with
        | nil => rfl
        | cons first rest ih =>
            cases found : Dict.get? metadata first <;> simp [found, ih]
      exact keys ▸ List.Nodup.filter _ (by decide)
  | _ => exact List.nodup_nil

/-- A resumed thread has the last word on every profile key it carries. -/
theorem onChatResume_get? (owned : threadBelongsToUser repr thread (some user) = true)
    (identifies : key ∈ identityKeys) :
    (onChatResume repr (some user) thread session).get? key =
      (threadValue thread key).or ((user.profile repr).get? key) := by
  have kept : key ∈ sessionProfileKeys := by
    revert identifies
    simp only [identityKeys, sessionProfileKeys, List.mem_cons, List.not_mem_nil, or_false]
    rintro (rfl | rfl | rfl | rfl) <;> simp
  obtain ⟨value, profiled⟩ := @profile_identity repr user key identifies
  rw [onChatResume, if_pos owned, restoreProfileFromThread, Dict.get?_update_distinct restoredProfile_distinct,
    restoredProfile_get? kept, applyUserProfileToSession, Dict.get?_update_distinct profile_distinct, profiled]
  rfl

/-- Resuming a thread of one's own leaves the identity of the signed-in user in the session
    just when the thread says nothing else of it. -/
theorem resume_keeps_identity (owned : threadBelongsToUser repr thread (some user) = true) :
    (∀ key ∈ identityKeys, (onChatResume repr (some user) thread session).get? key = (user.profile repr).get? key) ↔
      ∀ key ∈ identityKeys, ∀ value, threadValue thread key = some value →
        (user.profile repr).get? key = some value := by
  constructor
  · intro same key identifies value said
    rw [← same key identifies, onChatResume_get? owned identifies, said]
    rfl
  · intro agrees key identifies
    rw [onChatResume_get? owned identifies]
    cases said : threadValue thread key with
    | none => rfl
    | some value => exact (agrees key identifies value said).symm

end Resume

/-! ## A user who was an administrator once -/

/-- The object of a user who is signed in. -/
def signedIn (role : String) (isAdmin : Bool) : ChainlitUser :=
  (toChainlitUser { userId := 42, username := "alice", displayName := none, role := role, isAdmin := isAdmin
                    preferredLanguage := none, uiTheme := none }).toChainlit

/-- A thread of the same user, with this metadata. -/
def threadWith (metadata : Dict) : Dict := [("userIdentifier", .str "alice"), ("metadata", .obj metadata)]

theorem resume_keeps_identity_demo :
    (∀ key ∈ identityKeys, (onChatResume (fun _ => "") (some (signedIn "user" false))
        (threadWith [("preferred_language", .str "fr")]) []).get? key =
      ((signedIn "user" false).profile fun _ => "").get? key) ↔
      ∀ key ∈ identityKeys, ∀ value, threadValue (threadWith [("preferred_language", .str "fr")]) key = some value →
        ((signedIn "user" false).profile fun _ => "").get? key = some value :=
  resume_keeps_identity (by decide +kernel)

/-- The metadata of an old thread makes its owner an administrator again. -/
theorem old_thread_promotes :
    threadBelongsToUser (fun _ => "") (threadWith [("is_admin", .bool true)]) (some (signedIn "user" false)) = true ∧
      ((signedIn "user" false).profile fun _ => "").get? "is_admin" = some (.bool false) ∧
      (onChatResume (fun _ => "") (some (signedIn "user" false)) (threadWith [("is_admin", .bool true)]) []).get?
        "is_admin" = some (.bool true) :=
  ⟨by decide +kernel, rfl, by rfl⟩

end LanguageAgent.Webui
