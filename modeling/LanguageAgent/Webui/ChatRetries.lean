import LanguageAgent.Interleaving.Evaluation
import LanguageAgent.Webui.ChatRequests
import LanguageAgent.Webui.ShownTokens

/-! # Retrying

The actions under a reply carry the text and the mode it was asked for with, and the Retry
action sends the same request again.
-/

namespace LanguageAgent.Webui

open Api Client Gateway Interleaving Queue

/-! ## Actions -/

/-- Every message has these actions or none. -/
def Chat.Offers (actions : List Action) (chat : Chat) : Prop :=
  ∀ slot, (chat.message slot).actions = [] ∨ (chat.message slot).actions = actions

namespace Chat.Offers

variable {actions : List Action} {chat : Chat} {slot : Slot}

theorem edit (offers : chat.Offers actions) {assign : Message → Message}
    (assigned : ∀ message, (assign message).actions = message.actions ∨ (assign message).actions = actions) :
    (chat.edit slot assign).Offers actions := by
  intro other
  simp only [Chat.edit]
  by_cases same : other = slot
  · subst same
    rw [Function.update_self]
    rcases assigned (chat.message other) with kept | set
    · rw [kept]
      exact offers other
    · exact .inr set
  · rw [Function.update_of_ne same]
    exact offers other

theorem call (offers : chat.Offers actions) (made : Call) : (chat.call made).Offers actions := offers

theorem send (offers : chat.Offers actions) : (chat.send slot).Offers actions :=
  call (offers.edit (by exact fun _ => .inl rfl)) _

theorem remove (offers : chat.Offers actions) : (chat.remove slot).Offers actions :=
  call (offers.edit (by exact fun _ => .inl rfl)) _

theorem update (offers : chat.Offers actions) : (chat.update slot).Offers actions :=
  call (offers.edit (by exact fun _ => .inl rfl)) _

theorem streamToken (offers : chat.Offers actions) (token : String) : (chat.streamToken slot token).Offers actions :=
  call (offers.edit (by exact fun _ => .inl rfl)) _

end Chat.Offers

/-- A message on display has these actions. -/
def Chat.Carries (actions : List Action) (chat : Chat) : Prop :=
  ∃ slot, (chat.message slot).displayed.isSome = true ∧ (chat.message slot).actions = actions

/-- The actions are under the reply, or the status can still be replaced by an error. -/
def Carried (actions : List Action) : ClientM Unit × Chat → Prop
  | (.ok (), chat) => chat.Carries actions
  | (.error (.client _), chat) => (chat.message .status).displayed.isSome = true
  | (.error (.other _), _) => True

section Carrying

variable {actions : List Action} {chat : Chat} {slot : Slot} {tokens text : String}

theorem Chat.Shows.carries (shows : chat.Shows actions tokens text) : chat.Carries actions :=
  ⟨_, by rw [shows.text]; rfl, shows.actions⟩

theorem Chat.carries_update (there : (chat.message slot).displayed.isSome = true)
    (offered : (chat.message slot).actions = actions) : (chat.update slot).Carries actions :=
  ⟨slot, by simpa [Chat.update] using there, by simpa [Chat.update] using offered⟩

end Carrying

namespace Stream

variable {s s' : Stream} {userText mode : String} {strOf : StrOf} {event : Dict} {chat : Chat}

/-- The messages so far. -/
abbrev Offers (userText mode : String) (s : Stream) : Prop := s.chat.Offers (responseActions userText mode)

theorem Offers.startResponse (offers : s.Offers userText mode) : s.startResponse.Offers userText mode := by
  unfold Stream.startResponse
  split
  · exact offers
  · exact offers.remove.send

theorem Offers.flushRest (offers : s.Offers userText mode) : s.flushRest.Offers userText mode := by
  unfold Stream.flushRest
  split
  · exact offers
  · exact Chat.Offers.streamToken offers _

theorem Offers.noteStatus (offers : s.Offers userText mode) : (s.noteStatus event).Offers userText mode := by
  unfold Stream.noteStatus
  split
  · exact offers
  · dsimp only
    split
    · exact offers
    · split
      · exact offers
      · exact Chat.Offers.update (offers.edit (by exact fun _ => .inl rfl))

theorem Offers.takeToken (offers : s.Offers userText mode) : (s.takeToken event).Offers userText mode := by
  have started : ∀ s : Stream, s.Offers userText mode →
      ({ s with receivedToken := true } : Stream).startResponse.Offers userText mode :=
    fun s offers => Offers.startResponse offers
  unfold Stream.takeToken
  split
  · exact offers
  · split
    · exact offers
    · dsimp only
      split
      · exact Chat.Offers.streamToken (started s offers) _
      · exact started s offers

theorem Offers.endEarly (offers : s.Offers userText mode) (ending : String) :
    (s.endEarly userText mode ending).Offers (responseActions userText mode) := by
  have flushed : (if s.tokenBuffer = "" then s else s.startResponse.flush).Offers userText mode := by
    split
    · exact offers
    · exact Chat.Offers.streamToken offers.startResponse _
  unfold Stream.endEarly
  dsimp only
  generalize (if s.tokenBuffer = "" then s else s.startResponse.flush) = s at flushed ⊢
  split
  · exact Chat.Offers.update (flushed.edit (by exact fun _ => .inr rfl))
  · exact Chat.Offers.update (Chat.Offers.edit (flushed.edit (by exact fun _ => .inr rfl)) (by exact fun _ => .inr rfl))

theorem Offers.finish (offers : s.Offers userText mode) (content : String) :
    (s.finish userText mode content).Offers (responseActions userText mode) :=
  Chat.Offers.update (offers.edit (by exact fun _ => .inr rfl))

theorem Offers.interrupted (offers : s.Offers userText mode) :
    (s.interrupted userText mode).Offers (responseActions userText mode) := by
  unfold Stream.interrupted
  split
  · exact offers.flushRest.finish _
  · exact Chat.Offers.update (offers.edit (by exact fun _ => .inr rfl))

theorem Offers.completed (offers : s.Offers userText mode) :
    (s.completed userText mode).Offers (responseActions userText mode) := by
  unfold Stream.completed
  dsimp only
  split
  · exact Chat.Offers.update (offers.flushRest.edit (by exact fun _ => .inr rfl))
  · exact offers.flushRest.finish _

theorem Offers.start (status : String) (apiMode : Option String) : (startStream status apiMode).Offers userText mode := by
  intro slot
  cases slot <;> exact .inl rfl

/-- The messages an event leaves. -/
def Next.Offers (userText mode : String) : Next → Prop
  | .goesOn s => s.Offers userText mode
  | .returned chat => chat.Offers (responseActions userText mode)

theorem Offers.handleEvent (offers : s.Offers userText mode) (strOf : StrOf) (event : Dict) :
    (Stream.handleEvent strOf userText mode event s).Offers userText mode := by
  have noted : ∀ responseMode, (Stream.noteStatus event { s with responseMode }).Offers userText mode :=
    fun responseMode => @Offers.noteStatus { s with responseMode } userText mode event offers
  unfold Stream.handleEvent
  split
  · exact offers
  · dsimp only
    split
    · exact Offers.endEarly (noted _) _
    · split
      · exact Offers.endEarly (noted _) _
      · split <;> exact Offers.takeToken (noted _)

theorem Offers.handleEvents (offers : s.Offers userText mode) (strOf : StrOf) (events : List Dict) :
    (Stream.handleEvents strOf userText mode events s).Offers userText mode := by
  induction events generalizing s with
  | nil => exact offers
  | cons event rest ih =>
      have handled := offers.handleEvent strOf event
      unfold Stream.handleEvents
      split
      · rename_i next same
        rw [same] at handled
        exact ih handled
      · rename_i chat same
        rw [same] at handled
        exact handled

end Stream

section Replies

variable {ui : UiSettings} {userText mode status : String} {apiMode : Option String}

theorem sendFullBackendResponse_offers {full : ClientM Dict} {chat : Chat} (offers : chat.Offers (responseActions userText mode)) :
    (sendFullBackendResponse userText mode full chat).2.Offers (responseActions userText mode) := by
  unfold sendFullBackendResponse
  dsimp only
  split
  · exact offers.call _
  · split
    · exact offers.call _
    · exact Chat.Offers.update ((offers.call _).edit (by exact fun _ => .inr rfl))

theorem streamBackendResponse_offers {strOf : StrOf} {stream : ClientM Unit × List Dict} {full : ClientM Dict} :
    (streamBackendResponse strOf userText mode status apiMode stream full).2.Offers (responseActions userText mode) := by
  have start : (startStream status apiMode).Offers userText mode := Stream.Offers.start status apiMode
  have handled := start.handleEvents strOf stream.2
  unfold streamBackendResponse
  split
  · rename_i chat same
    rw [same] at handled
    exact handled
  · rename_i s same
    rw [same] at handled
    split
    · exact handled
    · exact handled.interrupted
    · split
      · exact sendFullBackendResponse_offers handled
      · exact handled.completed

theorem sendFullBackendResponse_carried {full : ClientM Dict} {chat : Chat}
    (waits : (chat.message .status).displayed.isSome = true) :
    Carried (responseActions userText mode) (sendFullBackendResponse userText mode full chat) := by
  unfold sendFullBackendResponse
  dsimp only
  split
  · rename_i error
    cases error with
    | client error => exact waits
    | other raised => trivial
  · split
    · exact waits
    · refine Chat.carries_update ?_ ?_
      · rw [Chat.edit_message]
        exact waits
      · rw [Chat.edit_message]

theorem streamBackendResponse_carried {strOf : StrOf} {stream : ClientM Unit × List Dict} {full : ClientM Dict} :
    Carried (responseActions userText mode) (streamBackendResponse strOf userText mode status apiMode stream full) := by
  have follows := @handleEvents_follows strOf userText mode "" stream.2 _ (@streams_start status apiMode) rfl
  rw [String.empty_append] at follows
  unfold streamBackendResponse
  cases interrupted : interruption? stream.2 with
  | some text =>
      cases next : Stream.handleEvents strOf userText mode stream.2 (startStream status apiMode) with
      | goesOn s =>
          rw [interrupted, next] at follows
          exact follows.elim
      | returned chat =>
          rw [interrupted, next] at follows
          exact Chat.Shows.carries follows
  | none =>
      cases next : Stream.handleEvents strOf userText mode stream.2 (startStream status apiMode) with
      | returned chat =>
          rw [interrupted, next] at follows
          exact follows.elim
      | goesOn s =>
          rw [interrupted, next] at follows
          obtain ⟨streams, -⟩ := follows
          cases stream.1 with
          | error error =>
              cases error with
              | client error => exact streams.interrupted.carries
              | other raised => trivial
          | ok _ =>
              dsimp only
              split_ifs with silent
              · have none : tokensOf stream.2 = "" := streams.streamed ▸ silent
                have one := streams.one
                rw [none] at one
                exact sendFullBackendResponse_carried ((one.displayed .status).mpr rfl)
              · exact (streams.completed (streams.streamed ▸ silent)).carries

end Replies

/-! ## What a handler does on its own -/

/-- The request that is sent for a text in this mode. -/
def askedFor (ui : UiSettings) (userText mode : String) : ChatSent where
  stream := shouldStream ui (apiModeValue mode)
  message := userText
  mode := apiModeValue mode

/-- The text has been asked for in the mode. -/
def Asked (ui : UiSettings) (userText mode : String) (w after : UiWorld) : Prop :=
  after.mode = w.mode ∧ ∃ fallback, after.sent = w.sent ++ askedFor ui userText mode :: fallback

/-- One more reply is shown, whose actions are about the text and the mode. They are there
    unless an exception leaves the handler. -/
def Shown (userText mode : String) (out : Except PyError Unit) (w after : UiWorld) : Prop :=
  ∃ chat : Chat, after.shown = w.shown ++ [chat] ∧ chat.Offers (responseActions userText mode) ∧
    (out = .ok () → chat.Carries (responseActions userText mode))

section Alone

variable {ui : UiSettings} {backend : UiBackend} {handler : Nat} {w : UiWorld} {userText mode status : String}
  {apiMode : Option String}

theorem perform_evaluates {command : UiCommand} {reply : command.Reply} {after : UiWorld}
    (answered : uiExec backend handler command w = some (reply, after)) :
    (perform command).Evaluates (uiMachine backend) handler () w (.ok reply) () after :=
  Routine.Evaluates.issue answered

theorem getSelectedMode_evaluates :
    getSelectedMode.Evaluates (uiMachine backend) handler () w (.ok (selectedModeOf w.mode)) () w :=
  (perform_evaluates rfl).bind .pure

/-- The session after one more request. -/
def UiWorld.send (w : UiWorld) (sent : ChatSent) : UiWorld := { w with sent := w.sent ++ [sent] }

/-- The end of a reply depends on the mode that is selected by then. -/
theorem concluded_evaluates {α : Type} (conclude : String → α) :
    (getSelectedMode >>= fun mode => pure (conclude mode)).Evaluates (uiMachine backend) handler () w
      (.ok (conclude (selectedModeOf w.mode))) () w :=
  getSelectedMode_evaluates.bind .pure

theorem chatFull_evaluates {α : Type} (conclude : ClientM Dict → String → α) : ∃ full,
    (do
      let full ← perform (.chatFull userText apiMode)
      let mode ← getSelectedMode
      pure (conclude full mode) : UiM α).Evaluates (uiMachine backend) handler () w
        (.ok (conclude full (selectedModeOf w.mode))) () (w.send ⟨false, userText, apiMode⟩) := by
  have asked : (perform (.chatFull userText apiMode)).Evaluates (uiMachine backend) handler () w
      (.ok (backend.full (w.send ⟨false, userText, apiMode⟩).sent)) () (w.send ⟨false, userText, apiMode⟩) :=
    perform_evaluates rfl
  exact ⟨_, asked.bind (concluded_evaluates _)⟩

theorem afterStream_evaluates (stream : ClientM Unit × List Dict) : ∃ reply after,
    (afterStream ui userText status apiMode stream).Evaluates (uiMachine backend) handler () w (.ok reply) () after ∧
      after.mode = w.mode ∧ (∃ fallback, after.sent = w.sent ++ fallback) ∧ after.shown = w.shown ∧
      reply.2.Offers (responseActions userText (selectedModeOf w.mode)) ∧
      Carried (responseActions userText (selectedModeOf w.mode)) reply := by
  unfold afterStream
  split
  · obtain ⟨full, asked⟩ := @chatFull_evaluates backend handler w userText apiMode _ fun full mode =>
      streamBackendResponse ui.strOf userText mode status apiMode stream full
    exact ⟨_, _, asked, rfl, ⟨_, rfl⟩, rfl, streamBackendResponse_offers, streamBackendResponse_carried⟩
  · exact ⟨_, w, concluded_evaluates _, rfl, ⟨[], (List.append_nil _).symm⟩, rfl, streamBackendResponse_offers,
      streamBackendResponse_carried⟩

theorem replyTo_evaluates (selected : selectedModeOf w.mode = mode) : ∃ reply after,
    (replyTo ui userText status (apiModeValue mode)).Evaluates (uiMachine backend) handler () w (.ok reply) () after ∧
      Asked ui userText mode w after ∧ after.shown = w.shown ∧ reply.2.Offers (responseActions userText mode) ∧
      Carried (responseActions userText mode) reply := by
  unfold replyTo
  by_cases streams : shouldStream ui (apiModeValue mode) = true
  · have asked : askedFor ui userText mode = ⟨true, userText, apiModeValue mode⟩ := by simp [askedFor, streams]
    have first : (perform (.chatStream userText (apiModeValue mode))).Evaluates (uiMachine backend) handler () w
        (.ok (backend.stream (w.send (askedFor ui userText mode)).sent)) () (w.send (askedFor ui userText mode)) := by
      rw [asked]
      exact perform_evaluates rfl
    obtain ⟨reply, after, rest, held, ⟨fallback, sent⟩, shown, offers, carried⟩ :=
      @afterStream_evaluates ui backend handler (w.send (askedFor ui userText mode)) userText status (apiModeValue mode)
        (backend.stream (w.send (askedFor ui userText mode)).sent)
    rw [if_pos streams]
    refine ⟨reply, after, first.bind rest, ⟨held, fallback, ?_⟩, shown, selected ▸ offers, selected ▸ carried⟩
    rw [sent, UiWorld.send, List.append_assoc]
    rfl
  · have asked : askedFor ui userText mode = ⟨false, userText, apiModeValue mode⟩ := by simp [askedFor, streams]
    rw [if_neg streams]
    obtain ⟨full, first⟩ := @chatFull_evaluates backend handler w userText (apiModeValue mode) _ fun full mode =>
      sendFullBackendResponse userText mode full (Chat.ofStatus status)
    refine ⟨_, _, first, ⟨rfl, [], by rw [asked]; rfl⟩, rfl, ?_, ?_⟩
    · exact selected ▸ sendFullBackendResponse_offers (Stream.Offers.start status none)
    · exact selected ▸ sendFullBackendResponse_carried rfl

theorem showReply_evaluates {reply : ClientM Unit × Chat} (offers : reply.2.Offers (responseActions userText mode))
    (carried : Carried (responseActions userText mode) reply) :
    ∃ out after, (showReply userText mode reply).Evaluates (uiMachine backend) handler () w out () after ∧
      after.mode = w.mode ∧ after.sent = w.sent ∧ Shown userText mode out w after := by
  have displays : ∀ chat, (perform (.display chat)).Evaluates (uiMachine backend) handler () w (.ok ()) ()
      { w with shown := w.shown ++ [chat] } := fun chat => perform_evaluates rfl
  rcases reply with ⟨⟨error | raised⟩ | _, chat⟩
  · have failed : (chat.failed userText mode error).Offers (responseActions userText mode) :=
      Chat.Offers.update (offers.edit (by exact fun _ => .inr rfl))
    have replaced : (chat.failed userText mode error).Carries (responseActions userText mode) := by
      refine Chat.carries_update ?_ ?_
      · rw [Chat.edit_message]
        exact carried
      · rw [Chat.edit_message]
    exact ⟨_, _, displays _, rfl, rfl, _, rfl, failed, fun _ => replaced⟩
  · exact ⟨_, _, (displays chat).bind .throw, rfl, rfl, chat, rfl, offers, fun ended => by cases ended⟩
  · exact ⟨_, _, displays chat, rfl, rfl, chat, rfl, offers, fun _ => carried⟩

/-- On its own the rest of `handle_user_text` asks once, in the mode that is selected. -/
theorem askBackend_evaluates (selected : selectedModeOf w.mode = mode) : ∃ out after,
    (askBackend ui userText).Evaluates (uiMachine backend) handler () w out () after ∧
      Asked ui userText mode w after ∧ Shown userText mode out w after := by
  let noted : UiWorld := { w with lastUserMessage := some userText }
  have first : (perform (.storeLastUserMessage userText)).Evaluates (uiMachine backend) handler () w (.ok ()) () noted :=
    perform_evaluates rfl
  have status : ∀ text, (perform (.say text "")).Evaluates (uiMachine backend) handler () noted (.ok ()) () noted :=
    fun text => perform_evaluates rfl
  obtain ⟨reply, asked, replied, ⟨held, fallback, sent⟩, shown, offers, carried⟩ := @replyTo_evaluates ui backend
    handler noted userText mode ("Sending request to `" ++ ui.baseUrl ++ "` using **" ++ modeLabel mode ++ "** mode...") selected
  obtain ⟨out, after, displayed, still, same, chat, shows, actions⟩ :=
    @showReply_evaluates backend handler asked userText mode reply offers carried
  have mode_ : getSelectedMode.Evaluates (uiMachine backend) handler () noted (.ok mode) () noted :=
    selected ▸ getSelectedMode_evaluates
  refine ⟨out, after, first.bind (mode_.bind ((status _).bind (replied.bind displayed))), ⟨still.trans held, fallback, ?_⟩,
    chat, ?_, actions⟩
  · rw [same, sent]
  · rw [shows, shown]

theorem selectedModeOf_mode (known : isMode mode = true) : selectedModeOf (some mode) = mode := by
  simp [selectedModeOf, known]

/-- A handler that leaves nothing but the request and its reply. -/
def Answers (ui : UiSettings) (backend : UiBackend) (handler : Nat) (m : UiM Unit) (userText mode : String) (w : UiWorld) :
    Prop :=
  ∃ out after, m.Evaluates (uiMachine backend) handler () w out () after ∧
    (∃ fallback, after.sent = w.sent ++ askedFor ui userText mode :: fallback) ∧ Shown userText mode out w after

theorem handleUserText_evaluates {starterMode : Option String} {echoUser : Bool}
    (selected : selectedModeOf (starterMode.or w.mode) = mode) (starts : ∀ mode, starterMode = some mode → isMode mode = true) :
    Answers ui backend handler (handleUserText ui userText starterMode echoUser) userText mode w := by
  have echoed : ∀ text author, (if echoUser then perform (.say text author) else pure ()).Evaluates (uiMachine backend)
      handler () w (.ok ()) () w := by
    intro text author
    cases echoUser with
    | true => exact perform_evaluates rfl
    | false => exact .pure
  cases starterMode with
  | none =>
      obtain ⟨out, after, asked, ⟨-, sent⟩, shown⟩ := @askBackend_evaluates ui backend handler w userText mode selected
      exact ⟨out, after, (echoed _ _).bind (Routine.Evaluates.pure.bind asked), sent, shown⟩
  | some starter =>
      let started : UiWorld := { w with mode := some starter }
      have sets : (setStarterMode (some starter)).Evaluates (uiMachine backend) handler () w (.ok ()) () started := by
        have stored : (perform (.storeMode starter)).Evaluates (uiMachine backend) handler () w (.ok ()) () started :=
          perform_evaluates rfl
        exact stored.bind (perform_evaluates rfl)
      obtain ⟨out, after, asked, ⟨-, sent⟩, shown⟩ := @askBackend_evaluates ui backend handler started userText mode selected
      exact ⟨out, after, (echoed _ _).bind (sets.bind asked), sent, shown⟩

theorem normalizeModeValue_mode (strOf : StrOf) (casefold : String → String) (known : isMode mode = true) :
    normalizeModeValue strOf casefold (.str mode) = mode := by
  have tight : ∀ mode ∈ modeOptions.map Prod.fst, (Json.str mode).truthy = true ∧ Python.stripText mode = mode := by
    decide +kernel
  obtain ⟨there, stripped⟩ := tight mode (List.contains_iff_mem.mp known)
  simp [normalizeModeValue, there, strOf.ofString, stripped, known]

/-- The Retry action asks for its text in its mode, whatever the session has come to. -/
theorem onRetryResponse_evaluates (known : isMode mode = true) (filled : userText ≠ "")
    (stripped : Python.stripText userText = userText) :
    Answers ui backend handler (onRetryResponse ui [("message", .str userText), ("mode", .str mode)]) userText mode w := by
  let stored : UiWorld := { w with mode := some mode }
  obtain ⟨out, after, asked, sent, shown⟩ := @handleUserText_evaluates ui backend handler stored userText mode none true
    (selectedModeOf_mode known) (fun _ same => by cases same)
  have text : Python.stripText (ui.strOf.text ((Dict.get? [("message", .str userText), ("mode", .str mode)]
      "message").getD (.str ""))) = userText := by
    simp [Dict.get?, ui.strOf.ofString, stripped]
  have chosen : ∀ held, normalizeModeValue ui.strOf ui.casefold ((Dict.get? [("message", .str userText),
      ("mode", .str mode)] "mode").getD (.str held)) = mode := by
    intro held
    simp [Dict.get?, List.lookup_cons, normalizeModeValue_mode ui.strOf ui.casefold known]
  refine ⟨out, after, getSelectedMode_evaluates.bind ?_, sent, shown⟩
  rw [text, chosen, if_neg filled]
  have stores : (perform (.storeMode mode)).Evaluates (uiMachine backend) handler () w (.ok ()) () stored :=
    perform_evaluates rfl
  have removes : (perform .removeAction).Evaluates (uiMachine backend) handler () stored (.ok ()) () stored :=
    perform_evaluates rfl
  have sends : (perform (.sendModeSettings mode)).Evaluates (uiMachine backend) handler () stored (.ok ()) () stored :=
    perform_evaluates rfl
  exact stores.bind (removes.bind (sends.bind asked))

theorem onMessage_evaluates {command : Option Json} {content : String} (filled : Python.stripText content ≠ "") :
    ∃ mode, isMode mode = true ∧
      Answers ui backend handler (onMessage ui command content) (Python.stripText content) mode w := by
  refine ⟨selectedModeOf ((starterModeForValues command content).or w.mode), isMode_selectedModeOf _, ?_⟩
  unfold onMessage
  dsimp only
  rw [if_neg filled]
  exact handleUserText_evaluates rfl fun _ starts => isMode_starterModeForValues starts

end Alone

/-- The action sends the text in the mode once more. -/
def Action.Resends (action : Action) (userText mode : String) : Prop :=
  action.name = "retry_response" ∧ action.payload = [("message", .str userText), ("mode", .str mode)]

theorem responseActions_resends (userText mode : String) :
    ∃ action ∈ responseActions userText mode, action.Resends userText mode :=
  ⟨_, List.mem_cons_self, rfl, rfl⟩

/-- A Retry action resends. -/
theorem resends_of_mem {userText mode : String} {action : Action} (offered : action ∈ responseActions userText mode)
    (isRetry : action.name = "retry_response") : action.Resends userText mode := by
  simp only [responseActions, List.mem_cons, List.not_mem_nil, or_false] at offered
  rcases offered with rfl | rfl | rfl
  · exact ⟨rfl, rfl⟩
  · simp at isRetry
  · simp at isRetry

/-- A message is answered with one reply, whose actions are about its text and the mode it
    was asked for in. Unless an exception has left the handler a Retry action is displayed,
    and each one, pressed in whatever session and answered by whatever backend, sends the very
    request the message sent first. -/
theorem retry_resends {ui : UiSettings} {backend : UiBackend} {handler : Nat} {command : Option Json} {content : String}
    {w : UiWorld} (filled : Python.stripText content ≠ "") :
    ∃ (mode : String) (out : Except PyError Unit) (after : UiWorld) (chat : Chat),
      (onMessage ui command content).Evaluates (uiMachine backend) handler () w out () after ∧
      (∃ fallback, after.sent = w.sent ++ askedFor ui (Python.stripText content) mode :: fallback) ∧
      after.shown = w.shown ++ [chat] ∧ chat.Offers (responseActions (Python.stripText content) mode) ∧
      (out = .ok () → ∃ slot, (chat.message slot).displayed.isSome = true ∧
        ∃ action ∈ (chat.message slot).actions, action.Resends (Python.stripText content) mode) ∧
      ∀ slot, ∀ action ∈ (chat.message slot).actions, action.name = "retry_response" →
        ∀ (backend' : UiBackend) (handler' : Nat) (v : UiWorld), ∃ (out' : Except PyError Unit) (after' : UiWorld),
          (onRetryResponse ui action.payload).Evaluates (uiMachine backend') handler' () v out' () after' ∧
            ∃ fallback, after'.sent = v.sent ++ askedFor ui (Python.stripText content) mode :: fallback := by
  obtain ⟨mode, known, out, after, handled, sent, chat, shown, offers, carries⟩ :=
    @onMessage_evaluates ui backend handler w command content filled
  refine ⟨mode, out, after, chat, handled, sent, shown, offers, fun ended => ?_, fun slot action offered isRetry => ?_⟩
  · obtain ⟨slot, displayed, actions⟩ := carries ended
    exact ⟨slot, displayed, actions ▸ responseActions_resends _ _⟩
  · intro backend' handler' v
    have listed : action ∈ responseActions (Python.stripText content) mode := by
      rcases offers slot with none | some
      · rw [none] at offered
        cases offered
      · rwa [some] at offered
    rw [(resends_of_mem listed isRetry).2]
    obtain ⟨out', after', retried, again, -⟩ :=
      @onRetryResponse_evaluates ui backend' handler' v _ mode known filled (Python.stripText_stripText content)
    exact ⟨out', after', retried, again⟩

/-- A question in the mode that is selected, which the backend answers in full. -/
theorem retry_resends_question : ∃ (mode : String) (after : UiWorld) (chat : Chat),
    after.sent = [askedFor someUi "Why?" mode] ∧ after.shown = [chat] ∧
      ∃ slot, ∃ action ∈ (chat.message slot).actions, action.Resends "Why?" mode ∧
        ∀ (backend : UiBackend) (v : UiWorld), ∃ (out : Except PyError Unit) (after' : UiWorld),
          (onRetryResponse someUi action.payload).Evaluates (uiMachine backend) 1 () v out () after' ∧
            ∃ fallback, after'.sent = v.sent ++ askedFor someUi "Why?" mode :: fallback := by
  have text : Python.stripText " Why? " = "Why?" := by decide +kernel
  have answered : ((onMessage someUi none " Why? ").alone (uiMachine someBackend) 0 () { mode := some "general" }).map
      (fun ending => (ending.world.sent.length, ending.value.1)) = some (1, .ok ()) := by decide +kernel
  obtain ⟨mode, out, after, chat, ⟨commands, ended⟩, ⟨fallback, sent⟩, shown, -, carries, retries⟩ :=
    @retry_resends someUi someBackend 0 none " Why? " { mode := some "general" } (by decide +kernel)
  simp only [ended, Option.map_some, Option.some.injEq, Prod.mk.injEq, sent] at answered
  rw [text] at sent carries retries
  obtain ⟨slot, -, action, offered, resends⟩ := carries answered.2
  have none : fallback = [] := by simpa using answered.1
  exact ⟨mode, after, chat, by simp [sent, none], by simp [shown], slot, action, offered, resends,
    fun backend v => retries slot action offered resends.1 backend 1 v⟩

end LanguageAgent.Webui
