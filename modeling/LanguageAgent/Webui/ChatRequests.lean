import LanguageAgent.Api.Requests
import LanguageAgent.Webui.ChatSession

/-! # What the chat asks of the API

However the handlers of a chat interleave and whatever they are given, the API finds
nothing wrong with the requests they send.
-/

namespace LanguageAgent.Webui

open Api Client Gateway Interleaving Queue

/-- A request with a text and, if any, a mode of the API. It streams only where that is of use. -/
structure ChatSent.Valid (ui : UiSettings) (sent : ChatSent) : Prop where
  message : sent.message ≠ ""
  stripped : Python.stripText sent.message = sent.message
  mode : ∀ mode, sent.mode = some mode → mode ∈ ApiMode.values
  streams : sent.stream = true → ui.streamingEnabled = true ∧ ∃ mode ∈ streamingModes, sent.mode = some mode

/-- The body its route validates. -/
def ChatSent.fields (sent : ChatSent) : List RequestField :=
  if sent.stream then StreamChatRequest.fields else ChatRequest.fields

theorem ChatSent.Valid.accepted {ui : UiSettings} {sent : ChatSent} (valid : sent.Valid ui)
    (describe : List String → String → Dict) : validateBody describe sent.fields (.obj sent.payload) = .ok sent.payload := by
  obtain ⟨stream, message, mode⟩ := sent
  have long : ¬ message.length < 1 :=
    fun short => valid.message (String.length_eq_zero_iff.mp (Nat.lt_one_iff.mp short))
  have known := valid.mode
  refine validateBody_obj ?_
  cases mode with
  | none =>
      cases stream <;>
        simp [fields, payload, buildChatPayload, bodyErrors, StreamChatRequest.fields, ChatRequest.fields, RequestField.errors,
          Dict.get?, List.lookup_cons, RequestType.problems, long]
  | some mode =>
      have value : mode ∈ ApiMode.values := known mode rfl
      cases stream <;>
        simp [fields, payload, buildChatPayload, bodyErrors, StreamChatRequest.fields, ChatRequest.fields, RequestField.errors,
          Dict.get?, List.lookup_cons, RequestType.problems, long, value]

/-! ## Modes -/

theorem lookup_mem {α β : Type} [BEq α] [LawfulBEq α] {key : α} {value : β} {entries : List (α × β)}
    (found : entries.lookup key = some value) : (key, value) ∈ entries := by
  obtain ⟨before, after, rfl, -⟩ := List.lookup_eq_some_iff.mp found
  simp

theorem isMode_iff {mode : String} : isMode mode = true ↔ mode = modeAuto ∨ mode ∈ ApiMode.values := by
  simp only [isMode, modeOptions, modeAuto, ApiMode.values, List.map_cons, List.map_nil, List.contains_eq_mem,
    decide_eq_true_eq, List.mem_cons, List.not_mem_nil, or_false]

theorem isMode_selectedModeOf (held : Option String) : isMode (selectedModeOf held) = true := by
  unfold selectedModeOf
  dsimp only
  split
  · assumption
  · rfl

theorem isMode_normalizeModeValue (strOf : StrOf) (casefold : String → String) (value : Json) :
    isMode (normalizeModeValue strOf casefold value) = true := by
  unfold normalizeModeValue
  generalize Python.stripText (strOf.text (if value.truthy then value else .str modeAuto)) = selectedMode
  dsimp only
  split
  · assumption
  · cases found : ((modeOptions.map fun option => (casefold option.2, option.1)).reverse).lookup (casefold selectedMode) with
    | none => rfl
    | some mode =>
        obtain ⟨option, member, same⟩ := List.mem_map.mp (List.mem_reverse.mp (lookup_mem found))
        obtain ⟨-, rfl⟩ := Prod.mk.inj same
        exact List.contains_iff_mem.mpr (List.mem_map_of_mem member)

theorem isMode_starterModeForValues {command : Option Json} {content mode : String}
    (starts : starterModeForValues command content = some mode) : isMode mode = true := by
  have ofMessage : starterMessageModes.lookup (Python.stripText content) = some mode → isMode mode = true := by
    intro found
    have modes : ∀ entry ∈ starterMessageModes, isMode entry.2 = true := by decide
    exact modes _ (lookup_mem found)
  unfold starterModeForValues at starts
  split at starts
  · split_ifs at starts with starter
    · cases starts
      have modes : ∀ mode ∈ starterModes, isMode mode = true := by decide
      exact modes _ starter
    · exact ofMessage starts
  · exact ofMessage starts

theorem apiModeValue_values {mode value : String} (known : isMode mode = true) (sent : apiModeValue mode = some value) :
    value ∈ ApiMode.values := by
  unfold apiModeValue at sent
  split_ifs at sent with auto
  cases sent
  exact (isMode_iff.mp known).resolve_left auto

/-! ## Handlers -/

/-- The session holds a mode, and what is sent is valid. -/
def uiContract (ui : UiSettings) : Contract uiSignature where
  reply
    | .loadMode, held => ∀ mode, held = some mode → isMode mode = true
    | _, _ => True
  command
    | .storeMode mode => isMode mode = true
    | command => ∀ sent, command.sent? = some sent → sent.Valid ui

/-- The command sends nothing and stores no mode. -/
def UiCommand.isQuiet : UiCommand → Bool
  | .storeMode _ | .chatFull _ _ | .chatStream _ _ => false
  | _ => true

/-- A handler, or a part of one, that keeps to the contract. -/
abbrev Keeps {α : Type} (ui : UiSettings) (m : UiM α) (good : α → Prop) : Prop :=
  m.Maintains (uiContract ui) (fun _ => True) (fun _ => True) good

section Handlers

variable {ui : UiSettings} {α β : Type} {userText status mode : String} {apiMode : Option String}

/-- A command after which nothing is known. -/
theorem keeps_perform {command : UiCommand} (allowed : (uiContract ui).command command) :
    Keeps ui (perform command) fun _ => True :=
  (Routine.maintains_issue allowed).mono fun _ _ => trivial

/-- One part after another that says nothing. -/
theorem keeps_then {m : UiM α} {f : α → UiM β} {last : β → Prop} (first : Keeps ui m fun _ => True)
    (rest : ∀ a, Keeps ui (f a) last) : Keeps ui (m >>= f) last :=
  first.bind fun a _ => rest a

theorem quiet_allowed {command : UiCommand} (quiet : command.isQuiet = true) : (uiContract ui).command command := by
  cases command <;> simp_all [UiCommand.isQuiet, uiContract, UiCommand.sent?]

theorem keeps_quiet {command : UiCommand} (quiet : command.isQuiet = true) : Keeps ui (perform command) fun _ => True :=
  keeps_perform (quiet_allowed quiet)

theorem keeps_storeMode (known : isMode mode = true) : Keeps ui (perform (.storeMode mode)) fun _ => True :=
  keeps_perform known

theorem keeps_getSelectedMode : Keeps ui getSelectedMode fun mode => isMode mode = true :=
  (Routine.maintains_issue (quiet_allowed rfl)).bind fun held _ =>
    Routine.maintains_pure (isMode_selectedModeOf held)

/-- What is sent to the API is a stripped text in a mode of the API. -/
theorem keeps_replyTo (filled : userText ≠ "") (stripped : Python.stripText userText = userText)
    (known : isMode mode = true) : Keeps ui (replyTo ui userText status (apiModeValue mode)) fun _ => True := by
  have full : Keeps ui (perform (.chatFull userText (apiModeValue mode))) fun _ => True := by
    refine keeps_perform fun sent same => ?_
    cases same
    exact ⟨filled, stripped, fun value sent => apiModeValue_values known sent, fun streams => by cases streams⟩
  have ended : ∀ conclude : String → ClientM Unit × Chat, Keeps ui (getSelectedMode >>= fun mode => pure (conclude mode))
      fun _ => True :=
    fun conclude => keeps_getSelectedMode.bind fun _ _ => Routine.maintains_pure trivial
  unfold replyTo
  refine Routine.maintains_ite (fun streams => ?_) fun _ => keeps_then full fun full => ended _
  have streamed : Keeps ui (perform (.chatStream userText (apiModeValue mode))) fun _ => True := by
    refine keeps_perform fun sent same => ?_
    cases same
    simp only [shouldStream, Bool.and_eq_true, Option.any_eq_true, List.contains_iff_mem] at streams
    obtain ⟨enabled, value, sent, member⟩ := streams
    exact ⟨filled, stripped, fun value sent => apiModeValue_values known sent, fun _ => ⟨enabled, value, member, sent⟩⟩
  refine keeps_then streamed fun stream => ?_
  exact Routine.maintains_ite (fun _ => keeps_then full fun full => ended _) fun _ => ended _

theorem keeps_showReply (reply : ClientM Unit × Chat) : Keeps ui (showReply userText mode reply) fun _ => True := by
  rcases reply with ⟨⟨error | raised⟩ | _, chat⟩
  · exact keeps_quiet rfl
  · exact keeps_then (keeps_quiet rfl) fun _ => Routine.maintains_throw trivial
  · exact keeps_quiet rfl

theorem keeps_askBackend (filled : userText ≠ "") (stripped : Python.stripText userText = userText) :
    Keeps ui (askBackend ui userText) fun _ => True :=
  keeps_then (keeps_quiet rfl) fun _ => keeps_getSelectedMode.bind fun _ known =>
    keeps_then (keeps_quiet rfl) fun _ => keeps_then (keeps_replyTo filled stripped known) keeps_showReply

theorem keeps_handleUserText (filled : userText ≠ "") (stripped : Python.stripText userText = userText)
    {starterMode : Option String} (starts : ∀ mode, starterMode = some mode → isMode mode = true) (echoUser : Bool) :
    Keeps ui (handleUserText ui userText starterMode echoUser) fun _ => True := by
  have echoed : Keeps ui (if echoUser then perform (.say userText "You") else pure ()) fun _ => True :=
    Routine.maintains_ite (fun _ => keeps_quiet rfl) fun _ => Routine.maintains_pure trivial
  have started : Keeps ui (setStarterMode starterMode) fun _ => True := by
    cases starterMode with
    | none => exact Routine.maintains_pure trivial
    | some mode => exact keeps_then (keeps_storeMode (starts mode rfl)) fun _ => keeps_quiet rfl
  exact keeps_then echoed fun _ => keeps_then started fun _ => keeps_askBackend filled stripped

/-- Every handler keeps to the contract. -/
theorem keeps_routine (handler : Handler) : Keeps ui (handler.routine ui) fun _ => True := by
  cases handler with
  | chatStart =>
      exact keeps_then (keeps_storeMode rfl) fun _ => keeps_then (keeps_quiet rfl) fun _ =>
        keeps_quiet rfl
  | chatResume user thread =>
      exact Routine.maintains_ite (fun _ => keeps_getSelectedMode.bind fun _ _ => keeps_quiet rfl)
        fun _ => Routine.maintains_pure trivial
  | settingsUpdate settings =>
      exact keeps_then (keeps_storeMode (isMode_normalizeModeValue ..)) fun _ => keeps_quiet rfl
  | setMode payload =>
      exact keeps_then (keeps_storeMode (isMode_normalizeModeValue ..)) fun _ =>
        keeps_then (keeps_quiet rfl) fun _ => keeps_then (keeps_quiet rfl) fun _ =>
          keeps_quiet rfl
  | retryResponse payload =>
      refine keeps_getSelectedMode.bind fun held _ => Routine.maintains_ite (fun _ => keeps_quiet rfl)
        fun filled => ?_
      exact keeps_then (keeps_storeMode (isMode_normalizeModeValue ..)) fun _ =>
        keeps_then (keeps_quiet rfl) fun _ => keeps_then (keeps_quiet rfl) fun _ =>
          keeps_handleUserText filled (Python.stripText_stripText _) (fun _ same => by cases same) true
  | feedbackGood => exact keeps_then (keeps_quiet rfl) fun _ => keeps_quiet rfl
  | feedbackNeedsCategory =>
      exact keeps_then (keeps_quiet rfl) fun _ =>
        Routine.maintains_ite (fun _ => Routine.maintains_pure trivial) fun _ => keeps_quiet rfl
  | message command content =>
      exact Routine.maintains_ite (fun _ => keeps_quiet rfl) fun filled =>
        keeps_handleUserText filled (Python.stripText_stripText _) (fun _ starts => isMode_starterModeForValues starts) false

end Handlers

def ValidSession (ui : UiSettings) (w : UiWorld) : Prop :=
  (∀ mode, w.mode = some mode → isMode mode = true) ∧ ∀ sent ∈ w.sent, sent.Valid ui

/-- The session keeps its side of the contract. -/
theorem served {ui : UiSettings} {backend : UiBackend} {handler : Nat} {command : UiCommand} {reply : command.Reply}
    {w after : UiWorld} (valid : ValidSession ui w) (promised : (uiContract ui).command command)
    (answered : uiExec backend handler command w = some (reply, after)) :
    (uiContract ui).reply command reply ∧ ValidSession ui after := by
  obtain ⟨modes, sent⟩ := valid
  have sends : ∀ last : ChatSent, last.Valid ui → ∀ each ∈ w.sent ++ [last], each.Valid ui := by
    intro last valid each member
    rcases List.mem_append.mp member with old | new
    · exact sent each old
    · exact List.mem_singleton.mp new ▸ valid
  cases command with
  | loadMode =>
      cases answered
      exact ⟨modes, modes, sent⟩
  | storeMode mode =>
      cases answered
      exact ⟨trivial, fun held same => Option.some.inj same ▸ promised, sent⟩
  | chatFull message mode =>
      cases answered
      exact ⟨trivial, modes, sends _ (promised _ rfl)⟩
  | chatStream message mode =>
      cases answered
      exact ⟨trivial, modes, sends _ (promised _ rfl)⟩
  | _ =>
      cases answered
      exact ⟨trivial, modes, sent⟩

/-- Whatever the handlers are given, however they interleave and whatever they are answered:
    the session holds a mode that there is, and every request sent so far is valid and is
    accepted by its route. -/
theorem requests_valid {ui : UiSettings} {backend : UiBackend} {handlers : Nat → Handler} {d : UiSystem}
    (reach : (uiMachine backend).Reach Machine.anyStep (inChat ui handlers) d) :
    (∀ mode, d.world.mode = some mode → isMode mode = true) ∧
      ∀ sent ∈ d.world.sent, sent.Valid ui ∧
        ∀ describe, validateBody describe sent.fields (.obj sent.payload) = .ok sent.payload := by
  have honours : ∀ handler, ((inChat ui handlers).program handler).Honours (uiContract ui) fun _ => True :=
    fun handler => (keeps_routine (handlers handler) () trivial).mono fun _ _ => trivial
  obtain ⟨-, ⟨modes, valid⟩, -⟩ := reach.honoured (ValidSession ui)
    (fun trace w handler command reply after inv _ promised answered => served inv promised answered) honours
    ⟨fun mode same => (by cases same), fun sent member => (by cases member)⟩ (fun label member => by cases member)
  exact ⟨modes, fun sent member => ⟨valid sent member, (valid sent member).accepted⟩⟩

/-- A starter, a change of the settings in between, and a retry without a mode. -/
def someHandlers : Nat → Handler
  | 0 => .message none "Define recursion in simple terms."
  | 1 => .settingsUpdate [("selected_mode", .str "GENERAL ")]
  | _ => .retryResponse [("message", .str " Why?")]

theorem requests_valid_retry : ∃ d : UiSystem,
    d.world.sent = [⟨true, "Define recursion in simple terms.", some "definition"⟩, ⟨false, "Why?", some "general"⟩] ∧
      ∀ sent ∈ d.world.sent, sent.Valid someUi := by
  obtain ⟨d, reach, seen⟩ := Machine.schedule_observed (uiMachine someBackend) Machine.anyStep
    ([0, 0, 0, 0, 0, 1, 0] ++ List.replicate 9 2) (inChat someUi someHandlers) (fun d => d.world.sent)
    [⟨true, "Define recursion in simple terms.", some "definition"⟩, ⟨false, "Why?", some "general"⟩] (by decide +kernel)
  exact ⟨d, seen, fun sent member => ((requests_valid reach).2 sent member).1⟩

end LanguageAgent.Webui
