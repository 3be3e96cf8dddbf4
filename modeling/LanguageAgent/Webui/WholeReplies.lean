import LanguageAgent.Gateway.JsonLoads
import LanguageAgent.Webui.ShownTokens
import LanguageAgent.Webui.SseFrames

/-! # Replies that arrive in full

The frames of a stream are read as the events they are made of, and the chat displays
their text, with what interrupted it if anything did.
-/

namespace LanguageAgent.Webui

open Client Gateway Queue

/-! ## Reading -/

section Reading

variable {library : JsonLibrary} {apiKey : String} {events earlier : List Dict}

theorem readEvents_frames (held : ∀ event ∈ events, library.Holds (.obj event)) :
    readEvents library.loads none (Python.splitlines (events.flatMap (sseData library.floats))) earlier =
      (.ok (), earlier ++ events) := by
  induction events generalizing earlier with
  | nil => rw [List.append_nil]; rfl
  | cons event rest ih =>
      have loaded : library.loads (Json.dumps library.floats (.obj event)) = .ok (.obj event) :=
        JsonLibrary.loads_dumps (held event List.mem_cons_self)
      have later := @ih (earlier ++ [event]) fun other member => held other (List.mem_cons_of_mem _ member)
      rw [List.append_assoc, List.singleton_append] at later
      rw [List.flatMap_cons, splitlines_frame, readEvents, parseSseLine_data loaded]
      dsimp only
      rw [readEvents, parseSseLine_empty]
      exact later

/-- The client yields the events that have been sent. -/
theorem chatStream_frames (sends : authHeaders apiKey = .ok ()) (held : ∀ event ∈ events, library.Holds (.obj event)) :
    Client.chatStream library.loads apiKey (.response 200 (events.flatMap (sseData library.floats))) none =
      (.ok (), events) := by
  have read := @readEvents_frames library events [] held
  simp only [Client.chatStream, sends]
  exact read

end Reading

/-! ## Displaying -/

/-- The text of a reply: its tokens, and what interrupted it. -/
def displayedText (events : List Dict) : String :=
  match interruption? events with
  | none => tokensOf events
  | some text => endedWith (tokensOf events) text

/-- Only this message is displayed. -/
structure Chat.Displays (chat : Chat) (slot : Slot) (text : String) : Prop where
  text : (chat.message slot).displayed = some text
  only : ∀ other, other ≠ slot → (chat.message other).displayed = none

section Displaying

variable {strOf : StrOf} {userText selectedMode ending status content tokens text : String} {apiMode : Option String}
  {event : Dict} {events : List Dict} {s : Stream} {chat : Chat} {slot : Slot}

theorem Chat.ShowsOnly.displays (one : chat.ShowsOnly slot) (same : (chat.message slot).content = text) :
    (chat.update slot).Displays slot text := by
  have still : (chat.update slot).ShowsOnly slot := one.update
  refine ⟨same ▸ one.updated, fun other different => ?_⟩
  have hidden := (still.displayed other).not.mpr different
  simpa using hidden

theorem Chat.Shows.displays {actions : List Action} (shows : chat.Shows actions tokens text) :
    chat.Displays (remaining tokens) text := by
  refine ⟨shows.text, fun other different => ?_⟩
  have hidden := (shows.one.displayed other).not.mpr different
  simpa using hidden

/-- A reply that has a text or is interrupted is displayed, and nothing else. -/
theorem streamBackendResponse_displays {full : ClientM Dict}
    (complete : interruption? events = none → tokensOf events ≠ "" ∧ events.any (·.isTrue "done") = true) :
    ∃ chat, streamBackendResponse strOf userText selectedMode status apiMode (.ok (), events) full = (.ok (), chat) ∧
      chat.Displays (remaining (tokensOf events)) (displayedText events) := by
  have follows := @handleEvents_follows strOf userText selectedMode "" events _ (@streams_start status apiMode) rfl
  rw [String.empty_append] at follows
  unfold streamBackendResponse displayedText
  dsimp only
  cases interrupted : interruption? events with
  | some text =>
      cases next : Stream.handleEvents strOf userText selectedMode events (startStream status apiMode) with
      | goesOn s =>
          rw [interrupted, next] at follows
          exact follows.elim
      | returned chat =>
          rw [interrupted, next] at follows
          exact ⟨chat, rfl, follows.displays⟩
  | none =>
      obtain ⟨spoken, ended⟩ := complete interrupted
      cases next : Stream.handleEvents strOf userText selectedMode events (startStream status apiMode) with
      | returned chat =>
          rw [interrupted, next] at follows
          exact follows.elim
      | goesOn s =>
          rw [interrupted, next] at follows
          obtain ⟨streams, done⟩ := follows
          have completed : (s.completed userText selectedMode).Shows _ (tokensOf events) _ := streams.completed spoken
          rw [done, ended, if_pos rfl] at completed
          dsimp only
          rw [streams.streamed, if_neg spoken]
          exact ⟨_, rfl, completed.displays⟩

/-- For a reply without a text the full response is asked for, in place of the status. -/
theorem streamBackendResponse_full {full : ClientM Dict} (uninterrupted : interruption? events = none)
    (silent : tokensOf events = "") :
    ∃ chat, streamBackendResponse strOf userText selectedMode status apiMode (.ok (), events) full =
      sendFullBackendResponse userText selectedMode full chat ∧ chat.ShowsOnly .status := by
  have follows := @handleEvents_follows strOf userText selectedMode "" events _ (@streams_start status apiMode) rfl
  rw [String.empty_append, uninterrupted] at follows
  unfold streamBackendResponse
  dsimp only
  cases next : Stream.handleEvents strOf userText selectedMode events (startStream status apiMode) with
  | returned chat =>
      rw [next] at follows
      exact follows.elim
  | goesOn s =>
      rw [next, silent] at follows
      have shown := follows.1.one
      dsimp only
      rw [follows.1.streamed, if_pos rfl]
      exact ⟨s.chat, rfl, shown⟩

end Displaying

end LanguageAgent.Webui
