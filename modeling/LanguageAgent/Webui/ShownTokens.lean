import LanguageAgent.Webui.ChatPage

/-! # What is left of a streamed reply

However a stream ends, the chat displays one message, and it begins with the tokens.
-/

namespace LanguageAgent.Webui

open Client

/-- The events before the one that ends the response, up to a `done` event. -/
def processed : List Dict → List Dict
  | [] => []
  | event :: rest =>
      if Stream.isCancelled event || (Stream.errorMessage? event).isSome then []
      else event :: if event.isTrue "done" then [] else processed rest

def tokensOf (events : List Dict) : String := String.join ((processed events).map tokenOf)

/-- The response remains once there is a token. -/
def remaining (tokens : String) : Slot := if tokens = "" then .status else .response

/-- What an event says that is cancelled or of an error. -/
def interruptionOf? (event : Dict) : Option String :=
  if Stream.isCancelled event then some ((streamStatusMessages.lookup "cancelled").getD "")
  else Stream.errorMessage? event

/-- What interrupts a reply before its `done` event, if anything does. -/
def interruption? : List Dict → Option String
  | [] => none
  | event :: rest =>
      match interruptionOf? event with
      | some text => some text
      | none => if event.isTrue "done" then none else interruption? rest

/-- The tokens, and what comes after them. -/
def endedWith (tokens ending : String) : String := if tokens = "" then ending else tokens ++ "\n\n" ++ ending

/-- What is left of a stream that does not fall back to the full response: the tokens, and
    what has cut them short if anything has. -/
def shownText (stream : ClientM Unit × List Dict) : String :=
  match interruption? stream.2, stream.1 with
  | some text, _ => endedWith (tokensOf stream.2) text
  | none, .error _ =>
      if tokensOf stream.2 = "" then formatUiError (.stream "") else endedWith (tokensOf stream.2) Stream.interruptedNote
  | none, .ok () =>
      if stream.2.any (·.isTrue "done") then tokensOf stream.2 else endedWith (tokensOf stream.2) Stream.incompleteNote

namespace Chat

/-- One of the messages is displayed. The response has been sent, and the status removed,
    where it is the response. -/
structure ShowsOnly (chat : Chat) (slot : Slot) : Prop where
  displayed : ∀ other, (chat.message other).displayed.isSome = true ↔ other = slot
  sent : chat.calls.count (.send .response) = if slot = .response then 1 else 0
  removed : chat.calls.count (.remove .status) = if slot = .response then 1 else 0
  alone : .chatFull ∉ chat.calls

variable {chat : Chat} {slot other : Slot} {assign : Message → Message} {token text : String}

@[simp] theorem call_message (c : Call) : (chat.call c).message = chat.message := rfl

@[simp] theorem call_calls (c : Call) : (chat.call c).calls = chat.calls ++ [c] := rfl

@[simp] theorem edit_calls : (chat.edit slot assign).calls = chat.calls := rfl

@[simp] theorem edit_message : (chat.edit slot assign).message slot = assign (chat.message slot) :=
  Function.update_self ..

theorem edit_other (different : other ≠ slot) : (chat.edit slot assign).message other = chat.message other :=
  Function.update_of_ne different ..

namespace ShowsOnly

/-- Assigning to the fields of a message does not change what is displayed. -/
theorem edit (one : chat.ShowsOnly slot)
    (keeps : ∀ message, (assign message).displayed.isSome = message.displayed.isSome) :
    (chat.edit other assign).ShowsOnly slot := by
  refine ⟨fun third => ?_, one.sent, one.removed, one.alone⟩
  by_cases same : third = other
  · subst same
    rw [edit_message, keeps]
    exact one.displayed third
  · rw [edit_other same]
    exact one.displayed third

theorem call (one : chat.ShowsOnly slot) {c : Call} (sends : c ≠ .send .response) (removes : c ≠ .remove .status)
    (full : c ≠ .chatFull) : (chat.call c).ShowsOnly slot := by
  refine ⟨one.displayed, ?_, ?_, ?_⟩
  · rw [call_calls, List.count_append, List.count_singleton, one.sent]
    simp [sends]
  · rw [call_calls, List.count_append, List.count_singleton, one.removed]
    simp [removes]
  · simp [one.alone, full.symm]

theorem update (one : chat.ShowsOnly slot) : (chat.update other).ShowsOnly slot :=
  (one.edit fun _ => by simp).call (by simp) (by simp) (by simp)

theorem streamToken (one : chat.ShowsOnly slot) : (chat.streamToken other token).ShowsOnly slot :=
  (one.edit fun _ => by simp).call (by simp) (by simp) (by simp)

/-- The response takes the place of the status. -/
theorem start (one : chat.ShowsOnly .status) : ((chat.remove .status).send .response).ShowsOnly .response := by
  obtain ⟨displayed, sent, removed, alone⟩ := one
  constructor
  · intro other
    cases other with
    | status =>
        have apart : Slot.status ≠ .response := by decide
        simp [send, remove, edit_other apart]
    | response => simp [send]
  · simp [send, remove, sent]
  · simp [send, remove, removed]
  · simp [send, remove, alone]

/-- After an update the content of the message is displayed. -/
theorem updated (one : chat.ShowsOnly slot) :
    ((chat.update slot).message slot).displayed = some (chat.message slot).content := by
  obtain ⟨text, displayed⟩ := Option.isSome_iff_exists.mp ((one.displayed slot).mpr rfl)
  simp [Chat.update, displayed]

end ShowsOnly

/-- The message that remains is displayed with its actions. -/
structure Shows (chat : Chat) (actions : List Action) (tokens text : String) : Prop where
  one : chat.ShowsOnly (remaining tokens)
  text : (chat.message (remaining tokens)).displayed = some text
  actions : (chat.message (remaining tokens)).actions = actions

theorem ShowsOnly.shows {tokens : String} {actions : List Action} (one : chat.ShowsOnly slot) (remains : remaining tokens = slot)
    (same : (chat.message slot).content = text) (offered : (chat.message slot).actions = actions) :
    (chat.update slot).Shows actions tokens text := by
  subst remains
  exact ⟨one.update, same ▸ one.updated, by simpa [Chat.update] using offered⟩

end Chat

/-! ## The events -/

/-- After some tokens: all of them have been streamed, or are still in the buffer. -/
structure Streams (s : Stream) (tokens : String) : Prop where
  one : s.chat.ShowsOnly (remaining tokens)
  streamed : s.streamedText = tokens
  received : s.receivedToken = true ↔ tokens ≠ ""
  started : s.responseStarted = true ↔ tokens ≠ ""
  content : (s.chat.message .response).content ++ s.tokenBuffer = tokens

variable {strOf : StrOf} {userText selectedMode ending status content tokens : String} {apiMode : Option String}
  {event : Dict} {events : List Dict} {s : Stream}

namespace Streams

theorem empty (streams : Streams s "") :
    s.streamedText = "" ∧ s.tokenBuffer = "" ∧ s.receivedToken = false ∧ s.responseStarted = false := by
  obtain ⟨-, streamed, received, started, content⟩ := streams
  obtain ⟨-, buffer⟩ := String.append_eq_empty_iff.mp content
  exact ⟨streamed, buffer, by simpa using received, by simpa using started⟩

/-- The buffer is emptied into the response. -/
theorem flush (streams : Streams s tokens) :
    s.flush.chat.ShowsOnly (remaining tokens) ∧ (s.flush.chat.message .response).content = tokens := by
  refine ⟨streams.one.streamToken, ?_⟩
  rw [← streams.content]
  simp [Stream.flush, Chat.streamToken]

theorem flushRest (streams : Streams s tokens) :
    s.flushRest.chat.ShowsOnly (remaining tokens) ∧ (s.flushRest.chat.message .response).content = tokens ∧
      s.flushRest.streamedText = tokens := by
  unfold Stream.flushRest
  split_ifs with drained
  · refine ⟨streams.one, ?_, streams.streamed⟩
    have content := streams.content
    rwa [drained, String.append_empty] at content
  · exact ⟨streams.flush.1, streams.flush.2, streams.streamed⟩

/-- The response is replaced by its final content. -/
theorem finish (one : s.chat.ShowsOnly .response) (remains : remaining tokens = .response) :
    (s.finish userText selectedMode content).Shows (responseActions userText selectedMode) tokens content := by
  refine Chat.ShowsOnly.shows (one.edit ?_) remains ?_ ?_
  · intro message
    rfl
  · rw [Chat.edit_message]
  · rw [Chat.edit_message]

theorem withEnding (streams : Streams s tokens) (received : tokens ≠ "") : s.withEnding ending = endedWith tokens ending := by
  rw [Stream.withEnding, endedWith, if_neg received, streams.streamed]

/-- A reply that is interrupted ends with what interrupted it. -/
theorem endEarly (streams : Streams s tokens) :
    (s.endEarly userText selectedMode ending).Shows (responseActions userText selectedMode) tokens
      (endedWith tokens ending) := by
  by_cases none : tokens = ""
  · subst none
    obtain ⟨streamed, buffer, -, started⟩ := streams.empty
    have remains : remaining "" = .status := rfl
    have one := streams.one
    rw [remains] at one
    simp only [Stream.endEarly, buffer, streamed, started, if_true, Bool.false_eq_true, if_false]
    refine Chat.ShowsOnly.shows ((one.edit ?_).edit ?_) remains ?_ ?_
    · intro message
      rfl
    · intro message
      rfl
    · rw [Chat.edit_message, endedWith, if_pos rfl]
    · rw [Chat.edit_message]
  · have remains : remaining tokens = .response := if_neg none
    have started := streams.started.mpr none
    have streamed : s.streamedText ≠ "" := by rw [streams.streamed]; exact none
    have running : s.startResponse = s := by simp [Stream.startResponse, started]
    have finished : s.endEarly userText selectedMode ending =
        s.flushRest.finish userText selectedMode (s.withEnding ending) := by
      unfold Stream.endEarly Stream.flushRest Stream.finish
      rw [running]
      by_cases drained : s.tokenBuffer = ""
      · simp [drained, streamed, started]
      · simp [drained, Stream.flush, Stream.withEnding, streamed, started]
    rw [finished, streams.withEnding none]
    exact finish (remains ▸ streams.flushRest.1) remains

theorem noteStatus (streams : Streams s tokens) : Streams (s.noteStatus event) tokens := by
  obtain ⟨one, streamed, received, started, content⟩ := streams
  unfold Stream.noteStatus
  split
  · exact ⟨one, streamed, received, started, content⟩
  · dsimp only
    split
    · exact ⟨one, streamed, received, started, content⟩
    · split_ifs
      · exact ⟨one, streamed, received, started, content⟩
      · refine ⟨(one.edit ?_).update, streamed, received, started, ?_⟩
        · intro message
          rfl
        · have apart : Slot.response ≠ .status := by decide
          simp only [Chat.update, Chat.call_message, Chat.edit_other apart, content]

/-- The response is there before its first token is. -/
theorem startResponse (streams : Streams s tokens) :
    s.startResponse.chat.ShowsOnly .response ∧
      (s.startResponse.chat.message .response).content = (s.chat.message .response).content := by
  unfold Stream.startResponse
  by_cases none : tokens = ""
  · subst none
    obtain ⟨-, -, -, started⟩ := streams.empty
    have one : s.chat.ShowsOnly .status := streams.one
    have apart : Slot.response ≠ .status := by decide
    rw [started]
    exact ⟨one.start, by simp [Chat.send, Chat.remove, Chat.edit_other apart]⟩
  · have remains : remaining tokens = .response := if_neg none
    rw [streams.started.mpr none]
    exact ⟨remains ▸ streams.one, rfl⟩

theorem startResponse_received :
    Stream.startResponse { s with receivedToken := true } =
      { s with chat := s.startResponse.chat, receivedToken := true, responseStarted := true } := by
  unfold Stream.startResponse
  cases s with
  | mk _ _ _ _ started _ _ _ => cases started <;> rfl

theorem takeToken (streams : Streams s tokens) : Streams (s.takeToken event) (tokens ++ tokenOf event) := by
  unfold Stream.takeToken tokenOf
  split
  · rename_i missing
    simpa [missing] using streams
  · rename_i token found
    rw [found, Option.getD_some]
    split_ifs with empty
    · simpa [empty] using streams
    · have received : tokens ++ token ≠ "" := fun same => empty (String.append_eq_empty_iff.mp same).2
      have remains : remaining (tokens ++ token) = .response := if_neg received
      obtain ⟨one, content⟩ := streams.startResponse
      have streamed : s.streamedText ++ token = tokens ++ token := by rw [streams.streamed]
      have content : (s.startResponse.chat.message .response).content ++ (s.tokenBuffer ++ token) = tokens ++ token := by
        rw [content, ← String.append_assoc, streams.content]
      rw [startResponse_received]
      have buffered : Streams
          { s with
            chat := s.startResponse.chat
            streamedText := s.streamedText ++ token
            tokenBuffer := s.tokenBuffer ++ token
            receivedToken := true
            responseStarted := true } (tokens ++ token) := by
        rw [← remains] at one
        exact ⟨one, streamed, by simp [received], by simp [received], content⟩
      dsimp only
      split_ifs
      · obtain ⟨flushed, all⟩ := buffered.flush
        exact ⟨flushed, streamed, by simp [Stream.flush, received], by simp [Stream.flush, received],
          all ▸ String.append_empty⟩
      · exact buffered

theorem interrupted (streams : Streams s tokens) :
    (s.interrupted userText selectedMode).Shows (responseActions userText selectedMode) tokens
      (if tokens = "" then formatUiError (.stream "") else endedWith tokens Stream.interruptedNote) := by
  unfold Stream.interrupted
  split_ifs with received none none
  · exact absurd none (streams.received.mp received)
  · have remains : remaining tokens = .response := if_neg none
    rw [streams.withEnding none]
    exact finish (remains ▸ streams.flushRest.1) remains
  · subst none
    have one : s.chat.ShowsOnly .status := streams.one
    refine Chat.ShowsOnly.shows (one.edit ?_) rfl ?_ ?_
    · intro message
      rfl
    · rw [Chat.edit_message]
      rfl
    · rw [Chat.edit_message]
  · exact absurd (streams.received.mpr none) received

theorem completed (streams : Streams s tokens) (received : tokens ≠ "") :
    (s.completed userText selectedMode).Shows (responseActions userText selectedMode) tokens
      (if s.doneReceived then tokens else endedWith tokens Stream.incompleteNote) := by
  have remains : remaining tokens = .response := if_neg received
  have still : s.flushRest.doneReceived = s.doneReceived := by
    unfold Stream.flushRest
    split_ifs <;> rfl
  have ended : s.flushRest.withEnding Stream.incompleteNote = endedWith tokens Stream.incompleteNote := by
    rw [Stream.withEnding, endedWith, if_neg received, streams.flushRest.2.2]
  obtain ⟨one, content, -⟩ := streams.flushRest
  rw [remains] at one
  simp only [Stream.completed, still, ended]
  split_ifs
  · refine Chat.ShowsOnly.shows (one.edit ?_) remains ?_ ?_
    · intro message
      rfl
    · rw [Chat.edit_message]
      exact content
    · rw [Chat.edit_message]
  · exact finish one remains

end Streams

theorem streams_start : Streams (startStream status apiMode) "" := by
  refine ⟨⟨?_, rfl, rfl, ?_⟩, rfl, ?_, ?_, rfl⟩
  · intro other
    cases other <;> simp [startStream, remaining]
  · simp [startStream]
  · simp [startStream]
  · simp [startStream]

/-- After a `done` event the rest is ignored. -/
theorem handleEvents_done (done : s.doneReceived = true) :
    s.handleEvents strOf userText selectedMode events = .goesOn s := by
  induction events with
  | nil => rfl
  | cons event rest ih => simp [Stream.handleEvents, Stream.handleEvent, done, ih]

theorem noteStatus_done : (s.noteStatus event).doneReceived = s.doneReceived := by
  unfold Stream.noteStatus
  split
  · rfl
  · dsimp only
    split
    · rfl
    · split_ifs <;> rfl

theorem startResponse_done : s.startResponse.doneReceived = s.doneReceived := by
  unfold Stream.startResponse
  split_ifs <;> rfl

theorem takeToken_done : (s.takeToken event).doneReceived = s.doneReceived := by
  unfold Stream.takeToken
  split
  · rfl
  · dsimp only
    split_ifs
    · rfl
    · exact startResponse_done
    · exact startResponse_done

/-- After some tokens the events go on, or what is displayed is complete. -/
def Stream.Next.Follows (actions : List Action) (events : List Dict) (tokens : String) : Option String → Stream.Next → Prop
  | none, .goesOn s => Streams s tokens ∧ s.doneReceived = events.any (·.isTrue "done")
  | some text, .returned chat => chat.Shows actions tokens (endedWith tokens text)
  | _, _ => False

/-- The status of an event has been noted, and its mode. -/
theorem noted {mode : Option String} (streams : Streams s tokens) :
    Streams (Stream.noteStatus event { s with responseMode := mode }) tokens := by
  refine Streams.noteStatus ?_
  exact ⟨streams.one, streams.streamed, streams.received, streams.started, streams.content⟩

/-- A `cancelled` or `error` event ends the response. -/
theorem handleEvent_interrupted {text : String} (streams : Streams s tokens) (opened : s.doneReceived = false)
    (interrupts : interruptionOf? event = some text) :
    ∃ chat, s.handleEvent strOf userText selectedMode event = .returned chat ∧
      chat.Shows (responseActions userText selectedMode) tokens (endedWith tokens text) := by
  rw [Stream.handleEvent, if_neg (by simp [opened])]
  unfold interruptionOf? at interrupts
  cases cancelled : Stream.isCancelled event with
  | true =>
      rw [cancelled, if_pos rfl] at interrupts
      obtain rfl := Option.some.inj interrupts
      exact ⟨_, rfl, (noted streams).endEarly⟩
  | false =>
      rw [cancelled, if_neg Bool.false_ne_true] at interrupts
      simp only [interrupts, Bool.false_eq_true, if_false]
      exact ⟨_, rfl, (noted streams).endEarly⟩

theorem interruptionOf?_none :
    interruptionOf? event = none ↔ (Stream.isCancelled event || (Stream.errorMessage? event).isSome) = false := by
  unfold interruptionOf?
  cases Stream.isCancelled event <;> simp

/-- Any other event adds its token. -/
theorem handleEvent_goesOn (streams : Streams s tokens) (opened : s.doneReceived = false)
    (goesOn : (Stream.isCancelled event || (Stream.errorMessage? event).isSome) = false) :
    ∃ s', s.handleEvent strOf userText selectedMode event = .goesOn s' ∧
      Streams s' (tokens ++ tokenOf event) ∧ s'.doneReceived = event.isTrue "done" := by
  obtain ⟨cancelled, failed⟩ := Bool.or_eq_false_iff.mp goesOn
  have none : Stream.errorMessage? event = none := by simpa using failed
  rw [Stream.handleEvent, if_neg (by simp [opened])]
  simp only [cancelled, none, Bool.false_eq_true, if_false]
  refine ⟨_, rfl, ?_⟩
  obtain ⟨one, streamed, received, started, content⟩ := (noted streams).takeToken
  cases last : event.isTrue "done" with
  | true => exact ⟨⟨one, streamed, received, started, content⟩, rfl⟩
  | false => exact ⟨⟨one, streamed, received, started, content⟩, takeToken_done.trans (noteStatus_done.trans opened)⟩

theorem handleEvents_follows (streams : Streams s tokens) (opened : s.doneReceived = false) :
    (s.handleEvents strOf userText selectedMode events).Follows (responseActions userText selectedMode) events
      (tokens ++ tokensOf events) (interruption? events) := by
  induction events generalizing s tokens with
  | nil => simpa [tokensOf, processed, Stream.handleEvents, interruption?, Stream.Next.Follows, opened] using streams
  | cons event rest ih =>
      rw [Stream.handleEvents, interruption?, tokensOf, processed]
      cases interrupts : interruptionOf? event with
      | some text =>
          obtain ⟨chat, returned, shows⟩ : ∃ chat, s.handleEvent strOf userText selectedMode event = .returned chat ∧ _ :=
            handleEvent_interrupted streams opened interrupts
          have ends : (Stream.isCancelled event || (Stream.errorMessage? event).isSome) = true := by
            by_contra goesOn
            cases interrupts.symm.trans (interruptionOf?_none.mpr (Bool.eq_false_iff.mpr goesOn))
          rw [returned]
          simpa [Stream.Next.Follows, ends] using shows
      | none =>
          have quiet := interruptionOf?_none.mp interrupts
          obtain ⟨s', goesOn, streams', done⟩ : ∃ s', s.handleEvent strOf userText selectedMode event = .goesOn s' ∧ _ :=
            handleEvent_goesOn streams opened quiet
          rw [goesOn]
          simp only [quiet, Bool.false_eq_true, if_false, List.map_cons, String.join_cons, ← String.append_assoc]
          cases last : event.isTrue "done" with
          | true =>
              rw [handleEvents_done (done.trans last)]
              simpa [Stream.Next.Follows, last, done] using streams'
          | false =>
              have later := ih streams' (done.trans last)
              simp only [Bool.false_eq_true, if_false]
              cases after : interruption? rest <;>
                cases next : s'.handleEvents strOf userText selectedMode rest <;>
                simp_all [Stream.Next.Follows, tokensOf]

theorem sendFull_calls {full : ClientM Dict} {chat : Chat} :
    .chatFull ∈ (sendFullBackendResponse userText selectedMode full chat).2.calls := by
  unfold sendFullBackendResponse
  split
  · simp
  · dsimp only
    split_ifs <;> simp [Chat.update]

theorem streamBackendResponse_shows {stream : ClientM Unit × List Dict} {full : ClientM Dict} {chat : Chat}
    (returned : streamBackendResponse strOf userText selectedMode status apiMode stream full = (.ok (), chat))
    (withoutFull : .chatFull ∉ chat.calls) :
    chat.Shows (responseActions userText selectedMode) (tokensOf stream.2) (shownText stream) := by
  have follows := @handleEvents_follows strOf userText selectedMode "" stream.2 _ (@streams_start status apiMode) rfl
  rw [String.empty_append] at follows
  unfold streamBackendResponse at returned
  unfold shownText
  cases interrupted : interruption? stream.2 with
  | some text =>
      cases next : Stream.handleEvents strOf userText selectedMode stream.2 (startStream status apiMode) with
      | goesOn s =>
          rw [interrupted, next] at follows
          exact follows.elim
      | returned last =>
          rw [interrupted, next] at follows
          rw [next] at returned
          obtain ⟨-, rfl⟩ := Prod.mk.inj returned
          exact follows
  | none =>
      cases next : Stream.handleEvents strOf userText selectedMode stream.2 (startStream status apiMode) with
      | returned last =>
          rw [interrupted, next] at follows
          exact follows.elim
      | goesOn s =>
          rw [interrupted, next] at follows
          rw [next] at returned
          obtain ⟨streams, done⟩ := follows
          cases ended : stream.1 with
          | error error =>
              rw [ended] at returned
              cases error with
              | client error =>
                  obtain ⟨-, rfl⟩ := Prod.mk.inj returned
                  exact streams.interrupted
              | other error => simp at returned
          | ok _ =>
              simp only [ended, streams.streamed] at returned
              split_ifs at returned with empty
              · have asked : .chatFull ∈ (sendFullBackendResponse userText selectedMode full s.chat).2.calls := sendFull_calls
                rw [returned] at asked
                exact absurd asked withoutFull
              · obtain ⟨-, rfl⟩ := Prod.mk.inj returned
                exact done ▸ streams.completed empty

theorem endedWith_begins : ∃ rest, endedWith tokens ending = tokens ++ rest := by
  unfold endedWith
  split_ifs with none
  · exact ⟨ending, by rw [none, String.empty_append]⟩
  · exact ⟨"\n\n" ++ ending, String.append_assoc ..⟩

/-- What is left begins with the tokens. -/
theorem shownText_begins (stream : ClientM Unit × List Dict) : ∃ rest, shownText stream = tokensOf stream.2 ++ rest := by
  unfold shownText
  split
  · exact endedWith_begins
  · split_ifs with none
    · exact ⟨_, by rw [none, String.empty_append]⟩
    · exact endedWith_begins
  · split_ifs
    · exact ⟨"", String.append_empty.symm⟩
    · exact endedWith_begins

/-- However the stream ends: unless the full response is asked for, one message is left on
    display, and it is the tokens in order with what has cut them short, if anything has.
    The response has been sent once, and the status removed once, if there was a token, and
    neither if there was none. -/
theorem streamed_tokens_shown_once (strOf : StrOf) (userText selectedMode status : String) (apiMode : Option String)
    (stream : ClientM Unit × List Dict) (full : ClientM Dict) (chat : Chat)
    (returned : streamBackendResponse strOf userText selectedMode status apiMode stream full = (.ok (), chat))
    (withoutFull : .chatFull ∉ chat.calls) :
    (chat.message (remaining (tokensOf stream.2))).displayed = some (shownText stream) ∧
      (∃ rest, shownText stream = tokensOf stream.2 ++ rest) ∧
      (∀ other, other ≠ remaining (tokensOf stream.2) → (chat.message other).displayed = none) ∧
      chat.calls.count (.send .response) = (if tokensOf stream.2 = "" then 0 else 1) ∧
      chat.calls.count (.remove .status) = if tokensOf stream.2 = "" then 0 else 1 := by
  obtain ⟨one, text, -⟩ := streamBackendResponse_shows returned withoutFull
  have slot : remaining (tokensOf stream.2) = .response ↔ tokensOf stream.2 ≠ "" := by
    unfold remaining
    split_ifs with empty <;> simp [empty]
  refine ⟨text, shownText_begins stream, fun other different => ?_, ?_, ?_⟩
  · have hidden := (one.displayed other).not.mpr different
    simpa using hidden
  · rw [one.sent]
    simp only [slot, ite_not]
  · rw [one.removed]
    simp only [slot, ite_not]

/-- A token and a `done` event. -/
def tokenStream : ClientM Unit × List Dict := (.ok (), [[("token", .str "Molo")], [("done", .bool true)]])

def tokenReply : ClientM Unit × Chat :=
  streamBackendResponse ⟨fun value => value.str?.getD "", fun _ => rfl⟩ "Hello" "auto" "Sending" none tokenStream
    (.error (.client (.stream "")))

theorem tokenReply_shown_once :
    (tokenReply.2.message .response).displayed = some "Molo" ∧ tokenReply.2.calls.count (.send .response) = 1 := by
  have returned : tokenReply = (.ok (), tokenReply.2) := rfl
  obtain ⟨text, -, -, sent, -⟩ := streamed_tokens_shown_once _ _ _ _ _ _ _ _ returned (by decide)
  have tokens : tokensOf tokenStream.2 = "Molo" := by decide
  have shown : shownText tokenStream = "Molo" := by decide
  rw [tokens, shown] at text
  rw [tokens] at sent
  exact ⟨text, sent⟩

end LanguageAgent.Webui
