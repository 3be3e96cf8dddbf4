import LanguageAgent.Domain.Json

/-! # The reply to a streaming request

The loop of `_stream_handler_response` over what a mode handler streams: every item is
forwarded with the mode, and its token is added to the reply, up to a `done` event.
-/

namespace LanguageAgent.Agent

/-- A handler streams bare tokens or events of the queue. -/
inductive StreamItem where
  | text (token : String)
  | event (fields : Dict)

def StreamItem.toEvent : StreamItem → Dict
  | .text token => [("token", .str token)]
  | .event fields => fields

structure HandlerStream where
  activeJobId : Option String := none
  assistantReply : String := ""
  doneSent : Bool := false
  /-- The payloads forwarded so far. -/
  payloads : List Dict := []

/-- One turn of the loop. -/
def HandlerStream.receive (mode : String) (s : HandlerStream) (item : StreamItem) : HandlerStream where
  activeJobId := (item.toEvent.str? "job_id").or s.activeJobId
  assistantReply := s.assistantReply ++ tokenOf item.toEvent
  doneSent := item.toEvent.isTrue "done"
  payloads := s.payloads ++ [Dict.update [("mode", .str mode)] item.toEvent]

/-- `break` at an event that says `done`. -/
def drainHandler (mode : String) (s : HandlerStream) : List StreamItem → HandlerStream
  | [] => s
  | item :: rest =>
      let s := s.receive mode item
      if s.doneSent then s else drainHandler mode s rest

/-- The tokens of some events, one after the other. -/
def joinTokens (events : List Dict) : String := String.join (events.map tokenOf)

theorem joinTokens_cons {event : Dict} {rest : List Dict} :
    joinTokens (event :: rest) = tokenOf event ++ joinTokens rest := by
  simp only [joinTokens, List.map_cons, String.join_cons]

theorem joinTokens_append {events more : List Dict} :
    joinTokens (events ++ more) = joinTokens events ++ joinTokens more := by
  simp only [joinTokens, List.map_append, String.join_append]

/-- Events of which only the last says `done` are all taken into the reply. -/
theorem drainHandler_reply {mode : String} {s : HandlerStream} {before : List Dict} {final : Dict}
    (going : ∀ event ∈ before, event.isTrue "done" = false) :
    (drainHandler mode s ((before ++ [final]).map .event)).assistantReply =
      s.assistantReply ++ joinTokens (before ++ [final]) := by
  induction before generalizing s with
  | nil =>
      simp only [List.nil_append, List.map_cons, List.map_nil, drainHandler, ite_self]
      simp [HandlerStream.receive, StreamItem.toEvent, joinTokens]
  | cons event rest ih =>
      have goes := going event List.mem_cons_self
      rw [List.cons_append, joinTokens_cons]
      simp only [List.map_cons, drainHandler, HandlerStream.receive, StreamItem.toEvent, goes,
        Bool.false_eq_true, if_false]
      rw [ih fun other member => going other (List.mem_cons_of_mem _ member), String.append_assoc]

end LanguageAgent.Agent
