import LanguageAgent.Agent.ReplyEnds
import LanguageAgent.Interleaving.Matching

/-! # Sessions share one conversation

Requests that run one after another on one service. The session a request names has no
influence on what it does: it is only echoed in the metadata of a full answer.
-/

namespace LanguageAgent.Agent

open Interleaving

/-! ## Sequences of requests -/

def Request.command : Request → ChatCommand
  | .full command => command
  | .stream command => command

def Request.sessionId (request : Request) : Option String :=
  request.command.metadata.bind RequestMetadata.sessionId

/-- A request, all it did and what its caller got. -/
structure Exchange where
  request : Request
  commands : List AgentCommand
  outcome : Except Raised Response

/-- The prompts built for a request. -/
def Exchange.prompts (exchange : Exchange) : List Prompt :=
  exchange.commands.filterMap fun command =>
    match command with
    | .suspend (.askLlm prompt) => some prompt
    | .suspend (.streamLlm prompt) => some prompt
    | _ => none

/-- What the callers of one session have of a sequence of exchanges. -/
def observed (session : String) (exchanges : List Exchange) : List Exchange :=
  exchanges.filter fun exchange => exchange.request.sessionId = some session

/-- The requests run to their end, one after another. -/
inductive Served (agent : AgentService) : AgentWorld Unit → List Request → List Exchange → AgentWorld Unit → Prop where
  | nil {world} : Served agent world [] [] world
  | cons {world request ending rest exchanges final}
      (runs : (serve agent request).alone (agentMachine Unit) () {} world = some ending)
      (others : Served agent ending.world rest exchanges final) :
      Served agent world (request :: rest) (⟨request, ending.commands, ending.value.1⟩ :: exchanges) final

/-! ## What a request does -/

/-- The same but for the metadata. -/
def SameButMetadata : Request → Request → Prop
  | .full command, .full other => ∃ metadata, other = { command with metadata := metadata }
  | .stream command, .stream other => ∃ metadata, other = { command with metadata := metadata }
  | _, _ => False

/-- A mode that does not exist is refused. -/
def Refused (request : Request) : Prop := ∃ mode, request.command.mode = some mode ∧ Mode.ofText? mode = none

variable {agent : AgentService} {world : AgentWorld Unit}

/-- A full answer under other metadata is built from the same prompts. -/
theorem chatFull_metadata {command : ChatCommand} {metadata : Option RequestMetadata} :
    (chatFull agent command).Matches (fun _ _ => True) (chatFull agent { command with metadata := metadata }) := by
  apply Routine.Matches.tryCatch
  · apply Routine.Matches.after load
    intro service
    apply Routine.Matches.after (resolveIntent agent.pydantic command _)
    intro intent
    apply Routine.Matches.after (switchMode intent)
    intro mode
    cases asks : intent.asksBack with
    | true =>
        simp only [if_true]
        exact Routine.Matches.after (addTurn command.message _ : AgentM Unit) fun _ => .pure trivial
    | false =>
        simp only [Bool.false_eq_true, if_false]
        cases found : agent.handlers mode with
        | none => exact Routine.Matches.after (addTurn command.message _ : AgentM Unit) fun _ => .pure trivial
        | some handler =>
            apply Routine.Matches.after (handler.updateSessionState command.message _ : AgentM Unit)
            intro _
            apply Routine.Matches.after (handler.handle command.message _ : AgentM ModeResponse)
            intro answer
            exact Routine.Matches.after (addTurn command.message _ : AgentM Unit) fun _ => .pure trivial
  · exact fun error => .refl (fun _ => trivial) _

/-- The metadata of a request has no influence on what is done for it. -/
theorem serve_metadata {request other : Request} (same : SameButMetadata request other) :
    (serve agent request).Matches (fun _ _ => True) (serve agent other) := by
  cases request with
  | full command =>
      cases other with
      | stream other => exact same.elim
      | full other =>
          obtain ⟨metadata, rfl⟩ := same
          apply Routine.Matches.after (suspended .start : AgentM Unit)
          intro _
          exact chatFull_metadata.bind fun _ _ _ => .pure trivial
  | stream command =>
      cases other with
      | full other => exact same.elim
      | stream other =>
          obtain ⟨metadata, rfl⟩ := same
          exact .refl (fun _ => trivial) _

/-- A mode that does not exist is not resolved. -/
theorem resolveIntent_unknown {command : ChatCommand} {mode : String} (asked : command.mode = some mode)
    (unknown : Mode.ofText? mode = none) (history : String) :
    resolveIntent agent.pydantic command history = throw (.exception unknownMode) := by
  simp [resolveIntent, asked, unknown]

/-- A request for a mode that does not exist leaves no trace in the conversation. -/
theorem serve_refused {request : Request} (refused : Refused request)
    {ending : Ending agentSignature (AgentWorld Unit) (Except Raised Response × StreamLocals)}
    (runs : (serve agent request).alone (agentMachine Unit) () {} world = some ending) :
    ending.world = world := by
  obtain ⟨mode, asked, unknown⟩ := refused
  cases request with
  | full command =>
      have refuses := @resolveIntent_unknown agent _ _ asked unknown
      simp only [Request.command] at refuses
      simp only [serve, chatFull, refuses] at runs
      obtain rfl := Option.some.inj runs
      rfl
  | stream command =>
      have refuses := @resolveIntent_unknown agent _ _ asked unknown
      simp only [Request.command] at refuses
      simp only [serve, chatStream, refuses] at runs
      obtain rfl := Option.some.inj runs
      rfl

/-! ## Sequences that a session cannot tell apart -/

/-- Both sequences have the same requests of the session in the same order. Until the last
    of them the other requests differ only in their metadata, or are refused. -/
inductive Alike (session : String) : List Request → List Request → Prop where
  | rest {requests others} (unseen : ∀ request ∈ requests, request.sessionId ≠ some session)
      (unseen' : ∀ request ∈ others, request.sessionId ≠ some session) : Alike session requests others
  | same (request) {requests others} (alike : Alike session requests others) :
      Alike session (request :: requests) (request :: others)
  | relabelled {request other requests others} (foreign : request.sessionId ≠ some session)
      (foreign' : other.sessionId ≠ some session) (same : SameButMetadata request other)
      (alike : Alike session requests others) : Alike session (request :: requests) (other :: others)
  | refusedLeft {request requests others} (foreign : request.sessionId ≠ some session)
      (refused : Refused request) (alike : Alike session requests others) :
      Alike session (request :: requests) others
  | refusedRight {other requests others} (foreign : other.sessionId ≠ some session)
      (refused : Refused other) (alike : Alike session requests others) :
      Alike session requests (other :: others)

theorem Served.unobserved {session : String} {requests : List Request} {exchanges : List Exchange}
    {final : AgentWorld Unit} (served : Served agent world requests exchanges final)
    (unseen : ∀ request ∈ requests, request.sessionId ≠ some session) : observed session exchanges = [] := by
  induction served with
  | nil => rfl
  | @cons _ request _ _ _ _ _ _ ih =>
      have foreign := unseen request List.mem_cons_self
      have later := ih fun request member => unseen request (List.mem_cons_of_mem _ member)
      simpa [observed, foreign] using later

/-- In sequences that differ for others only in metadata and in refused requests, every
    request of the session does the same and gets the same. -/
theorem session_undisturbed {session : String} {requests others : List Request}
    (alike : Alike session requests others) {exchanges exchanges' : List Exchange}
    {final final' : AgentWorld Unit} (served : Served agent world requests exchanges final)
    (served' : Served agent world others exchanges' final') :
    observed session exchanges = observed session exchanges' := by
  induction alike generalizing world exchanges exchanges' with
  | rest unseen unseen' => rw [served.unobserved unseen, served'.unobserved unseen']
  | same request _ ih =>
      cases served with
      | cons runs rest =>
        cases served' with
        | cons runs' rest' =>
          obtain rfl := Option.some.inj (runs.symm.trans runs')
          have later := ih rest rest'
          simp only [observed, List.filter_cons] at later ⊢
          split <;> simp [later]
  | relabelled foreign foreign' same _ ih =>
      cases served with
      | cons runs rest =>
        cases served' with
        | cons runs' rest' =>
          obtain ⟨value, -, matched⟩ := (serve_metadata same {}).alone runs
          obtain rfl := Option.some.inj (runs'.symm.trans matched)
          have later := ih rest rest'
          simpa [observed, foreign, foreign'] using later
  | refusedLeft foreign refused _ ih =>
      cases served with
      | cons runs rest =>
          rw [serve_refused refused runs] at rest
          have later := ih rest served'
          simpa [observed, foreign] using later
  | refusedRight foreign refused _ ih =>
      cases served' with
      | cons runs' rest' =>
          rw [serve_refused refused runs'] at rest'
          have later := ih served rest'
          simpa [observed, foreign] using later

/-! ## A lesson in two sessions -/

/-- A request of a session, answered by the teacher. -/
def lesson (session message : String) : Request :=
  .full { message := message, mode := "learning", metadata := some { sessionId := session } }

theorem session_undisturbed_demo :
    ∃ exchanges exchanges' final final',
      Served demoAgent (demoWorld Unit) [lesson "b" "hello", lesson "a" "hi"] exchanges final ∧
      Served demoAgent (demoWorld Unit) [lesson "c" "hello", lesson "a" "hi"] exchanges' final' ∧
      observed "a" exchanges = observed "a" exchanges' := by
  have alike : Alike "a" [lesson "b" "hello", lesson "a" "hi"] [lesson "c" "hello", lesson "a" "hi"] :=
    .relabelled (by decide) (by decide) ⟨_, rfl⟩ (.same _ (.rest (by simp) (by simp)))
  have served : Served demoAgent (demoWorld Unit) [lesson "b" "hello", lesson "a" "hi"] _ _ :=
    .cons rfl (.cons rfl .nil)
  have served' : Served demoAgent (demoWorld Unit) [lesson "c" "hello", lesson "a" "hi"] _ _ :=
    .cons rfl (.cons rfl .nil)
  exact ⟨_, _, _, _, served, served', session_undisturbed alike served served'⟩

/-- A turn of another session is part of the history in the prompts of the next one. -/
theorem session_reads_other_session :
    ∃ exchanges exchanges' final final',
      Served demoAgent (demoWorld Unit) [lesson "b" "hello", lesson "a" "hi"] exchanges final ∧
      Served demoAgent (demoWorld Unit) [lesson "a" "hi"] exchanges' final' ∧
      (observed "a" exchanges).map Exchange.request = (observed "a" exchanges').map Exchange.request ∧
      (observed "a" exchanges).map Exchange.prompts ≠ (observed "a" exchanges').map Exchange.prompts := by
  refine ⟨_, _, _, _, .cons rfl (.cons rfl .nil), .cons rfl .nil, ?_, ?_⟩
  · simp [observed, lesson, Request.sessionId, Request.command]
  · intro same
    have first : some (Prompt.stateUpdateTask "hi"
          (ConversationMemory.formatForPrompt { turns := [⟨"hello", "bonjour"⟩] }) (.learning {})) =
        some (.stateUpdateTask "hi" (ConversationMemory.formatForPrompt {}) (.learning {})) := by
      simp [observed, lesson, Request.sessionId, Request.command] at same
      exact congrArg List.head? same
    injection first with first
    injection first with _ history
    revert history
    decide

end LanguageAgent.Agent
