import LanguageAgent.Agent.AgentService
import LanguageAgent.Interleaving.Protocol

/-! # What a request may do next

The phases of a request by what its labels depend on: before its intent is applied, with
a mode it has taken note of, and while it reads the shared active mode for each event.
-/

namespace LanguageAgent.Agent

open Interleaving

/-- The event has no `mode`, or this one. -/
def Carries (mode : Mode) (event : Dict) : Prop :=
  ∀ label, event.get? "mode" = some label → label = .str mode.text

inductive AgentPhase where
  | unresolved
  | applied
  | chosen (mode : Mode)
  /-- The handler of this mode answers in full. -/
  | full (mode : Mode)
  /-- The generator has been given this mode. -/
  | captured (mode : Mode)
  /-- The handler of this mode is going to stream. -/
  | choosing (mode : Mode)
  /-- It streams; the active mode may just have been read. -/
  | streaming (mode : Mode) (seen : Option Mode)
  | closed

/-- Commands that neither label anything nor switch the mode. -/
def AgentCommand.isNeutral : AgentCommand → Bool
  | .load => true
  | .setModeState _ => true
  | .addTurn _ _ => true
  | .suspend (.emit _) => false
  | .suspend _ => true
  | .resume _ => true
  | _ => false

/-- The moves of a request; only a `chat_stream` request comes to stream. -/
inductive AgentMoves (streams : Bool) : Protocol agentSignature AgentPhase where
  | unresolved {command reply} (neutral : AgentCommand.isNeutral command = true) :
      AgentMoves streams .unresolved command reply .unresolved
  | applies {intent reply} : AgentMoves streams .unresolved (.applyIntent intent) reply .applied
  | reads {service} : AgentMoves streams .applied .load service (.chosen service.sessionState.activeMode)
  | toFull {mode reply} : AgentMoves streams (.chosen mode) (.logActiveMode mode) reply (.full mode)
  | toCaptured {mode reply} : AgentMoves streams (.chosen mode) (.logActiveMode mode) reply (.captured mode)
  | toChoosing {mode reply} (isStream : streams = true) :
      AgentMoves streams (.chosen mode) (.logActiveMode mode) reply (.choosing mode)
  | full {mode command reply} (neutral : AgentCommand.isNeutral command = true) :
      AgentMoves streams (.full mode) command reply (.full mode)
  | captured {mode command reply} (neutral : AgentCommand.isNeutral command = true) :
      AgentMoves streams (.captured mode) command reply (.captured mode)
  | sendsCaptured {mode event reply} (label : Carries mode event) :
      AgentMoves streams (.captured mode) (.suspend (.emit event)) reply (.captured mode)
  | choosing {mode service} : AgentMoves streams (.choosing mode) .load service (.choosing mode)
  | asks {mode userInput history modeState reply} :
      AgentMoves streams (.choosing mode) (.suspend (.askLlm (.stateUpdateTask userInput history modeState)))
        reply (.streaming mode none)
  | looks {mode seen service} :
      AgentMoves streams (.streaming mode seen) .load service (.streaming mode (some service.sessionState.activeMode))
  | streaming {mode seen command reply} (neutral : AgentCommand.isNeutral command = true) :
      AgentMoves streams (.streaming mode seen) command reply (.streaming mode none)
  | sendsSeen {mode seen event reply} (label : Carries seen event) :
      AgentMoves streams (.streaming mode (some seen)) (.suspend (.emit event)) reply (.streaming mode none)
  | sendsOwn {mode seen event reply} (label : Carries mode event) :
      AgentMoves streams (.streaming mode seen) (.suspend (.emit event)) reply (.streaming mode none)
  | answers {result : ChatResult} {reply} :
      AgentMoves streams (.full result.mode) (.respond (.full result)) reply .closed
  | failsEarly {error reply} : AgentMoves streams .unresolved (.respond (.failed error)) reply .closed
  | failsFull {mode error reply} : AgentMoves streams (.full mode) (.respond (.failed error)) reply .closed
  | failsCaptured {mode error reply} : AgentMoves streams (.captured mode) (.respond (.failed error)) reply .closed
  | failsStreaming {mode seen error reply} :
      AgentMoves streams (.streaming mode seen) (.respond (.failed error)) reply .closed
  | endsCaptured {mode reply} : AgentMoves streams (.captured mode) (.respond .streamed) reply .closed
  | endsStreaming {mode seen reply} : AgentMoves streams (.streaming mode seen) (.respond .streamed) reply .closed

def Request.isStream : Request → Bool
  | .full _ => false
  | .stream _ => true

section Conformance

variable {streams : Bool} {locals : StreamLocals} {phase : AgentPhase}

/-- Neutral commands lead from such phases to such phases. -/
def Idles (streams : Bool) (phases : AgentPhase → Prop) : Prop :=
  ∀ phase, phases phase → ∀ command reply, AgentCommand.isNeutral command = true →
    ∃ after, AgentMoves streams phase command reply after ∧ phases after

theorem unresolved_idles : Idles streams (· = .unresolved) := by
  rintro phase rfl command reply neutral
  exact ⟨_, .unresolved neutral, rfl⟩

theorem full_idles {mode : Mode} : Idles streams (· = .full mode) := by
  rintro phase rfl command reply neutral
  exact ⟨_, .full neutral, rfl⟩

theorem captured_idles {mode : Mode} : Idles streams (· = .captured mode) := by
  rintro phase rfl command reply neutral
  exact ⟨_, .captured neutral, rfl⟩

/-- The handler of the mode streams. -/
def Streams (mode : Mode) (phase : AgentPhase) : Prop := ∃ seen, phase = .streaming mode seen

theorem streaming_idles {mode : Mode} : Idles streams (Streams mode) := by
  rintro phase ⟨seen, rfl⟩ command reply neutral
  exact ⟨_, .streaming neutral, none, rfl⟩

/-- The routine keeps to the phases, however it ends. -/
def KeepsTo {α : Type} (streams : Bool) (phases : AgentPhase → Prop) (m : AgentM α) : Prop :=
  ∀ locals phase, phases phase → m.Obeys (AgentMoves streams) (fun _ _ after => phases after) locals phase

section KeepsTo

variable {α β : Type} {phases : AgentPhase → Prop}

theorem KeepsTo.bind {m : AgentM α} {f : α → AgentM β} (first : KeepsTo streams phases m)
    (rest : ∀ a, KeepsTo streams phases (f a)) : KeepsTo streams phases (m >>= f) := by
  intro locals phase within
  rw [Routine.obeys_bind]
  apply (first locals phase within).mono
  intro out locals after within
  cases out with
  | ok a => exact rest a locals after within
  | error error => exact within

theorem keepsTo_pure {a : α} : KeepsTo streams phases (pure a : AgentM α) := fun _ _ within => within

theorem keepsTo_throw {error : Raised} : KeepsTo streams phases (throw error : AgentM α) :=
  fun _ _ within => within

theorem keepsTo_get : KeepsTo streams phases Routine.get := fun _ _ within => within

theorem keepsTo_modify {f : StreamLocals → StreamLocals} : KeepsTo streams phases (Routine.modify f) :=
  fun _ _ within => within

theorem keepsTo_ite {c : Prop} [Decidable c] {m n : AgentM α} (yes : c → KeepsTo streams phases m)
    (no : ¬ c → KeepsTo streams phases n) : KeepsTo streams phases (if c then m else n) := by
  split
  · exact yes ‹_›
  · exact no ‹_›

variable (idles : Idles streams phases)
include idles

theorem Idles.issue {command : AgentCommand} (neutral : command.isNeutral = true) :
    KeepsTo streams phases (Routine.issue (S := agentSignature) command) := by
  intro locals phase within
  exact fun reply => idles phase within command reply neutral

theorem Idles.load : KeepsTo streams phases load := idles.issue rfl

theorem Idles.addTurn {userInput assistantReply : String} :
    KeepsTo streams phases (addTurn userInput assistantReply) := idles.issue rfl

theorem Idles.suspended {suspension : Suspension} (silent : (AgentCommand.suspend suspension).isNeutral = true) :
    KeepsTo streams phases (suspended suspension) :=
  (idles.issue silent).bind fun _ => idles.issue rfl

theorem Idles.askLlm {prompt : Prompt} : KeepsTo streams phases (askLlm prompt) := by
  refine (idles.suspended rfl).bind fun reply => ?_
  cases reply with
  | ok response => exact keepsTo_pure
  | error error => exact keepsTo_throw

omit idles in
theorem keepsTo_constructed {made : Except Queue.PyError α} : KeepsTo streams phases (constructed made) := by
  cases made with
  | ok value => exact keepsTo_pure
  | error error => exact keepsTo_throw

theorem Idles.classify {pydantic : Pydantic} {userInput history : String} :
    KeepsTo streams phases (classify pydantic userInput history) :=
  idles.load.bind fun _ => idles.askLlm.bind fun _ => keepsTo_constructed

theorem Idles.resolveIntent {pydantic : Pydantic} {request : ChatCommand} {history : String} :
    KeepsTo streams phases (resolveIntent pydantic request history) := by
  unfold Agent.resolveIntent
  split
  · split
    · exact keepsTo_pure
    · exact keepsTo_throw
  · exact idles.classify

variable {handler : ModeHandler} {userInput history : String}

theorem Idles.updateSessionState : KeepsTo streams phases (handler.updateSessionState userInput history) :=
  idles.load.bind fun _ => idles.askLlm.bind fun _ => keepsTo_constructed.bind fun _ => idles.issue rfl

theorem Idles.stream : KeepsTo streams phases (handler.stream userInput history) :=
  idles.load.bind fun _ => idles.suspended rfl

theorem Idles.cancelActiveJob : KeepsTo streams phases cancelActiveJob := by
  refine keepsTo_get.bind fun locals => ?_
  cases locals.activeJobId with
  | none => exact keepsTo_pure
  | some jobId =>
      apply keepsTo_ite
      · intro _
        refine (idles.suspended rfl).bind fun reply => ?_
        split
        · exact keepsTo_throw
        · exact keepsTo_pure
      · exact fun _ => keepsTo_pure

/-- An answer is of the mode of its handler. -/
theorem Idles.handle {locals : StreamLocals} {phase : AgentPhase} (within : phases phase) :
    (handler.handle userInput history).Obeys (AgentMoves streams)
      (fun out _ after => phases after ∧ ∀ answer, out = .ok answer → answer.mode = handler.mode) locals phase := by
  rw [ModeHandler.handle, Routine.obeys_bind]
  apply (idles.load locals phase within).mono
  intro out locals after within
  cases out with
  | error error => exact ⟨within, by rintro _ ⟨⟩⟩
  | ok service =>
      simp only [Routine.resume_ok, Routine.obeys_bind]
      apply (idles.askLlm locals after within).mono
      intro out locals after within
      cases out with
      | error error => exact ⟨within, by rintro _ ⟨⟩⟩
      | ok response =>
          simp only [Routine.resume_ok]
          cases made : handler.newResponse response with
          | error error => exact ⟨within, by rintro _ ⟨⟩⟩
          | ok answer =>
              refine ⟨within, ?_⟩
              rintro _ ⟨⟩
              exact handler.ofMode response answer made

end KeepsTo

/-! ## Full answers -/

/-- The mode that is active once the intent has been applied. -/
theorem switchMode_obeys {intent : IntentResult} {post : Except Raised Mode → StreamLocals → AgentPhase → Prop}
    (kind : Mode → AgentPhase)
    (logged : ∀ mode, AgentMoves streams (.chosen mode) (.logActiveMode mode) () (kind mode))
    (next : ∀ mode, post (.ok mode) locals (kind mode)) :
    (switchMode intent).Obeys (AgentMoves streams) post locals .unresolved := by
  rw [switchMode]
  simp only [load, Routine.obeys_bind]
  intro _
  refine ⟨_, .applies, fun service => ⟨_, .reads, fun _ => ⟨_, logged _, next _⟩⟩⟩

theorem orServiceError_obeys {α : Type} {message : String} {attempt : AgentM α}
    {post : Except Raised α → StreamLocals → AgentPhase → Prop}
    (fails : ∀ error locals after, post (.error error) locals after → ∀ other, post (.error other) locals after)
    (obeys : attempt.Obeys (AgentMoves streams) post locals phase) :
    (orServiceError message attempt).Obeys (AgentMoves streams) post locals phase := by
  rw [orServiceError, Routine.obeys_tryCatch]
  apply obeys.mono
  intro out locals after held
  cases out with
  | ok a => exact held
  | error error => cases error <;> exact fails _ _ _ held _

/-- A full answer is labelled with the mode taken note of. -/
def FullAnswer (out : Except Raised ChatResult) (after : AgentPhase) : Prop :=
  match out with
  | .ok result => after = .full result.mode
  | .error _ => after = .unresolved ∨ ∃ mode, after = .full mode

theorem chatFull_obeys {pydantic : Pydantic} {request : ChatCommand} :
    (chatFull (.ofPydantic pydantic) request).Obeys (AgentMoves streams) (fun out _ after => FullAnswer out after)
      locals .unresolved := by
  apply orServiceError_obeys (fun _ _ _ held _ => held)
  rw [Routine.obeys_bind]
  apply (unresolved_idles.load locals _ rfl).mono
  rintro out locals _ rfl
  cases out with
  | error error => exact .inl rfl
  | ok service =>
      simp only [Routine.resume_ok, Routine.obeys_bind]
      apply (unresolved_idles.resolveIntent locals _ rfl).mono
      rintro out locals _ rfl
      cases out with
      | error error => exact .inl rfl
      | ok intent =>
          simp only [Routine.resume_ok, Routine.obeys_bind]
          refine switchMode_obeys .full (fun _ => .toFull) fun mode => ?_
          simp only [Routine.resume_ok]
          have turned : ∀ {locals userInput reply} {result : ChatResult}, result.mode = mode →
              (do addTurn userInput reply; pure result : AgentM ChatResult).Obeys (AgentMoves streams)
                (fun out _ after => FullAnswer out after) locals (.full mode) := by
            rintro locals userInput reply result rfl
            rw [Routine.obeys_bind]
            apply (full_idles.addTurn locals _ rfl).mono
            rintro out locals _ rfl
            cases out with
            | ok _ => rfl
            | error error => exact .inr ⟨_, rfl⟩
          rw [Routine.obeys_ite]
          refine ⟨fun _ => turned rfl, fun _ => ?_⟩
          cases found : (AgentService.ofPydantic pydantic).handlers mode with
          | none => exact turned (AgentService.ofPydantic_none.mp found).symm
          | some handler =>
              have own := (AgentService.ofPydantic pydantic).wired mode handler found
              simp only [Routine.obeys_bind]
              apply (full_idles.updateSessionState locals _ rfl).mono
              rintro out locals _ rfl
              cases out with
              | error error => exact .inr ⟨_, rfl⟩
              | ok _ =>
                  simp only [Routine.resume_ok, Routine.obeys_bind]
                  apply (@full_idles streams mode |>.handle rfl).mono
                  rintro out locals _ ⟨rfl, ofHandler⟩
                  cases out with
                  | error error => exact .inr ⟨_, rfl⟩
                  | ok answer => exact turned ((ofHandler answer rfl).trans own)

/-! ## Streams -/

section Streaming

variable {mode : Mode}

theorem askLlm_streams {userInput history : String} {modeState : ModeState} :
    (askLlm (.stateUpdateTask userInput history modeState)).Obeys (AgentMoves streams)
      (fun _ _ after => Streams mode after) locals (.choosing mode) := by
  rw [askLlm, Routine.obeys_bind, suspended, Routine.obeys_bind]
  intro _
  refine ⟨_, .asks, fun reply => ⟨_, .streaming rfl, ?_⟩⟩
  cases reply <;> exact ⟨none, rfl⟩

theorem updateSessionState_streams {handler : ModeHandler} {userInput history : String} :
    (handler.updateSessionState userInput history).Obeys (AgentMoves streams)
      (fun _ _ after => Streams mode after) locals (.choosing mode) := by
  rw [ModeHandler.updateSessionState, Routine.obeys_bind]
  refine fun service => ⟨_, .choosing, ?_⟩
  simp only [Program.obeys_done, Routine.resume_ok, Routine.obeys_bind]
  apply askLlm_streams.mono
  intro out locals after within
  cases out with
  | error error => exact within
  | ok response =>
      have rest : KeepsTo streams (Streams mode) (do
          let state ← constructed (handler.newModeState response)
          Routine.issue (S := agentSignature) (.setModeState state)) :=
        keepsTo_constructed.bind fun _ => streaming_idles.issue rfl
      exact rest locals after within

/-- Each event is labelled with the mode that was active just before. -/
theorem load_streams {α : Type} {f : Service → AgentM α}
    (labels : ∀ service, (f service).Obeys (AgentMoves streams) (fun _ _ after => Streams mode after) locals
      (.streaming mode (some service.sessionState.activeMode)))
    (within : Streams mode phase) :
    (load >>= f).Obeys (AgentMoves streams) (fun _ _ after => Streams mode after) locals phase := by
  obtain ⟨seen, rfl⟩ := within
  rw [Routine.obeys_bind]
  exact fun service => ⟨_, .looks, labels service⟩

theorem emit_seen {seen : Mode} {event : Dict} (label : Carries seen event) :
    (emit event).Obeys (AgentMoves streams) (fun _ _ after => Streams mode after) locals
      (.streaming mode (some seen)) := by
  rw [emit, suspended, Routine.obeys_bind]
  exact fun _ => ⟨_, .sendsSeen label, fun _ => ⟨_, .streaming rfl, none, rfl⟩⟩

theorem emit_own {event : Dict} (label : Carries mode event) :
    KeepsTo streams (Streams mode) (emit event) := by
  rintro locals phase ⟨seen, rfl⟩
  rw [emit, suspended, Routine.obeys_bind]
  exact fun _ => ⟨_, .sendsOwn label, fun _ => ⟨_, .streaming rfl, none, rfl⟩⟩

theorem carries_unlabelled {event : Dict} (unlabelled : event.get? "mode" = none) : Carries mode event := by
  intro label found
  cases unlabelled.symm.trans found

theorem carries_first {rest : Dict} : Carries mode (("mode", .str mode.text) :: rest) := by
  intro label found
  exact (Option.some.inj found).symm

theorem sseData_carries {event : HandlerEvent} {payload : Dict}
    (encoded : sseData (labelled mode event) = .ok payload) : Carries mode payload := by
  have found := sseData_lookup encoded "mode"
  intro label carried
  rw [carried] at found
  exact (Value.json.inj (Option.some.inj found)).symm

theorem forwardItems_streams (items : List HandlerItem) (ending : Option Raised) :
    KeepsTo streams (Streams mode) (forwardItems items ending) := by
  induction items with
  | nil =>
      cases ending with
      | none => exact keepsTo_pure
      | some error => exact keepsTo_throw
  | cons item rest ih =>
      have goesOn : KeepsTo streams (Streams mode) (do
          if item.toEvent.isTrue "done" then Routine.modify ({ · with doneSent := true })
          else
            suspended .nextItem
            forwardItems rest ending) :=
        keepsTo_ite (fun _ => keepsTo_modify) fun _ => (streaming_idles.suspended rfl).bind fun _ => ih
      refine keepsTo_modify.bind fun _ => fun locals phase within => load_streams (fun service => ?_) within
      cases encoded : sseData (labelled service.sessionState.activeMode item.toEvent) with
      | error error => exact ⟨_, rfl⟩
      | ok payload =>
          change Routine.Obeys _ (emit payload >>= _) _ _ _
          rw [Routine.obeys_bind]
          apply (emit_seen (sseData_carries encoded)).mono
          intro out locals after within
          cases out with
          | error error => exact within
          | ok _ => exact goesOn locals after within

theorem finishReply_streams {message : String} : KeepsTo streams (Streams mode) (finishReply message) := by
  have last : KeepsTo streams (Streams mode) (do
      let service ← load
      emit (doneEvent service.sessionState.activeMode)) :=
    fun locals phase within => load_streams (fun service => emit_seen carries_first) within
  refine keepsTo_get.bind fun locals => ?_
  have closes : KeepsTo streams (Streams mode) (do
      if !locals.doneSent then
        let service ← load
        emit (doneEvent service.sessionState.activeMode)) :=
    keepsTo_ite (fun _ => last) fun _ => keepsTo_pure
  exact keepsTo_ite (fun _ => streaming_idles.addTurn.bind fun _ => closes) fun _ => closes

theorem answerEvents_streams {handler : ModeHandler} (own : handler.mode = mode) {request : ChatCommand}
    {history : String} : KeepsTo streams (Streams mode) (answerEvents handler request history) := by
  apply keepsTo_ite
  · intro _ locals phase within
    rw [Routine.obeys_bind]
    apply (@streaming_idles streams mode |>.handle within).mono
    rintro out locals after ⟨within, ofHandler⟩
    cases out with
    | error error => exact within
    | ok answer =>
        obtain rfl : answer.mode = mode := (ofHandler answer rfl).trans own
        have sends : KeepsTo streams (Streams answer.mode) (streamModeResponse request.message answer) :=
          streaming_idles.addTurn.bind fun _ => (emit_own carries_first).bind fun _ => emit_own carries_first
        exact sends locals after within
  · exact fun _ => streaming_idles.stream.bind fun outcome =>
      (forwardItems_streams outcome.items outcome.ending).bind fun _ => finishReply_streams

theorem streamHandlerResponse_streams {handler : ModeHandler} (own : handler.mode = mode)
    {request : ChatCommand} {history : String} :
    KeepsTo streams (Streams mode) (streamHandlerResponse handler request history) := by
  intro locals phase within
  rw [streamHandlerResponse, Routine.obeys_tryCatch]
  apply (answerEvents_streams own locals phase within).mono
  intro out locals after within
  have failed : Carries mode streamFailedEvent := carries_unlabelled rfl
  cases out with
  | ok _ => exact within
  | error error =>
      cases error with
      | cancelled => exact streaming_idles.cancelActiveJob.bind (fun _ => keepsTo_throw) locals after within
      | _ => exact emit_own failed locals after within

theorem streamStaticResponse_captured {message response : String} :
    KeepsTo streams (· = .captured mode) (streamStaticResponse message mode response) := by
  have sends : ∀ event, Carries mode event → KeepsTo streams (· = .captured mode) (emit event) := by
    rintro event label locals phase rfl
    rw [emit, suspended, Routine.obeys_bind]
    exact fun _ => ⟨_, .sendsCaptured label, fun _ => ⟨_, .captured rfl, rfl⟩⟩
  exact captured_idles.addTurn.bind fun _ => (sends _ carries_first).bind fun _ => sends _ carries_first

end Streaming

/-- The generator has its label, or will read it from the active mode. -/
def Generator (out : Except Raised (AgentM Unit)) (after : AgentPhase) : Prop :=
  match out with
  | .ok generator => ∃ mode, (after = .captured mode ∧ KeepsTo true (· = .captured mode) generator) ∨
      (Streams mode after ∧ KeepsTo true (Streams mode) generator)
  | .error _ => after = .unresolved ∨ ∃ mode, Streams mode after

theorem chatStream_obeys {pydantic : Pydantic} {request : ChatCommand} :
    (chatStream (.ofPydantic pydantic) request).Obeys (AgentMoves true) (fun out _ after => Generator out after)
      locals .unresolved := by
  apply orServiceError_obeys (fun _ _ _ held _ => held)
  rw [Routine.obeys_bind]
  apply (unresolved_idles.load locals _ rfl).mono
  rintro out locals _ rfl
  cases out with
  | error error => exact .inl rfl
  | ok service =>
      simp only [Routine.resume_ok, Routine.obeys_bind]
      apply (unresolved_idles.resolveIntent locals _ rfl).mono
      rintro out locals _ rfl
      cases out with
      | error error => exact .inl rfl
      | ok intent =>
          simp only [Routine.resume_ok, Routine.obeys_bind]
          -- which of the three exits is taken is settled when the mode is noted
          refine switchMode_obeys
            (fun mode => if intent.asksBack || mode = .general then .captured mode else .choosing mode)
            (fun mode => ?_) fun mode => ?_
          · split
            · exact .toCaptured
            · exact .toChoosing rfl
          · simp only [Routine.resume_ok]
            cases asks : intent.asksBack with
            | true => exact ⟨mode, .inl ⟨rfl, streamStaticResponse_captured⟩⟩
            | false =>
                cases found : (AgentService.ofPydantic pydantic).handlers mode with
                | none =>
                    obtain rfl := AgentService.ofPydantic_none.mp found
                    exact ⟨.general, .inl ⟨rfl, streamStaticResponse_captured⟩⟩
                | some handler =>
                    have own := (AgentService.ofPydantic pydantic).wired mode handler found
                    have specific : mode ≠ .general := by
                      rintro rfl
                      cases found
                    simp only [Bool.false_eq_true, if_false, Bool.false_or, specific, decide_false, Routine.obeys_bind]
                    apply updateSessionState_streams.mono
                    intro out locals after within
                    cases out with
                    | error error => exact .inr ⟨mode, within⟩
                    | ok _ => exact ⟨mode, .inr ⟨within, streamHandlerResponse_streams own⟩⟩

/-! ## Requests -/

/-- The phase allows the response. -/
def Responds (streams : Bool) (out : Except Raised Response) (after : AgentPhase) : Prop :=
  match out with
  | .ok response => AgentMoves streams after (.respond response) () .closed
  | .error error => AgentMoves streams after (.respond (.failed error)) () .closed

private theorem serve_full {pydantic : Pydantic} {command : ChatCommand} :
    (serve (.ofPydantic pydantic) (.full command)).Obeys (AgentMoves streams)
      (fun out _ after => Responds streams out after) locals .unresolved := by
  rw [serve, Routine.obeys_bind]
  apply (unresolved_idles.suspended rfl locals _ rfl).mono
  rintro out locals _ rfl
  cases out with
  | error error => exact .failsEarly
  | ok _ =>
      simp only [Routine.resume_ok, Routine.obeys_bind]
      apply chatFull_obeys.mono
      intro out locals after answer
      cases out with
      | ok result =>
          obtain rfl := answer
          exact .answers
      | error error =>
          rcases answer with rfl | ⟨mode, rfl⟩
          · exact .failsEarly
          · exact .failsFull

private theorem serve_stream {pydantic : Pydantic} {command : ChatCommand} :
    (serve (.ofPydantic pydantic) (.stream command)).Obeys (AgentMoves true)
      (fun out _ after => Responds true out after) locals .unresolved := by
  rw [serve, Routine.obeys_bind]
  apply (unresolved_idles.suspended rfl locals _ rfl).mono
  rintro out locals _ rfl
  cases out with
  | error error => exact .failsEarly
  | ok _ =>
      simp only [Routine.resume_ok, Routine.obeys_bind]
      apply chatStream_obeys.mono
      intro out locals after returned
      cases out with
      | error error =>
          rcases returned with rfl | ⟨mode, seen, rfl⟩
          · exact .failsEarly
          · exact .failsStreaming
      | ok generator =>
          simp only [Routine.resume_ok, Routine.obeys_bind, drained]
          obtain ⟨mode, ⟨rfl, keeps⟩ | ⟨within, keeps⟩⟩ := returned
          · apply ((captured_idles.suspended rfl).bind (fun _ => keeps) locals _ rfl).mono
            rintro out locals _ rfl
            cases out with
            | ok _ => exact .endsCaptured
            | error error => exact .failsCaptured
          · apply ((streaming_idles.suspended rfl).bind (fun _ => keeps) locals _ within).mono
            rintro out locals _ ⟨seen, rfl⟩
            cases out with
            | ok _ => exact .endsStreaming
            | error error => exact .failsStreaming

theorem serve_obeys {pydantic : Pydantic} {request : Request} :
    (serve (.ofPydantic pydantic) request).Obeys (AgentMoves request.isStream)
      (fun out _ after => Responds request.isStream out after) locals .unresolved := by
  cases request with
  | full command => exact serve_full
  | stream command => exact serve_stream

theorem requestTask_obeys {pydantic : Pydantic} {request : Request} :
    (requestTask (.ofPydantic pydantic) request).Obeys (AgentMoves request.isStream)
      (fun _ _ after => after = .closed) locals .unresolved := by
  rw [requestTask, Routine.obeys_bind, Routine.obeys_tryCatch]
  apply serve_obeys.mono
  intro out locals after ends
  cases out with
  | ok response => exact fun _ => ⟨_, ends, rfl⟩
  | error error => exact fun _ => ⟨_, ends, rfl⟩

end Conformance

end LanguageAgent.Agent
