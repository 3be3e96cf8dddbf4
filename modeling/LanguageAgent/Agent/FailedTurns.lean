import LanguageAgent.Agent.ReplyEnds

/-! # Full answers that fail

What a turn that raises has done to the shared conversation. The intent is applied before
the model is asked for anything else, and the mode's state is replaced before the answer.
-/

namespace LanguageAgent

/-- The mode whose handler reads and replaces the state. -/
def ModeState.mode : ModeState → Mode
  | .translation _ => .translation
  | .definition _ => .definition
  | .learning _ => .learning

theorem applyIntent_idem (session : SessionState) (intent : IntentResult) :
    applyIntent (applyIntent session intent) intent = applyIntent session intent := by
  cases switches : intent.shouldSwitchMode && intent.mode ≠ session.activeMode with
  | true =>
      have switched : applyIntent session intent =
          { session with previousMode := some session.activeMode, activeMode := intent.mode } := if_pos switches
      rw [switched]
      exact if_neg (by simp)
  | false =>
      have kept : applyIntent session intent = session := if_neg (by rw [switches]; exact Bool.false_ne_true)
      rw [kept, kept]

namespace Agent

open Gateway Interleaving Queue

/-- What a turn that raised leaves of the session state, by how far it got. -/
inductive FailedTurn (session : SessionState) (commands : List AgentCommand) : SessionState → Prop where
  /-- No intent was resolved. -/
  | unresolved (unapplied : ∀ intent, AgentCommand.applyIntent intent ∉ commands) :
      FailedTurn session commands session
  /-- The state of the mode was not updated. -/
  | notUpdated {intent} (applied : AgentCommand.applyIntent intent ∈ commands)
      (kept : ∀ state, AgentCommand.setModeState state ∉ commands) :
      FailedTurn session commands (applyIntent session intent)
  /-- No answer came after the update of the active mode. -/
  | notAnswered {intent state} (applied : AgentCommand.applyIntent intent ∈ commands)
      (updated : AgentCommand.setModeState state ∈ commands)
      (own : state.mode = (applyIntent session intent).activeMode) :
      FailedTurn session commands ((applyIntent session intent).withModeState state)

section Turns

variable {Party : Type} {party : Party} {world : AgentWorld Party} {s : StreamLocals} {pydantic : Pydantic}

theorem handle_alone (handler : ModeHandler) (userInput history : String) :
    ∃ out commands, (handler.handle userInput history).alone (agentMachine Party) party s world =
      some ⟨commands, world, out, s⟩ ∧ ∀ command ∈ commands, command.asks = true :=
  asking_alone _ _

/-- An update that fails has replaced nothing. -/
theorem updateSessionState_raised {handler : ModeHandler} {userInput history : String}
    {ending : Ending agentSignature (AgentWorld Party) (Except Raised Unit × StreamLocals)} {error : Raised}
    (runs : (handler.updateSessionState userInput history).alone (agentMachine Party) party s world = some ending)
    (raised : ending.value.1 = .error error) :
    ending.world = world ∧ ∀ command ∈ ending.commands, command.asks = true := by
  rw [ModeHandler.updateSessionState, Routine.alone_bind_ok load_alone] at runs
  obtain ⟨first, asked, rfl⟩ := Option.map_eq_some_iff.mp runs
  obtain ⟨out, asks⟩ := @askLlm_alone Party party world s
    (.stateUpdateTask userInput history (handler.modeState world.service.sessionState))
  rcases Routine.alone_bind_raised asked raised with early | ⟨_, _, response, _, second, answered, replaces, rfl⟩
  · have same := Option.some.inj (asks.symm.trans early)
    rw [Ending.mk.injEq] at same
    obtain ⟨commands, kept, _⟩ := same
    refine ⟨kept.symm, ?_⟩
    simp [Ending.after, ← commands, AgentCommand.asks]
  · cases Option.some.inj (asks.symm.trans answered)
    cases made : handler.newModeState response with
    | error error =>
        rw [made, constructed_error] at replaces
        obtain rfl := Option.some.inj replaces
        exact ⟨rfl, by simp [Ending.after, AgentCommand.asks]⟩
    | ok state =>
        rw [made, constructed_ok] at replaces
        obtain rfl := Option.some.inj replaces
        cases raised

/-- The handlers read states of their own modes. -/
theorem AgentService.ofPydantic_newModeState {mode : Mode} {handler : ModeHandler} {response : Dict}
    {state : ModeState} (found : (AgentService.ofPydantic pydantic).handlers mode = some handler)
    (made : handler.newModeState response = .ok state) : state.mode = mode := by
  cases mode with
  | general => cases found
  | translation =>
      cases found
      cases read : pydantic.translationModeState response <;> simp_all [TranslationHandler, Except.map]
      subst made
      rfl
  | definition =>
      cases found
      cases read : pydantic.definitionModeState response <;> simp_all [DefinitionHandler, Except.map]
      subst made
      rfl
  | learning =>
      cases found
      cases read : pydantic.learningModeState response <;> simp_all [LearningHandler, Except.map]
      subst made
      rfl

/-- A request that names its mode does the same once its intent has been applied. -/
theorem chatFull_again {agent : AgentService} {command : ChatCommand} {intent : IntentResult}
    (named : ∀ history, resolveIntent agent.pydantic command history = pure intent) :
    (chatFull agent command).alone (agentMachine Party) party s
        (world.withSession (applyIntent world.service.sessionState intent)) =
      (chatFull agent command).alone (agentMachine Party) party s world := by
  apply Routine.alone_tryCatch_congr
  simp only [named]
  rw [Routine.alone_bind_ok load_alone, Routine.alone_bind_ok load_alone, Routine.alone_bind_ok Routine.alone_pure,
    Routine.alone_bind_ok Routine.alone_pure, Routine.alone_bind_ok switchMode_alone,
    Routine.alone_bind_ok switchMode_alone]
  simp only [AgentWorld.withSession, applyIntent_idem]

/-- The intent of a request that names its mode does not depend on the history. -/
theorem resolveIntent_named {command : ChatCommand} (named : command.mode ≠ none) {history : String}
    {commands : List AgentCommand} {intent : IntentResult}
    (resolved : (resolveIntent pydantic command history).alone (agentMachine Party) party s world =
      some ⟨commands, world, .ok intent, s⟩) (other : String) :
    resolveIntent pydantic command other = pure intent := by
  unfold resolveIntent at resolved ⊢
  cases mode : command.mode with
  | none => exact absurd mode named
  | some text =>
      simp only [mode] at resolved ⊢
      cases known : Mode.ofText? text with
      | none =>
          rw [known] at resolved
          cases Option.some.inj resolved
      | some known' =>
          rw [known] at resolved
          cases Option.some.inj resolved
          rfl

/-- A full answer that fails leaves the memory as it was. Of the session state it has
    changed nothing, or applied the intent, or also replaced the state of the mode that is
    active then. A request that names its mode and has replaced nothing does the same again. -/
theorem failed_turn {command : ChatCommand}
    {ending : Ending agentSignature (AgentWorld Party) (Except Raised ChatResult × StreamLocals)} {error : Raised}
    (runs : (chatFull (.ofPydantic pydantic) command).alone (agentMachine Party) party s world = some ending)
    (raised : ending.value.1 = .error error) :
    ending.world.service.memory = world.service.memory ∧
      FailedTurn world.service.sessionState ending.commands ending.world.service.sessionState ∧
      (command.mode ≠ none → (∀ state, AgentCommand.setModeState state ∉ ending.commands) →
        (chatFull (.ofPydantic pydantic) command).alone (agentMachine Party) party s ending.world =
          (chatFull (.ofPydantic pydantic) command).alone (agentMachine Party) party s world) := by
  obtain ⟨commands, final, out, locals⟩ := ending
  obtain rfl : out = .error error := raised
  obtain ⟨inner, attempt⟩ := Routine.alone_tryCatch_raised
    (fun error => by cases error <;> exact ⟨_, rfl⟩) runs rfl
  rw [Routine.alone_bind_ok load_alone] at attempt
  obtain ⟨first, resolving, same⟩ := Option.map_eq_some_iff.mp attempt
  obtain ⟨rfl, rfl, raises⟩ := Ending.mk.inj same
  obtain ⟨resolved, resolves, runsResolve, silent⟩ := @resolveIntent_alone Party party world s pydantic command
    world.service.memory.formatForPrompt
  rcases Routine.alone_bind_raised resolving (congrArg Prod.fst raises) with
    early | ⟨_, _, intent, _, second, answered, switches, rfl⟩
  · -- no intent was resolved
    obtain ⟨asked, kept, _⟩ := Ending.mk.inj (Option.some.inj (runsResolve.symm.trans early))
    rw [← kept, ← asked]
    refine ⟨rfl, .unresolved fun intent member => ?_, fun _ _ => rfl⟩
    simp only [List.cons_append, List.nil_append, List.mem_cons, reduceCtorEq, false_or] at member
    cases silent _ member
  cases Option.some.inj (runsResolve.symm.trans answered)
  rw [Routine.alone_bind_ok switchMode_alone] at switches
  obtain ⟨third, chooses, rfl⟩ := Option.map_eq_some_iff.mp switches
  have applied : ∀ rest : List AgentCommand, AgentCommand.applyIntent intent ∈ [AgentCommand.load] ++ (resolves ++
      ([.applyIntent intent, .load, .logActiveMode (applyIntent world.service.sessionState intent).activeMode] ++
        rest)) := by
    intro rest
    simp
  cases asksBack : intent.asksBack with
  | true =>
      simp only [asksBack, if_true] at chooses
      obtain rfl := Option.some.inj chooses
      cases congrArg Prod.fst raises
  | false =>
      simp only [asksBack, Bool.false_eq_true, if_false] at chooses
      cases found : (AgentService.ofPydantic pydantic).handlers
          (applyIntent world.service.sessionState intent).activeMode with
      | none =>
          rw [found] at chooses
          obtain rfl := Option.some.inj chooses
          cases congrArg Prod.fst raises
      | some handler =>
          rw [found] at chooses
          rcases Routine.alone_bind_raised chooses (congrArg Prod.fst raises) with
            early | ⟨updating, _, _, _, fourth, updates, answers, rfl⟩
          · -- the state update raised
            obtain ⟨kept, silent'⟩ := updateSessionState_raised early rfl
            simp only [Ending.after] at kept ⊢
            rw [kept]
            refine ⟨rfl, .notUpdated (applied _) fun state member => ?_, fun named _ =>
              chatFull_again (resolveIntent_named named answered)⟩
            simp only [List.mem_append, List.mem_cons, List.not_mem_nil, reduceCtorEq, false_or] at member
            rcases member with first | last
            · cases silent _ first
            · cases silent' _ last
          · obtain ⟨response, state, made, updated, member, _⟩ := updateSessionState_updated updates rfl
            obtain rfl := updated
            obtain ⟨out, asked, handles, _⟩ := @handle_alone Party party _ _ handler command.message
              world.service.memory.formatForPrompt
            rcases Routine.alone_bind_raised answers (congrArg Prod.fst raises) with
              early | ⟨_, _, _, _, fifth, _, remembers, rfl⟩
            · -- the answer raised
              obtain ⟨_, kept, _⟩ := Ending.mk.inj (Option.some.inj (handles.symm.trans early))
              simp only [Ending.after]
              rw [← kept]
              have replaced : ∀ rest : List AgentCommand, AgentCommand.setModeState state ∈
                  [AgentCommand.load] ++ (resolves ++ ([.applyIntent intent, .load,
                    .logActiveMode (applyIntent world.service.sessionState intent).activeMode] ++
                      (updating ++ rest))) := by
                intro rest
                simp [member]
              exact ⟨rfl, .notAnswered (applied _) (replaced _) (AgentService.ofPydantic_newModeState found made),
                fun _ kept => absurd (replaced _) (kept state)⟩
            · rw [Routine.alone_bind_ok addTurn_alone] at remembers
              obtain rfl := Option.some.inj remembers
              cases congrArg Prod.fst raises

end Turns

/-! ## A definition without an answer -/

/-- The model does not answer this request. -/
def silentWorld : AgentWorld Unit :=
  { demoWorld Unit with backend := { demoBackend Unit with ask := fun _ _ => .error (.api queueWaitTimeoutError) } }

/-- The definition that is asked for fails, and the mode has been switched. -/
theorem silent_turn : ∃ ending error,
    (chatFull demoAgent { message := "recursion", mode := "definition" }).alone (agentMachine Unit) () {} silentWorld =
      some ending ∧ ending.value.1 = .error error ∧
    ending.world.service.sessionState.activeMode = .definition := by
  have observed : ((chatFull demoAgent { message := "recursion", mode := "definition" }).alone
      (agentMachine Unit) () {} silentWorld).map (fun ending =>
        (ending.value.1.toOption.isNone, ending.world.service.sessionState.activeMode)) =
      some (true, .definition) := by decide +kernel
  obtain ⟨ending, runs, seen⟩ := Option.map_eq_some_iff.mp observed
  obtain ⟨failed, switched⟩ := Prod.mk.inj seen
  cases raised : ending.value.1 with
  | ok result =>
      rw [raised] at failed
      cases failed
  | error error => exact ⟨ending, error, runs, raised, switched⟩

/-- Nothing is remembered, and the mode is left switched. -/
theorem failed_turn_demo : ∃ ending, (chatFull demoAgent { message := "recursion", mode := "definition" }).alone
      (agentMachine Unit) () {} silentWorld = some ending ∧
    ending.world.service.memory = silentWorld.service.memory ∧
    FailedTurn silentWorld.service.sessionState ending.commands ending.world.service.sessionState := by
  obtain ⟨ending, error, runs, raised, -⟩ := silent_turn
  obtain ⟨memory, left, -⟩ := failed_turn runs raised
  exact ⟨ending, runs, memory, left⟩

theorem failed_turn_switches_mode : ∃ ending error,
    (chatFull demoAgent { message := "recursion", mode := "definition" }).alone (agentMachine Unit) () {} silentWorld =
      some ending ∧ ending.value.1 = .error error ∧
    silentWorld.service.sessionState.activeMode = .general ∧
    ending.world.service.sessionState.activeMode = .definition := by
  obtain ⟨ending, error, runs, raised, switched⟩ := silent_turn
  exact ⟨ending, error, runs, raised, rfl, switched⟩

end Agent

end LanguageAgent
