import LanguageAgent.Agent.RequestPhases
import LanguageAgent.Interleaving.Cooperative

/-! # Which mode an answer is labelled with

Any number of requests on one service. A full answer and a fixed text are labelled with
the mode their request took note of; the events of a handler's stream with the mode that
is active when they are sent.
-/

namespace LanguageAgent.Agent

open Interleaving

variable {Party : Type} [DecidableEq Party]

/-! ## The history of a request -/

/-- The event loop may turn to another task. -/
def AgentCommand.releases : AgentCommand → Bool
  | .suspend _ => true
  | .respond _ => true
  | _ => false

def AgentCommand.notedMode? : AgentCommand → Option Mode
  | .logActiveMode mode => some mode
  | _ => none

def AgentCommand.responds : AgentCommand → Bool
  | .respond _ => true
  | _ => false

/-- A handler has been chosen, and its mode state is being updated. -/
def AgentCommand.asksForState : AgentCommand → Bool
  | .suspend (.askLlm (.stateUpdateTask ..)) => true
  | _ => false

/-- The modes a request has found active after its intent was applied. -/
def noted (trace : List (Label agentSignature Party)) (party : Party) : List Mode :=
  trace.filterMap fun label => if label.party = party then AgentCommand.notedMode? label.command else none

def responded (trace : List (Label agentSignature Party)) (party : Party) : Bool :=
  trace.any fun label => decide (label.party = party) && AgentCommand.responds label.command

/-- The mode of every result, and of every event that has one, is the one mode that was
    active when the intent of its request had been applied. -/
structure LabelsRight (trace : List (Label agentSignature Party)) : Prop where
  events : ∀ party event, ⟨party, AgentCommand.suspend (.emit event)⟩ ∈ trace →
    ∃ mode, noted trace party = [mode] ∧ Carries mode event
  results : ∀ party result, ⟨party, AgentCommand.respond (.full result)⟩ ∈ trace →
    noted trace party = [result.mode]

/-! ## The condition -/

/-- The intent would change the active mode. -/
def switches (world : AgentWorld Party) : AgentCommand → Bool
  | .applyIntent intent =>
      (applyIntent world.service.sessionState intent).activeMode ≠ world.service.sessionState.activeMode
  | _ => false

/-- The interleavings of an event loop. -/
def eventLoop : Guard agentSignature Party (AgentWorld Party) := cooperative AgentCommand.releases

instance (trace : List (Label agentSignature Party)) (world : AgentWorld Party)
    (label : Label agentSignature Party) : Decidable (eventLoop trace world label) :=
  inferInstanceAs (Decidable (cooperative _ _ _ _))

/-- The active mode is switched only when every other `chat_stream` request that has
    chosen a handler has sent its last event. -/
def undisturbed (requests : Party → Request) : Guard agentSignature Party (AgentWorld Party) :=
  fun trace world label =>
    eventLoop trace world label ∧
    (switches world label.command = true → ∀ earlier ∈ trace, AgentCommand.asksForState earlier.command = true →
      (requests earlier.party).isStream = true → earlier.party ≠ label.party →
        responded trace earlier.party = true)

instance (requests : Party → Request) (trace : List (Label agentSignature Party)) (world : AgentWorld Party)
    (label : Label agentSignature Party) : Decidable (undisturbed requests trace world label) :=
  inferInstanceAs (Decidable (_ ∧ (_ = true → ∀ _ ∈ trace, _ = true → _ = true → _ ≠ _ → _ = true)))

/-! ## The invariant -/

/-- What is on record of a request in each phase. -/
def AgentPhase.OnRecord (isStream : Bool) (trace : List (Label agentSignature Party)) (world : AgentWorld Party)
    (party : Party) : AgentPhase → Prop
  | .unresolved => noted trace party = [] ∧ responded trace party = false
  | .applied => noted trace party = [] ∧ responded trace party = false ∧
      Running AgentCommand.releases trace party
  | .chosen mode => noted trace party = [] ∧ responded trace party = false ∧
      Running AgentCommand.releases trace party ∧ world.service.sessionState.activeMode = mode
  | .full mode => noted trace party = [mode] ∧ responded trace party = false
  | .captured mode => noted trace party = [mode] ∧ responded trace party = false
  | .choosing mode => noted trace party = [mode] ∧ responded trace party = false ∧ isStream = true ∧
      Running AgentCommand.releases trace party ∧ world.service.sessionState.activeMode = mode
  | .streaming mode seen => noted trace party = [mode] ∧ responded trace party = false ∧ isStream = true ∧
      (∃ label ∈ trace, label.party = party ∧ AgentCommand.asksForState label.command = true) ∧
      world.service.sessionState.activeMode = mode ∧ ∀ active, seen = some active → active = mode
  | .closed => True

structure Labelled (requests : Party → Request) (trace : List (Label agentSignature Party))
    (world : AgentWorld Party) (phase : Party → AgentPhase) : Prop where
  right : LabelsRight trace
  onRecord : ∀ party, (phase party).OnRecord (requests party).isStream trace world party

section Steps

variable {trace : List (Label agentSignature Party)} {world world' : AgentWorld Party} {party other : Party}
  {command : AgentCommand} {reply : command.Reply} {requests : Party → Request} {phase : Party → AgentPhase}

@[simp] theorem noted_append : noted (trace ++ [⟨party, command⟩]) other =
    noted trace other ++ if party = other then command.notedMode?.toList else [] := by
  by_cases same : party = other
  · cases mode : command.notedMode? <;> simp [noted, same, mode]
  · simp [noted, same]

@[simp] theorem responded_append : responded (trace ++ [⟨party, command⟩]) other =
    (responded trace other || (decide (party = other) && command.responds)) := by
  simp [responded]

omit [DecidableEq Party] in
/-- Only an applied intent changes the active mode. -/
theorem activeMode_kept (answered : AgentWorld.exec party command world = some (reply, world'))
    (stays : switches world command = false) :
    world'.service.sessionState.activeMode = world.service.sessionState.activeMode := by
  cases command with
  | applyIntent intent =>
      cases answered
      have same : (applyIntent world.service.sessionState intent).activeMode =
          world.service.sessionState.activeMode := by simpa [switches] using stays
      exact same
  | setModeState state =>
      cases answered
      exact SessionState.withModeState_activeMode ..
  | _ =>
      cases answered
      rfl

/-- Another party's step leaves a request where it is. -/
theorem AgentPhase.OnRecord.elsewhere {isStream : Bool} {point : AgentPhase} (different : other ≠ party)
    (allowed : eventLoop trace world ⟨party, command⟩)
    (stays : ∀ mode seen, point = .streaming mode seen →
      world'.service.sessionState.activeMode = world.service.sessionState.activeMode)
    (onRecord : point.OnRecord isStream trace world other) :
    point.OnRecord isStream (trace ++ [⟨party, command⟩]) world' other := by
  have notedSame : noted (trace ++ [⟨party, command⟩]) other = noted trace other := by
    simp [different.symm]
  have respondedSame : responded (trace ++ [⟨party, command⟩]) other = responded trace other := by
    simp [different.symm]
  cases point with
  | unresolved | full | captured => simpa only [OnRecord, notedSame, respondedSame] using onRecord
  | applied => exact absurd (onRecord.2.2.only allowed) different
  | chosen mode => exact absurd (onRecord.2.2.1.only allowed) different
  | choosing mode => exact absurd (onRecord.2.2.2.1.only allowed) different
  | closed => trivial
  | streaming mode seen =>
      obtain ⟨notes, open_, stream, ⟨label, member, asked⟩, active, fresh⟩ := onRecord
      exact ⟨notedSame.trans notes, respondedSame.trans open_, stream,
        ⟨label, List.mem_append_left _ member, asked⟩, (stays mode seen rfl).trans active, fresh⟩

omit [DecidableEq Party] in
theorem AgentCommand.silent_of_neutral (neutral : command.isNeutral = true) :
    command.notedMode? = none ∧ command.responds = false := by
  cases command with
  | applyIntent | logActiveMode | respond => cases neutral
  | _ => exact ⟨rfl, rfl⟩

omit [DecidableEq Party] in
theorem AgentCommand.stays_of_neutral (neutral : command.isNeutral = true) : switches world command = false := by
  cases command with
  | applyIntent | logActiveMode | respond => cases neutral
  | _ => rfl

/-- A request's own step leads from what its phase says to what the next one says. -/
theorem AgentMoves.onRecord {isStream : Bool} {point after : AgentPhase}
    (move : AgentMoves isStream point command reply after)
    (answered : AgentWorld.exec party command world = some (reply, world'))
    (onRecord : point.OnRecord isStream trace world party) :
    after.OnRecord isStream (trace ++ [⟨party, command⟩]) world' party := by
  cases move with
  | unresolved neutral | full neutral | captured neutral =>
      obtain ⟨unnoted, silent⟩ := AgentCommand.silent_of_neutral neutral
      simpa [AgentPhase.OnRecord, unnoted, silent] using onRecord
  | sendsCaptured label =>
      simpa [AgentPhase.OnRecord, AgentCommand.notedMode?, AgentCommand.responds] using onRecord
  | applies =>
      obtain ⟨notes, open_⟩ := onRecord
      exact ⟨by simp [notes, AgentCommand.notedMode?], by simp [open_, AgentCommand.responds],
        running_append rfl⟩
  | reads =>
      cases answered
      obtain ⟨notes, open_, -⟩ := onRecord
      exact ⟨by simp [notes, AgentCommand.notedMode?], by simp [open_, AgentCommand.responds],
        running_append rfl, rfl⟩
  | toFull | toCaptured =>
      obtain ⟨notes, open_, -⟩ := onRecord
      exact ⟨by simp [notes, AgentCommand.notedMode?], by simp [open_, AgentCommand.responds]⟩
  | toChoosing isStream =>
      cases answered
      obtain ⟨notes, open_, -, active⟩ := onRecord
      exact ⟨by simp [notes, AgentCommand.notedMode?], by simp [open_, AgentCommand.responds], isStream,
        running_append rfl, active⟩
  | choosing =>
      cases answered
      obtain ⟨notes, open_, isStream, -, active⟩ := onRecord
      exact ⟨by simp [notes, AgentCommand.notedMode?], by simp [open_, AgentCommand.responds], isStream,
        running_append rfl, active⟩
  | asks =>
      cases answered
      obtain ⟨notes, open_, isStream, -, active⟩ := onRecord
      exact ⟨by simp [notes, AgentCommand.notedMode?], by simp [open_, AgentCommand.responds], isStream,
        ⟨_, List.mem_append_right _ List.mem_cons_self, rfl, rfl⟩, active, by rintro _ ⟨⟩⟩
  | looks =>
      cases answered
      obtain ⟨notes, open_, isStream, ⟨label, member, asked⟩, active, -⟩ := onRecord
      refine ⟨by simp [notes, AgentCommand.notedMode?], by simp [open_, AgentCommand.responds], isStream,
        ⟨label, List.mem_append_left _ member, asked⟩, active, ?_⟩
      rintro _ ⟨⟩
      exact active
  | streaming neutral =>
      obtain ⟨unnoted, silent⟩ := AgentCommand.silent_of_neutral neutral
      have stays : switches world command = false := AgentCommand.stays_of_neutral neutral
      obtain ⟨notes, open_, isStream, ⟨label, member, asked⟩, active, -⟩ := onRecord
      exact ⟨by simp [notes, unnoted], by simp [open_, silent], isStream,
        ⟨label, List.mem_append_left _ member, asked⟩, (activeMode_kept answered stays).trans active,
        by rintro _ ⟨⟩⟩
  | sendsSeen label | sendsOwn label =>
      cases answered
      obtain ⟨notes, open_, isStream, ⟨label, member, asked⟩, active, -⟩ := onRecord
      exact ⟨by simp [notes, AgentCommand.notedMode?], by simp [open_, AgentCommand.responds], isStream,
        ⟨label, List.mem_append_left _ member, asked⟩, active, by rintro _ ⟨⟩⟩
  | _ => trivial

/-- A mode is noted only once. -/
theorem AgentMoves.noted_kept {isStream : Bool} {point after : AgentPhase} {mode : Mode}
    (move : AgentMoves isStream point command reply after)
    (onRecord : point.OnRecord isStream trace world party) (notes : noted trace other = [mode]) :
    noted (trace ++ [⟨party, command⟩]) other = [mode] := by
  by_cases same : party = other
  · subst same
    cases fresh : command.notedMode? with
    | none => simp [notes, fresh]
    | some noting =>
        cases move with
        | toFull | toCaptured | toChoosing => cases notes.symm.trans onRecord.1
        | unresolved neutral | full neutral | captured neutral | streaming neutral =>
            cases fresh.symm.trans (AgentCommand.silent_of_neutral neutral).1
        | _ => cases fresh
  · simp [notes, same]

/-- What a request sends is labelled with the mode it has noted. -/
theorem AgentMoves.sends {isStream : Bool} {point after : AgentPhase} {event : Dict}
    {reply : AgentCommand.Reply (.suspend (.emit event))}
    (move : AgentMoves isStream point (.suspend (.emit event)) reply after)
    (onRecord : point.OnRecord isStream trace world party) :
    ∃ mode, noted trace party = [mode] ∧ Carries mode event := by
  cases move with
  | unresolved neutral | full neutral | captured neutral | streaming neutral => cases neutral
  | sendsCaptured label => exact ⟨_, onRecord.1, label⟩
  | sendsOwn label => exact ⟨_, onRecord.1, label⟩
  | sendsSeen label =>
      obtain rfl := onRecord.2.2.2.2.2 _ rfl
      exact ⟨_, onRecord.1, label⟩

theorem LabelsRight.step {isStream : Bool} {point after : AgentPhase} (right : LabelsRight trace)
    (move : AgentMoves isStream point command reply after)
    (onRecord : point.OnRecord isStream trace world party) :
    LabelsRight (trace ++ [⟨party, command⟩]) := by
  constructor
  · intro sender event member
    rcases List.mem_append.mp member with earlier | now
    · obtain ⟨mode, notes, label⟩ := right.events sender event earlier
      exact ⟨mode, move.noted_kept onRecord notes, label⟩
    · cases List.mem_singleton.mp now
      obtain ⟨mode, notes, label⟩ := move.sends onRecord
      exact ⟨mode, move.noted_kept onRecord notes, label⟩
  · intro sender result member
    rcases List.mem_append.mp member with earlier | now
    · exact move.noted_kept onRecord (right.results sender result earlier)
    · cases List.mem_singleton.mp now
      cases move with
      | answers =>
          have answer : AgentMoves isStream (.full result.mode) (.respond (.full result)) () .closed := .answers
          exact answer.noted_kept onRecord onRecord.1
      | unresolved neutral | full neutral | captured neutral | streaming neutral => cases neutral

theorem labelled_step {after : AgentPhase} (inv : Labelled requests trace world phase)
    (allowed : undisturbed requests trace world ⟨party, command⟩)
    (move : AgentMoves (requests party).isStream (phase party) command reply after)
    (answered : AgentWorld.exec party command world = some (reply, world')) :
    Labelled requests (trace ++ [⟨party, command⟩]) world' (Function.update phase party after) := by
  refine ⟨inv.right.step move (inv.onRecord party), fun other => ?_⟩
  by_cases same : other = party
  · subst same
    rw [Function.update_self]
    exact move.onRecord answered (inv.onRecord other)
  · rw [Function.update_of_ne same]
    refine (inv.onRecord other).elsewhere same allowed.1 fun mode seen streaming => ?_
    have record := inv.onRecord other
    rw [streaming] at record
    obtain ⟨-, open_, isStream, ⟨label, member, rfl, asked⟩, -, -⟩ := record
    cases switched : switches world command with
    | false => exact activeMode_kept answered switched
    | true => cases open_.symm.trans (allowed.2 switched label member asked isStream same)

end Steps

/-- Any number of requests, none of which has started. -/
def atStart (pydantic : Pydantic) (requests : Party → Request) (world : AgentWorld Party) :
    Config agentSignature Party (AgentWorld Party) (Except Raised Unit × StreamLocals) :=
  ⟨[], world, fun party => requestTask (.ofPydantic pydantic) (requests party) {}⟩

/-- Every label is right as long as the active mode is not switched while another request's
    handler streams. -/
theorem labels_right_undisturbed {pydantic : Pydantic} {requests : Party → Request} {world : AgentWorld Party}
    {config : Config agentSignature Party (AgentWorld Party) (Except Raised Unit × StreamLocals)}
    (run : (agentMachine Party).Reach (undisturbed requests) (atStart pydantic requests world) config) :
    LabelsRight config.trace := by
  have follows : (atStart pydantic requests world).Follows
      (fun party => AgentMoves (requests party).isStream) (fun _ _ after => after = .closed)
      fun _ => .unresolved := fun _ => requestTask_obeys
  have start : Labelled requests [] world fun _ => .unresolved :=
    ⟨⟨fun _ _ member => (by cases member), fun _ _ member => (by cases member)⟩, fun _ => ⟨rfl, rfl⟩⟩
  obtain ⟨phase, -, inv⟩ := run.invariant (Labelled requests)
    (fun _ _ _ _ _ _ _ _ inv allowed move answered => labelled_step inv allowed move answered) follows start
  exact inv.right

/-! ## Two requests -/

/-- The labels of the events sent to one consumer. -/
def sentLabels (trace : List (Label agentSignature Party)) (party : Party) : List String :=
  trace.filterMap fun label =>
    match label.command with
    | .suspend (.emit event) => if label.party = party then event.str? "mode" else none
    | _ => none

theorem sentLabels_mem {trace : List (Label agentSignature Party)} {party : Party} {label : String}
    (member : label ∈ sentLabels trace party) :
    ∃ event, ⟨party, AgentCommand.suspend (.emit event)⟩ ∈ trace ∧ event.get? "mode" = some (.str label) := by
  obtain ⟨⟨sender, command⟩, inTrace, found⟩ := List.mem_filterMap.mp member
  cases command with
  | suspend suspension =>
      cases suspension with
      | emit event =>
          by_cases same : sender = party
          · subst same
            refine ⟨event, inTrace, ?_⟩
            obtain ⟨value, stored, text⟩ := Option.bind_eq_some_iff.mp ((if_pos rfl).symm.trans found)
            cases value with
            | str string =>
                obtain rfl := Option.some.inj text
                exact stored
            | _ => cases text
          · cases (if_neg same).symm.trans found
      | _ => cases found
  | _ => cases found

/-- One consumer streams a translation; another asks in full for this mode. -/
def demoRequests (other : String) : Bool → Request
  | false => .stream { message := "hello", mode := "translation" }
  | true => .full { message := "recursion", mode := some other }

/-- The second request applies its intent between two events of the first. -/
def demoOrder : List Bool := List.replicate 17 false ++ List.replicate 8 true ++ List.replicate 5 false

theorem labels_right_undisturbed_demo :
    ∃ config, (agentMachine Bool).Reach (undisturbed (demoRequests "translation"))
        (atStart demoPydantic (demoRequests "translation") (demoWorld Bool)) config ∧
      sentLabels config.trace false = ["translation", "translation"] ∧ LabelsRight config.trace := by
  obtain ⟨config, run, sent⟩ := Machine.schedule_observed (agentMachine Bool)
    (undisturbed (demoRequests "translation")) demoOrder
    (atStart demoPydantic (demoRequests "translation") (demoWorld Bool))
    (fun d => sentLabels d.trace false) ["translation", "translation"] (by decide +kernel)
  exact ⟨config, run, sent, labels_right_undisturbed run⟩

/-- A request for a definition relabels what is left of another's translation. -/
theorem translation_relabelled :
    ∃ config, (agentMachine Bool).Reach eventLoop
        (atStart demoPydantic (demoRequests "definition") (demoWorld Bool)) config ∧
      noted config.trace false = [.translation] ∧ "definition" ∈ sentLabels config.trace false ∧
      ¬ LabelsRight config.trace := by
  obtain ⟨config, run, seen⟩ := Machine.schedule_observed (agentMachine Bool) eventLoop
    demoOrder
    (atStart demoPydantic (demoRequests "definition") (demoWorld Bool))
    (fun d => (noted d.trace false, sentLabels d.trace false)) ([.translation], ["translation", "definition"])
    (by decide +kernel)
  have notes : noted config.trace false = [.translation] := congrArg Prod.fst seen
  have sent : sentLabels config.trace false = ["translation", "definition"] := congrArg Prod.snd seen
  have relabelled : "definition" ∈ sentLabels config.trace false := by simp [sent]
  refine ⟨config, run, notes, relabelled, fun right => ?_⟩
  obtain ⟨event, member, label⟩ := sentLabels_mem relabelled
  obtain ⟨mode, only, carries⟩ := right.events false event member
  obtain rfl : Mode.translation = mode := List.singleton_inj.mp (notes.symm.trans only)
  have same : Json.str "definition" = .str "translation" := carries _ label
  exact absurd (Json.str.inj same) (by decide)

end LanguageAgent.Agent
