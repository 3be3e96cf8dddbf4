import LanguageAgent.Agent.ReplyEnds

/-! # Abandoned streams

`_stream_handler_response` as an asynchronous generator that may be stopped: its task is
cancelled while it waits for the handler, or its consumer closes it at a `yield`, which
raises `GeneratorExit` there.
-/

namespace LanguageAgent.Agent.Abandoned

open Gateway Interleaving Queue

/-- What may be raised in the generator. `GeneratorExit` is no `Exception`. -/
inductive Thrown where
  | raised (error : Raised)
  | generatorExit

/-- The `yield` statements of the generator. -/
inductive YieldSite where
  /-- Of an event in the loop. -/
  | handlerEvent
  /-- Of the last event, after the loop. -/
  | closing
  /-- In `except Exception`. -/
  | failure
  /-- Of what `_stream_mode_response` yields. -/
  | modeResponse
  deriving DecidableEq

inductive StreamCommand where
  | activeMode
  | addTurn (userInput assistantReply : String)
  /-- `handler.handle` -/
  | handle (userInput conversationHistory : String)
  /-- The loop gets its next event. -/
  | receive (event : HandlerEvent)
  | yield (site : YieldSite) (event : Dict)
  | cancelJob (jobId : String)

/-- How a `yield` is resumed. -/
inductive Resumption where
  | next
  | closed
  deriving DecidableEq

abbrev StreamCommand.Reply : StreamCommand → Type
  | .activeMode => Mode
  | .handle _ _ => Except Raised ModeResponse
  | .yield _ _ => Resumption
  | .cancelJob _ => Except Raised Unit
  | .addTurn _ _ | .receive _ => Unit

abbrev streamSignature : Signature := ⟨StreamCommand, StreamCommand.Reply⟩

abbrev GeneratorM := Routine streamSignature Thrown StreamLocals

/-! ## The generator -/

def activeMode : GeneratorM Mode := Routine.issue (S := streamSignature) .activeMode

def addTurn (userInput assistantReply : String) : GeneratorM Unit :=
  Routine.issue (S := streamSignature) (.addTurn userInput assistantReply)

def yieldEvent (site : YieldSite) (event : Dict) : GeneratorM Unit := do
  match ← Routine.issue (S := streamSignature) (.yield site event) with
  | .next => pure ()
  | .closed => throw .generatorExit

/-- `self._sse_data(payload)` -/
def encoded (payload : List (String × Value)) : GeneratorM Dict :=
  match sseData payload with
  | .ok event => pure event
  | .error error => throw (.raised (.exception error))

def streamModeResponse (message : String) (answer : ModeResponse) : GeneratorM Unit := do
  addTurn message answer.response
  yieldEvent .modeResponse (tokenEvent answer.mode answer.response)
  yieldEvent .modeResponse (doneEvent answer.mode)

/-- The `async for`. What ends the handler's stream is raised at the wait for the next
    event, a cancellation of the task among others. -/
def forwardItems : List HandlerItem → Option Raised → GeneratorM Unit
  | [], none => pure ()
  | [], some error => throw (.raised error)
  | item :: rest, ending => do
      let event := item.toEvent
      Routine.issue (S := streamSignature) (.receive event)
      Routine.modify (·.receive event)
      let mode ← activeMode
      let payload ← encoded (labelled mode event)
      yieldEvent .handlerEvent payload
      if event.isTrue "done" then Routine.modify ({ · with doneSent := true })
      else forwardItems rest ending

def finishReply (message : String) : GeneratorM Unit := do
  let locals ← Routine.get
  if locals.assistantReply ≠ "" then addTurn message locals.assistantReply
  if !locals.doneSent then
    let mode ← activeMode
    yieldEvent .closing (doneEvent mode)

def cancelActiveJob : GeneratorM Unit := do
  match (← Routine.get).activeJobId with
  | none => pure ()
  | some jobId =>
      if jobId ≠ "" then
        match ← Routine.issue (S := streamSignature) (.cancelJob jobId) with
        | .error .cancelled => throw (.raised .cancelled)
        | _ => pure ()

/-- The `try` block. -/
def answerEvents (handler : ModeHandler) (request : ChatCommand) (history : String) (outcome : StreamOutcome) :
    GeneratorM Unit := do
  if !handler.streams then
    match ← Routine.issue (S := streamSignature) (.handle request.message history) with
    | .ok answer => streamModeResponse request.message answer
    | .error error => throw (.raised error)
  else
    forwardItems outcome.items outcome.ending
    finishReply request.message

/-- Neither `except` clause takes a `GeneratorExit`. -/
def streamHandlerResponse (handler : ModeHandler) (request : ChatCommand) (history : String)
    (outcome : StreamOutcome) : GeneratorM Unit :=
  tryCatch (answerEvents handler request history outcome) fun error =>
    match error with
    | .generatorExit => throw .generatorExit
    | .raised .cancelled => do
        cancelActiveJob
        throw (.raised .cancelled)
    | .raised _ => yieldEvent .failure streamFailedEvent

/-! ## Its surroundings -/

/-- What the generator gets from outside: the mode that is active at each look, the
    consumer, who may close it at one of its yields, and the queue and the handler. -/
structure Surroundings where
  modes : Nat → Mode
  closesAt : Option Nat
  cancelJob : String → Except Raised Unit
  handle : Except Raised ModeResponse
  looks : Nat := 0
  yields : Nat := 0

def exec : (command : StreamCommand) → Surroundings → Option (command.Reply × Surroundings)
  | .activeMode, w => some (w.modes w.looks, { w with looks := w.looks + 1 })
  | .yield _ _, w =>
      some (if w.closesAt = some w.yields then .closed else .next, { w with yields := w.yields + 1 })
  | .cancelJob jobId, w => some (w.cancelJob jobId, w)
  | .handle _ _, w => some (w.handle, w)
  | .addTurn _ _, w => some ((), w)
  | .receive _, w => some ((), w)

def generatorMachine : Machine streamSignature Unit Surroundings := ⟨fun _ => exec⟩

abbrev Stopping := Ending streamSignature Surroundings (Except Thrown Unit × StreamLocals)

/-! ## What it has done -/

def StreamCommand.received? : StreamCommand → Option HandlerEvent
  | .receive event => some event
  | _ => none

def StreamCommand.yielded? : StreamCommand → Option Dict
  | .yield _ event => some event
  | _ => none

def StreamCommand.cancelled? : StreamCommand → Option String
  | .cancelJob jobId => some jobId
  | _ => none

def StreamCommand.turn? : StreamCommand → Option (String × String)
  | .addTurn userInput assistantReply => some (userInput, assistantReply)
  | _ => none

def received (commands : List StreamCommand) : List HandlerEvent := commands.filterMap StreamCommand.received?

/-- The calls of `cancel_job`. -/
def cancelCalls (commands : List StreamCommand) : List String := commands.filterMap StreamCommand.cancelled?

/-- The turns added to memory. -/
def turns (commands : List StreamCommand) : List (String × String) := commands.filterMap StreamCommand.turn?

/-- An event that says `done` has been yielded. -/
def doneYielded (commands : List StreamCommand) : Bool :=
  (commands.filterMap StreamCommand.yielded?).any (·.isTrue "done")

/-- The last `job_id` of some events. -/
def lastJobId (events : List HandlerEvent) : Option String := (events.filterMap (·.str? "job_id")).getLast?

/-- The text the events bring. -/
def replyOf (events : List HandlerEvent) : String :=
  String.join (events.map fun event => (event.str? "token").getD "")

section Observations

variable {commands more : List StreamCommand} {event : HandlerEvent} {rest : List HandlerEvent}

@[simp] theorem received_append : received (commands ++ more) = received commands ++ received more := by
  simp [received]

@[simp] theorem cancelCalls_append : cancelCalls (commands ++ more) = cancelCalls commands ++ cancelCalls more := by
  simp [cancelCalls]

@[simp] theorem turns_append : turns (commands ++ more) = turns commands ++ turns more := by
  simp [turns]

@[simp] theorem doneYielded_append :
    doneYielded (commands ++ more) = (doneYielded commands || doneYielded more) := by
  simp [doneYielded]

@[simp] theorem lastJobId_nil : lastJobId [] = none := rfl

theorem lastJobId_cons : lastJobId (event :: rest) = (lastJobId rest).or (event.str? "job_id") := by
  unfold lastJobId
  cases named : event.str? "job_id" with
  | none => simp [named]
  | some jobId =>
      simp only [List.filterMap_cons, named, List.getLast?_cons]
      cases (rest.filterMap (·.str? "job_id")).getLast? <;> rfl

@[simp] theorem replyOf_nil : replyOf [] = "" := rfl

theorem replyOf_cons : replyOf (event :: rest) = (event.str? "token").getD "" ++ replyOf rest := by
  simp only [replyOf, List.map_cons, String.join_cons]

end Observations

/-! ## The loop -/

/-- `json.dumps` encodes the event. -/
def serializable (event : HandlerEvent) : Bool := event.entries.all fun entry => entry.2 matches .json _

/-- The events the loop takes: up to the first that says `done` or cannot be encoded. -/
def takenEvents : List HandlerItem → List HandlerEvent
  | [] => []
  | item :: rest =>
      if serializable item.toEvent && !item.toEvent.isTrue "done" then item.toEvent :: takenEvents rest
      else [item.toEvent]

/-- The events the loop yields, as long as nobody stops it. -/
def sendableEvents (items : List HandlerItem) : List HandlerEvent := (takenEvents items).filter serializable

theorem takenEvents_cons (item : HandlerItem) (rest : List HandlerItem) :
    ∃ later, takenEvents (item :: rest) = item.toEvent :: later := by
  rw [takenEvents]
  split
  · exact ⟨_, rfl⟩
  · exact ⟨[], rfl⟩

/-- What the loop raises, as long as nobody closes it at a `yield`. -/
def raisedInLoop : List HandlerItem → Option Raised → Option Raised
  | [], ending => ending
  | item :: rest, ending =>
      if !serializable item.toEvent then some (.exception unserializable)
      else if item.toEvent.isTrue "done" then none
      else raisedInLoop rest ending

theorem sseData_eq (payload : List (String × Value)) :
    sseData payload = if payload.all (fun entry => entry.2 matches .json _) then
      .ok (payload.filterMap fun entry => match entry.2 with
        | .json value => some (entry.1, value)
        | .notSerializable => none) else .error unserializable := by
  induction payload with
  | nil => rfl
  | cons entry rest ih =>
      obtain ⟨name, value⟩ := entry
      unfold sseData at ih ⊢
      cases value with
      | notSerializable => rfl
      | json value =>
          rw [List.mapM_cons, ih]
          by_cases encodes : (rest.all fun entry => entry.2 matches .json _) = true
          · simp [encodes]
            rfl
          · simp [encodes]
            rfl

theorem labelled_encoded {event : HandlerEvent} (encodes : serializable event = true) (mode : Mode) :
    ∃ payload, sseData (labelled mode event) = .ok payload := by
  rw [sseData_eq, if_pos (by simpa [labelled, serializable] using encodes)]
  exact ⟨_, rfl⟩

theorem labelled_refused {event : HandlerEvent} (refuses : serializable event = false) (mode : Mode) :
    sseData (labelled mode event) = .error unserializable := by
  rw [sseData_eq, if_neg (by simpa [labelled, serializable] using refuses)]

/-- How the loop is left. -/
inductive LoopEnd (s : StreamLocals) (w : Surroundings) (items : List HandlerItem) (ending : Option Raised)
    (run : Stopping) : Prop where
  /-- Closed at the `yield` of this event. -/
  | closed {n event} (closes : w.closesAt = some (w.yields + n)) (sent : (sendableEvents items)[n]? = some event)
      (got : received run.commands = (takenEvents items).take (n + 1))
      (saysDone : doneYielded run.commands = event.isTrue "done") (out : run.value.1 = .error .generatorExit)
  | raised {error} (stays : ∀ n < (sendableEvents items).length, w.closesAt ≠ some (w.yields + n))
      (got : received run.commands = takenEvents items)
      (yields : run.world.yields = w.yields + (sendableEvents items).length)
      (raises : raisedInLoop items ending = some error) (going : doneYielded run.commands = false)
      (out : run.value.1 = .error (.raised error))
  | finished (stays : ∀ n < (sendableEvents items).length, w.closesAt ≠ some (w.yields + n))
      (got : received run.commands = takenEvents items)
      (yields : run.world.yields = w.yields + (sendableEvents items).length)
      (raises : raisedInLoop items ending = none)
      (doneSent : run.value.2.doneSent = (s.doneSent || doneYielded run.commands)) (out : run.value.1 = .ok ())

/-- What the loop does from these locals on. -/
structure Loop (s : StreamLocals) (w : Surroundings) (items : List HandlerItem) (ending : Option Raised)
    (run : Stopping) : Prop where
  job : run.value.2.activeJobId = (lastJobId (received run.commands)).or s.activeJobId
  reply : run.value.2.assistantReply = s.assistantReply ++ replyOf (received run.commands)
  noTurn : turns run.commands = []
  noCancel : cancelCalls run.commands = []
  consumer : run.world.closesAt = w.closesAt
  ends : LoopEnd s w items ending run

section Alone

variable {s : StreamLocals} {w : Surroundings}

theorem yieldEvent_alone (site : YieldSite) (event : Dict) :
    (yieldEvent site event).alone generatorMachine () s w =
      some ⟨[.yield site event], { w with yields := w.yields + 1 },
        if w.closesAt = some w.yields then .error .generatorExit else .ok (), s⟩ := by
  rw [yieldEvent, Routine.alone_bind_ok (Routine.alone_issue rfl)]
  by_cases closes : w.closesAt = some w.yields
  · simp only [closes, if_true]
    rfl
  · simp only [closes, if_false]
    rfl

/-- The commands of one turn of the loop. -/
def turnOf (event : HandlerEvent) (payload : Dict) : List StreamCommand :=
  [StreamCommand.receive event, StreamCommand.activeMode, StreamCommand.yield .handlerEvent payload]

/-- One event, and the loop goes on. -/
theorem Loop.next {item : HandlerItem} {rest : List HandlerItem} {ending : Option Raised} {payload : Dict}
    {run : Stopping} (encodes : serializable item.toEvent = true) (going : item.toEvent.isTrue "done" = false)
    (agrees : payload.isTrue "done" = item.toEvent.isTrue "done") (stays : w.closesAt ≠ some w.yields)
    (loop : Loop (s.receive item.toEvent) { w with looks := w.looks + 1, yields := w.yields + 1 } rest ending run) :
    Loop s w (item :: rest) ending (run.after (turnOf item.toEvent payload)) := by
  have gets : received (run.after (turnOf item.toEvent payload)).commands =
      item.toEvent :: received run.commands := rfl
  have quiet : doneYielded (turnOf item.toEvent payload) = false := by
    simp [turnOf, doneYielded, StreamCommand.yielded?, agrees, going]
  have sameDone : doneYielded (run.after (turnOf item.toEvent payload)).commands = doneYielded run.commands := by
    rw [Ending.after, doneYielded_append, quiet, Bool.false_or]
  have taken : takenEvents (item :: rest) = item.toEvent :: takenEvents rest := by
    simp [takenEvents, encodes, going]
  have sendable : sendableEvents (item :: rest) = item.toEvent :: sendableEvents rest := by
    simp [sendableEvents, taken, encodes]
  have raises : raisedInLoop (item :: rest) ending = raisedInLoop rest ending := by
    simp [raisedInLoop, encodes, going]
  constructor
  · rw [gets, lastJobId_cons, Option.or_assoc]
    exact loop.job
  · rw [gets, replyOf_cons, ← String.append_assoc]
    exact loop.reply
  · exact loop.noTurn
  · exact loop.noCancel
  · exact loop.consumer
  · have later : (∀ n < (sendableEvents rest).length, w.closesAt ≠ some (w.yields + 1 + n)) →
        ∀ n < (sendableEvents (item :: rest)).length, w.closesAt ≠ some (w.yields + n) := by
      intro open' n bound
      cases n with
      | zero => exact stays
      | succ n =>
          rw [sendable, List.length_cons] at bound
          have := open' n (by omega)
          rwa [Nat.add_assoc, Nat.add_comm 1 n] at this
    cases loop.ends with
    | @closed n event closes sent got saysDone out =>
        refine .closed (n := n + 1) (by rw [closes]; congr 1; dsimp only; omega) ?_ ?_ (sameDone.trans saysDone) out
        · rw [sendable, List.getElem?_cons_succ, sent]
        · rw [gets, taken, got, List.take_succ_cons]
    | raised open' got yields raised going out =>
        refine .raised (later open') (by rw [gets, taken, got]) ?_ (raises.trans raised) (sameDone.trans going) out
        rw [sendable, List.length_cons]
        exact yields.trans (by dsimp only; omega)
    | finished open' got yields raised doneSent out =>
        refine .finished (later open') (by rw [gets, taken, got]) ?_ (raises.trans raised) ?_ out
        · rw [sendable, List.length_cons]
          exact yields.trans (by dsimp only; omega)
        · rw [sameDone]
          exact doneSent

/-- The loop is left at its first event. -/
theorem Loop.last {item : HandlerItem} {rest : List HandlerItem} {ending : Option Raised} {run : Stopping}
    (got : received run.commands = [item.toEvent]) (job : run.value.2.activeJobId = (s.receive item.toEvent).activeJobId)
    (reply : run.value.2.assistantReply = (s.receive item.toEvent).assistantReply) (noTurn : turns run.commands = [])
    (noCancel : cancelCalls run.commands = []) (consumer : run.world.closesAt = w.closesAt)
    (ends : LoopEnd s w (item :: rest) ending run) : Loop s w (item :: rest) ending run where
  job := by rw [got, job, lastJobId_cons]; rfl
  reply := by rw [got, reply, replyOf_cons, replyOf_nil, String.append_empty]; rfl
  noTurn := noTurn
  noCancel := noCancel
  consumer := consumer
  ends := ends

theorem forwardItems_alone (items : List HandlerItem) (ending : Option Raised) :
    ∃ run, (forwardItems items ending).alone generatorMachine () s w = some run ∧ Loop s w items ending run := by
  induction items generalizing s w with
  | nil =>
      cases ending with
      | none =>
          refine ⟨_, Routine.alone_pure, rfl, (String.append_empty).symm, rfl, rfl, rfl, .finished ?_ rfl rfl rfl ?_ rfl⟩
          · intro n bound
            cases bound
          · simp [doneYielded]
      | some error =>
          refine ⟨_, Routine.alone_throw, rfl, (String.append_empty).symm, rfl, rfl, rfl, .raised ?_ rfl rfl rfl rfl rfl⟩
          intro n bound
          cases bound
  | cons item rest ih =>
      have first : (forwardItems (item :: rest) ending).alone generatorMachine () s w =
          ((do
            let payload ← encoded (labelled (w.modes w.looks) item.toEvent)
            yieldEvent .handlerEvent payload
            if item.toEvent.isTrue "done" then Routine.modify ({ · with doneSent := true })
            else forwardItems rest ending : GeneratorM Unit).alone generatorMachine () (s.receive item.toEvent)
              { w with looks := w.looks + 1 }).map
            (Ending.after [StreamCommand.receive item.toEvent, StreamCommand.activeMode]) := by
        rw [forwardItems, Routine.alone_bind_ok (Routine.alone_issue rfl), Routine.alone_bind_ok Routine.alone_modify,
          activeMode, Routine.alone_bind_ok (Routine.alone_issue rfl)]
        simp
      cases encodes : serializable item.toEvent with
      | false =>
          have refused := labelled_refused encodes (w.modes w.looks)
          rw [encoded, refused, Routine.alone_bind_error Routine.alone_throw] at first
          have taken : takenEvents (item :: rest) = [item.toEvent] := by simp [takenEvents, encodes]
          have sendable : sendableEvents (item :: rest) = [] := by simp [sendableEvents, taken, encodes]
          refine ⟨_, first, .last rfl rfl rfl rfl rfl rfl (.raised ?_ taken.symm ?_ ?_ rfl rfl)⟩
          · simp [sendable]
          · simp [sendable, Ending.after]
          · simp [raisedInLoop, encodes]
      | true =>
          obtain ⟨payload, tagged⟩ := labelled_encoded encodes (w.modes w.looks)
          have agrees : payload.isTrue "done" = item.toEvent.isTrue "done" := Tagged.isTrue tagged
          rw [encoded, tagged, Routine.alone_bind_ok Routine.alone_pure] at first
          by_cases closes : w.closesAt = some w.yields
          · have shut := yieldEvent_alone (s := s.receive item.toEvent) (w := { w with looks := w.looks + 1 })
              .handlerEvent payload
            rw [if_pos closes] at shut
            rw [Routine.alone_bind_error shut] at first
            obtain ⟨later, taken⟩ := takenEvents_cons item rest
            have sent : (sendableEvents (item :: rest))[0]? = some item.toEvent := by
              simp [sendableEvents, taken, encodes]
            refine ⟨_, first, .last rfl rfl rfl rfl rfl rfl (.closed (n := 0) closes sent ?_ ?_ rfl)⟩
            · rw [taken]
              rfl
            · simp [Ending.after, doneYielded, StreamCommand.yielded?, agrees]
          · have resumed := yieldEvent_alone (s := s.receive item.toEvent) (w := { w with looks := w.looks + 1 })
              .handlerEvent payload
            rw [if_neg closes] at resumed
            rw [Routine.alone_bind_ok resumed] at first
            cases done : item.toEvent.isTrue "done" with
            | true =>
                rw [done, if_pos rfl, Routine.alone_modify] at first
                have taken : takenEvents (item :: rest) = [item.toEvent] := by simp [takenEvents, done]
                have sendable : sendableEvents (item :: rest) = [item.toEvent] := by
                  simp [sendableEvents, taken, encodes]
                refine ⟨_, first, .last rfl rfl rfl rfl rfl rfl (.finished ?_ taken.symm ?_ ?_ ?_ rfl)⟩
                · simpa [sendable] using closes
                · simp [sendable, Ending.after]
                · simp [raisedInLoop, encodes, done]
                · simp [Ending.after, doneYielded, StreamCommand.yielded?, agrees, done]
            | false =>
                rw [done, if_neg Bool.false_ne_true] at first
                obtain ⟨run, runs, loop⟩ := ih (s := s.receive item.toEvent)
                  (w := { w with looks := w.looks + 1, yields := w.yields + 1 })
                rw [runs] at first
                exact ⟨_, first, loop.next encodes done agrees closes⟩

end Alone

/-! ## The whole generator -/

/-- Before `done` has been yielded the job is to be cancelled, afterwards the reply is to
    be in memory. -/
def Settled (message : String) (commands : List StreamCommand) : Prop :=
  (doneYielded commands = false → ∀ jobId, lastJobId (received commands) = some jobId → cancelCalls commands = [jobId]) ∧
  (doneYielded commands = true → replyOf (received commands) ≠ "" →
    (message, replyOf (received commands)) ∈ turns commands)

/-- The event at whose `yield` the consumer closes the generator, with its position. -/
def closedEvent (items : List HandlerItem) (closesAt : Option Nat) : Option (Nat × HandlerEvent) :=
  closesAt.bind fun n => (sendableEvents items)[n]?.map fun event => (n, event)

/-- Wherever the generator is stopped, nothing is left to settle: it is closed at its final
    event before any text has come, or at another before any job; it is cancelled when a job
    that is known is cancelled with it; or it fails before any text has come. -/
def Mends (outcome : StreamOutcome) (closesAt : Option Nat) : Prop :=
  let taken := takenEvents outcome.items
  match closedEvent outcome.items closesAt with
  | some (n, event) =>
      if event.isTrue "done" then replyOf (taken.take (n + 1)) = "" else lastJobId (taken.take (n + 1)) = none
  | none =>
      match raisedInLoop outcome.items outcome.ending with
      | some .cancelled => lastJobId taken ≠ some ""
      | some _ => replyOf taken = ""
      | none => True

section Alone

variable {s : StreamLocals} {w : Surroundings} {closesAt : Option Nat}

theorem cancelActiveJob_alone :
    ∃ out, cancelActiveJob.alone generatorMachine () s w =
      some ⟨(s.activeJobId.filter (· ≠ "")).toList.map StreamCommand.cancelJob, w, out, s⟩ := by
  rw [cancelActiveJob, Routine.alone_bind_ok Routine.alone_get]
  cases active : s.activeJobId with
  | none => exact ⟨_, rfl⟩
  | some jobId =>
      by_cases empty : jobId = ""
      · subst empty
        exact ⟨_, rfl⟩
      · have kept : (some jobId).filter (· ≠ "") = some jobId := by simp [empty]
        simp only [ne_eq, empty, not_false_eq_true, if_true]
        rw [kept, Routine.alone_bind_ok (Routine.alone_issue rfl)]
        cases called : w.cancelJob jobId with
        | ok _ => exact ⟨_, rfl⟩
        | error error => cases error <;> exact ⟨_, rfl⟩

/-- A reply that has a text is remembered before the last event is yielded. -/
theorem finishReply_alone (message : String) :
    ∃ w' out, (finishReply message).alone generatorMachine () s w =
      some ⟨(if s.assistantReply = "" then [] else [StreamCommand.addTurn message s.assistantReply]) ++
        (if s.doneSent then [] else [StreamCommand.activeMode, StreamCommand.yield .closing (doneEvent (w.modes w.looks))]),
        w', out, s⟩ ∧ (out = .ok () ∨ s.doneSent = false ∧ out = .error .generatorExit) := by
  have shut := fun looked => yieldEvent_alone (s := s) (w := looked) .closing (doneEvent (w.modes w.looks))
  rw [finishReply, Routine.alone_bind_ok Routine.alone_get]
  by_cases empty : s.assistantReply = "" <;> cases sent : s.doneSent
  all_goals
    simp only [empty, ne_eq, not_true_eq_false, not_false_eq_true, if_true, if_false, Bool.not_true,
      Bool.not_false, Bool.false_eq_true]
  · rw [activeMode, Routine.alone_bind_ok (Routine.alone_issue rfl), shut]
    refine ⟨_, _, rfl, ?_⟩
    split <;> simp
  · exact ⟨_, _, rfl, .inl rfl⟩
  · rw [addTurn, Routine.alone_bind_ok (Routine.alone_issue rfl), activeMode,
      Routine.alone_bind_ok (Routine.alone_issue rfl), shut]
    refine ⟨_, _, rfl, ?_⟩
    split <;> simp
  · exact ⟨_, _, rfl, .inl rfl⟩

theorem streamModeResponse_alone (message : String) (answer : ModeResponse) :
    ∃ commands w' out, (streamModeResponse message answer).alone generatorMachine () s w =
      some ⟨commands, w', out, s⟩ ∧ received commands = [] := by
  rw [streamModeResponse, addTurn, Routine.alone_bind_ok (Routine.alone_issue rfl)]
  have token := yieldEvent_alone (s := s) (w := w) .modeResponse (tokenEvent answer.mode answer.response)
  by_cases closes : w.closesAt = some w.yields
  · rw [if_pos closes] at token
    rw [Routine.alone_bind_error token]
    exact ⟨_, _, _, rfl, rfl⟩
  · rw [if_neg closes] at token
    rw [Routine.alone_bind_ok token, yieldEvent_alone]
    exact ⟨_, _, _, rfl, rfl⟩

/-- A handler without a stream answers before anything is yielded. -/
theorem handled_alone {handler : ModeHandler} {request : ChatCommand} {history : String} {outcome : StreamOutcome}
    (silent : handler.streams = false) :
    ∃ commands w' out, (answerEvents handler request history outcome).alone generatorMachine () s w =
      some ⟨commands, w', out, s⟩ ∧ received commands = [] := by
  rw [answerEvents, silent]
  simp only [Bool.not_false, if_true]
  have asked : (Routine.issue (S := streamSignature) (.handle request.message history) : GeneratorM _).alone
      generatorMachine () s w = some ⟨[StreamCommand.handle request.message history], w, .ok w.handle, s⟩ :=
    Routine.alone_issue rfl
  rw [Routine.alone_bind_ok asked]
  cases w.handle with
  | ok answer =>
      obtain ⟨commands, w', out, answers, nothing⟩ := streamModeResponse_alone (s := s) (w := w) request.message answer
      exact ⟨_, _, _, congrArg (Option.map _) answers, nothing⟩
  | error error => exact ⟨_, _, _, rfl, rfl⟩

theorem handled_received {handler : ModeHandler} {request : ChatCommand} {history : String} {outcome : StreamOutcome}
    {run : Stopping} (silent : handler.streams = false)
    (runs : (streamHandlerResponse handler request history outcome).alone generatorMachine () {} w = some run) :
    received run.commands = [] := by
  obtain ⟨commands, w', out, answers, nothing⟩ := @handled_alone {} w handler request history outcome silent
  rw [streamHandlerResponse] at runs
  cases out with
  | ok _ =>
      rw [Routine.alone_tryCatch_ok answers] at runs
      obtain rfl := Option.some.inj runs
      exact nothing
  | error thrown =>
      rw [Routine.alone_tryCatch_error answers] at runs
      obtain ⟨rest, ends, rfl⟩ := Option.map_eq_some_iff.mp runs
      have quiet : received rest.commands = [] := by
        cases thrown with
        | generatorExit =>
            obtain rfl := Option.some.inj ends
            rfl
        | raised error =>
            cases error with
            | cancelled =>
                obtain rfl := Option.some.inj ends
                rfl
            | api _ | exception _ =>
                simp only [yieldEvent_alone] at ends
                obtain rfl := Option.some.inj ends
                rfl
      rw [Ending.after, received_append, nothing, quiet]
      rfl

theorem Settled.of_none {message : String} {commands : List StreamCommand} (nothing : received commands = []) :
    Settled message commands := by
  constructor
  · intro _ jobId found
    rw [nothing] at found
    cases found
  · intro _ replied
    rw [nothing] at replied
    exact absurd rfl replied

/-- Nothing has been done but to receive and to yield. -/
theorem settled_iff {message : String} {commands : List StreamCommand} (noTurn : turns commands = [])
    (noCancel : cancelCalls commands = []) :
    Settled message commands ↔
      if doneYielded commands then replyOf (received commands) = "" else lastJobId (received commands) = none := by
  rw [Settled, noTurn, noCancel]
  cases doneYielded commands with
  | true => simp
  | false => simp [Option.eq_none_iff_forall_ne_some]

theorem settled_closed {message text : String} {mode : Mode} {commands : List StreamCommand}
    (reply : text = replyOf (received commands)) :
    Settled message (commands ++ ((if text = "" then [] else [StreamCommand.addTurn message text]) ++
      [StreamCommand.activeMode, StreamCommand.yield .closing (doneEvent mode)])) := by
  subst reply
  have gets : received ((if replyOf (received commands) = "" then []
      else [StreamCommand.addTurn message (replyOf (received commands))]) ++
      [StreamCommand.activeMode, StreamCommand.yield .closing (doneEvent mode)]) = [] := by
    split <;> rfl
  have done : doneYielded [StreamCommand.activeMode, StreamCommand.yield .closing (doneEvent mode)] = true := rfl
  constructor
  · intro going
    rw [doneYielded_append, doneYielded_append, done, Bool.or_true, Bool.or_true] at going
    cases going
  · intro _ replied
    rw [received_append, gets, List.append_nil] at replied ⊢
    rw [if_neg replied, turns_append, turns_append]
    simp [turns, StreamCommand.turn?]

@[simp] theorem received_cancelJobs (jobIds : List String) : received (jobIds.map .cancelJob) = [] := by
  induction jobIds with
  | nil => rfl
  | cons _ _ ih => exact ih

@[simp] theorem doneYielded_cancelJobs (jobIds : List String) : doneYielded (jobIds.map .cancelJob) = false := by
  induction jobIds with
  | nil => rfl
  | cons _ _ ih => exact ih

@[simp] theorem cancelCalls_cancelJobs (jobIds : List String) : cancelCalls (jobIds.map .cancelJob) = jobIds := by
  induction jobIds with
  | nil => rfl
  | cons jobId _ ih => exact congrArg (jobId :: ·) ih

theorem settled_cancelled {message : String} {commands : List StreamCommand}
    (noCancel : cancelCalls commands = []) (going : doneYielded commands = false) :
    Settled message (commands ++ ((lastJobId (received commands)).filter (· ≠ "")).toList.map .cancelJob) ↔
      lastJobId (received commands) ≠ some "" := by
  simp only [Settled, received_append, received_cancelJobs, List.append_nil, doneYielded_append, doneYielded_cancelJobs,
    going, cancelCalls_append, cancelCalls_cancelJobs, noCancel, List.nil_append, Bool.or_false, Bool.false_eq_true,
    false_implies, and_true, forall_const]
  cases lastJobId (received commands) with
  | none => simp
  | some jobId => by_cases empty : jobId = "" <;> simp [empty]

theorem settled_failed {message : String} {commands : List StreamCommand} (noTurn : turns commands = [])
    (noCancel : cancelCalls commands = []) :
    Settled message (commands ++ [StreamCommand.yield .failure streamFailedEvent]) ↔ replyOf (received commands) = "" := by
  have gets : received (commands ++ [StreamCommand.yield .failure streamFailedEvent]) = received commands := by
    rw [received_append]
    exact List.append_nil _
  have done : doneYielded (commands ++ [StreamCommand.yield .failure streamFailedEvent]) = true := by
    rw [doneYielded_append]
    exact Bool.or_true _
  rw [settled_iff (by rw [turns_append, noTurn]; rfl) (by rw [cancelCalls_append, noCancel]; rfl), done, gets, if_pos rfl]

theorem closedEvent_none {items : List HandlerItem}
    (stays : ∀ k < (sendableEvents items).length, closesAt ≠ some (0 + k)) : closedEvent items closesAt = none := by
  cases closesAt with
  | none => rfl
  | some n =>
      have beyond : (sendableEvents items).length ≤ n := by
        by_contra within
        exact stays n (by omega) (by rw [Nat.zero_add])
      rw [closedEvent, Option.bind_some, List.getElem?_eq_none beyond]
      rfl

end Alone

theorem abandoned_stream_settled {handler : ModeHandler} {request : ChatCommand} {history : String}
    {outcome : StreamOutcome} {modes : Nat → Mode} {closesAt : Option Nat} {cancelJob : String → Except Raised Unit}
    {handle : Except Raised ModeResponse} {run : Stopping} {thrown : Thrown}
    (runs : (streamHandlerResponse handler request history outcome).alone generatorMachine () {}
      { modes, closesAt, cancelJob, handle } = some run)
    (stopped : run.value.1 = .error thrown) :
    Settled request.message run.commands ↔ (handler.streams = true → Mends outcome closesAt) := by
  cases streams : handler.streams with
  | false => exact ⟨fun _ impossible => (Bool.false_ne_true impossible).elim,
      fun _ => .of_none (handled_received streams runs)⟩
  | true =>
      rw [streamHandlerResponse, answerEvents, streams] at runs
      simp only [Bool.not_true, Bool.false_eq_true, if_false, forall_const] at runs ⊢
      obtain ⟨loopRun, looped, loop⟩ := forwardItems_alone (s := {}) (w := { modes, closesAt, cancelJob, handle })
        outcome.items outcome.ending
      obtain ⟨commands, world, out, locals⟩ := loopRun
      obtain ⟨job, reply, noTurn, noCancel, consumer, ends⟩ := loop
      cases ends with
      | @closed n event closes sent got saysDone left =>
          dsimp only at closes got saysDone left noTurn noCancel
          subst left
          rw [Nat.zero_add] at closes
          have here : closedEvent outcome.items closesAt = some (n, event) := by
            rw [closedEvent, closes, Option.bind_some, sent]
            rfl
          rw [Routine.alone_tryCatch_error (Routine.alone_bind_error looped), Routine.alone_throw] at runs
          obtain rfl := Option.some.inj runs
          simp only [Ending.after, List.append_nil]
          rw [settled_iff noTurn noCancel, saysDone, got, Mends, here]
      | @raised error stays got yields raises going left =>
          dsimp only at job got going left noTurn noCancel
          subst left
          rw [Routine.alone_tryCatch_error (Routine.alone_bind_error looped)] at runs
          rw [Mends, closedEvent_none stays, raises]
          cases error with
          | cancelled =>
              obtain ⟨cancelOut, cancels⟩ := cancelActiveJob_alone (s := locals) (w := world)
              have stops : run.commands =
                  commands ++ (locals.activeJobId.filter (· ≠ "")).toList.map StreamCommand.cancelJob := by
                cases cancelOut with
                | ok _ =>
                    rw [Routine.alone_bind_ok cancels, Routine.alone_throw] at runs
                    obtain rfl := Option.some.inj runs
                    simp [Ending.after]
                | error _ =>
                    rw [Routine.alone_bind_error cancels] at runs
                    obtain rfl := Option.some.inj runs
                    rfl
              rw [stops, job, Option.or_none, ← got]
              exact settled_cancelled noCancel going
          | api error | exception error =>
              simp only [yieldEvent_alone] at runs
              obtain rfl := Option.some.inj runs
              simp only [Ending.after]
              rw [settled_failed noTurn noCancel, got]
      | finished stays got yields raises doneSent left =>
          dsimp only at reply got doneSent left noTurn noCancel
          subst left
          rw [Mends, closedEvent_none stays, raises, iff_true]
          obtain ⟨_, out, finishes, returned | ⟨unsent, shut⟩⟩ :=
            finishReply_alone (s := locals) (w := world) request.message
          all_goals
            have body := Routine.alone_bind_ok (f := fun _ => finishReply request.message) looped
            rw [finishes] at body
          · rw [returned] at body
            rw [Routine.alone_tryCatch_ok body] at runs
            obtain rfl := Option.some.inj runs
            cases stopped
          · rw [shut] at body
            rw [Routine.alone_tryCatch_error body, Routine.alone_throw] at runs
            obtain rfl := Option.some.inj runs
            simp only [Ending.after, List.append_nil, unsent, Bool.false_eq_true, if_false]
            exact settled_closed (reply.trans String.empty_append)

/-! ## A stream closed at its first event -/

/-- The first event of the queue names its job. -/
def queuedItem : HandlerItem := .event
  { entries := [("type", .json (.str "queued")), ("job_id", .json (.str "1a7b"))]
    distinct := by decide
    unlabelled := by decide }

/-- The consumer goes away at that event. -/
def leavingConsumer : Surroundings where
  modes := fun _ => .translation
  closesAt := some 0
  cancelJob := fun _ => .ok ()
  handle := .error .cancelled

def leftStream : Option Stopping :=
  (streamHandlerResponse (TranslationHandler demoPydantic) { message := "hello" } "" ⟨[queuedItem], none⟩).alone
    generatorMachine () {} leavingConsumer

theorem abandoned_stream_settled_demo : ∃ run, leftStream = some run ∧
    (Settled "hello" run.commands ↔ (true = true → Mends ⟨[queuedItem], none⟩ (some 0))) :=
  ⟨_, rfl, @abandoned_stream_settled (TranslationHandler demoPydantic) { message := "hello" } "" ⟨[queuedItem], none⟩
    (fun _ => .translation) (some 0) (fun _ => .ok ()) (.error .cancelled) _ .generatorExit rfl rfl⟩

/-- No `done` has been yielded, and the job that was named keeps running. -/
theorem abandoned_stream_unsettled : ∃ run, leftStream = some run ∧ run.value.1 = .error .generatorExit ∧
    ¬ Settled "hello" run.commands := by
  refine ⟨_, rfl, rfl, fun settled => ?_⟩
  have cancelled : ([] : List String) = ["1a7b"] := settled.1 rfl "1a7b" rfl
  cases cancelled

end LanguageAgent.Agent.Abandoned
