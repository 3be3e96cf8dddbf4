import LanguageAgent.Queue.Phases

/-! # The event stream of a job

What a reader can tell of an event, and the shape of the whole stream: attempts, each
closed by an event that announces a retry or by the one that ends the job.
-/

namespace LanguageAgent

namespace Queue

/-! ## Events of the worker -/

section Events

variable {call : LLMCallJob} {extra : Dict}

theorem buildStreamEvent_status (absent : ∀ entry ∈ extra, entry.1 ≠ "status") :
    (buildStreamEvent call extra).str? "status" = some call.status.text := by
  rw [Dict.str?, buildStreamEvent, Dict.get?_update absent]
  rfl

theorem buildStreamEvent_done (absent : ∀ entry ∈ extra, entry.1 ≠ "done") :
    (buildStreamEvent call extra).isTrue "done" = false := by
  rw [Dict.isTrue, buildStreamEvent, Dict.get?_update absent]
  rfl

theorem buildStreamEvent_token (absent : ∀ entry ∈ extra, entry.1 ≠ "token") :
    (buildStreamEvent call extra).get? "token" = none := by
  rw [buildStreamEvent, Dict.get?_update absent]
  rfl

end Events

/-! ## The shape of the stream -/

/-- An event that announces a status and does not end the stream. -/
def announces (status : CallStatus) (event : Dict) : Prop :=
  event.str? "status" = some status.text ∧ event.isTrue "done" = false ∧ event.get? "token" = none

/-- An event that carries a token of the reply. -/
def carriesToken (event : Dict) : Prop :=
  event.str? "status" = some CallStatus.streaming.text ∧ event.isTrue "done" = false ∧
    ∃ token, event.str? "token" = some token

/-- An event that ends the stream. -/
def endsJob (event : Dict) : Prop :=
  event.isTrue "done" = true ∧
    ∃ status : CallStatus, status.isTerminal = true ∧ event.str? "status" = some status.text

/-- What one attempt appends before its last event. -/
inductive AttemptLog : List Dict → Prop where
  | unanswered {processing} (first : announces .processing processing) : AttemptLog [processing]
  | streamed {processing streaming tokens} (first : announces .processing processing)
      (second : announces .streaming streaming) (rest : ∀ event ∈ tokens, carriesToken event) :
      AttemptLog (processing :: streaming :: tokens)

/-- Attempts that were all retried. -/
inductive RetriedLog : List Dict → Prop where
  | start : RetriedLog []
  | again {earlier attempt retry} (before : RetriedLog earlier) (attempted : AttemptLog attempt)
      (retried : announces .queued retry) : RetriedLog (earlier ++ (attempt ++ [retry]))

/-- The whole stream after the job was announced. -/
inductive JobLog : List Dict → Prop where
  | last {attempt final} (attempted : AttemptLog attempt) (ended : endsJob final) :
      JobLog (attempt ++ [final])
  | retried {attempt retry rest} (attempted : AttemptLog attempt) (retried : announces .queued retry)
      (next : JobLog rest) : JobLog (attempt ++ retry :: rest)

/-- One event ends the stream, and it is the last. -/
def EndsOnce (log : List Dict) : Prop :=
  ∃ before final, log = before ++ [final] ∧ isTerminalEvent final = true ∧
    final.isTrue "done" = true ∧ ∀ event ∈ before, isTerminalEvent event = false

section Shape

variable {log earlier attempt rest : List Dict} {event : Dict} {status : CallStatus}

theorem not_terminal (open_ : status.isTerminal = false) (tells : event.str? "status" = some status.text)
    (notDone : event.isTrue "done" = false) : isTerminalEvent event = false := by
  cases status <;> first
    | exact absurd open_.symm Bool.false_ne_true
    | simp [isTerminalEvent, tells, notDone, CallStatus.text]

theorem announces.not_terminal (announced : announces status event) (live : status.isTerminal = false) :
    isTerminalEvent event = false := Queue.not_terminal live announced.1 announced.2.1

theorem carriesToken.not_terminal (token : carriesToken event) : isTerminalEvent event = false :=
  Queue.not_terminal rfl token.1 token.2.1

theorem endsJob.terminal (ended : endsJob event) : isTerminalEvent event = true := by
  simp [isTerminalEvent, ended.1]

theorem AttemptLog.open (attempted : AttemptLog attempt) :
    ∀ event ∈ attempt, isTerminalEvent event = false := by
  intro event member
  cases attempted with
  | unanswered first =>
      obtain rfl := List.mem_singleton.mp member
      exact first.not_terminal rfl
  | streamed first second tokens =>
      rcases List.mem_cons.mp member with rfl | member
      · exact first.not_terminal rfl
      rcases List.mem_cons.mp member with rfl | member
      · exact second.not_terminal rfl
      · exact (tokens event member).not_terminal

/-- What was retried may come before any stream. -/
theorem RetriedLog.job (retried : RetriedLog earlier) (job : JobLog rest) : JobLog (earlier ++ rest) := by
  induction retried generalizing rest with
  | start => exact job
  | again _ attempted retry ih =>
      rw [List.append_assoc, List.append_assoc]
      exact ih (.retried attempted retry job)

theorem JobLog.endsOnce (job : JobLog log) : EndsOnce log := by
  induction job with
  | @last attempt final attempted ended =>
      exact ⟨attempt, final, rfl, ended.terminal, ended.1, attempted.open⟩
  | @retried attempt retry rest attempted retried _ ih =>
      obtain ⟨before, final, rfl, terminal, done, fine⟩ := ih
      refine ⟨attempt ++ retry :: before, final, by simp, terminal, done, ?_⟩
      intro event member
      rcases List.mem_append.mp member with member | member
      · exact attempted.open event member
      rcases List.mem_cons.mp member with rfl | member
      · exact retried.not_terminal rfl
      · exact fine event member

end Shape

/-! ## Streams with one end -/

/-- Nothing follows an event that ends the job, so there is at most one. -/
def AtMostOneEnd (events : List Dict) : Prop :=
  ∀ before event after, events = before ++ event :: after → isTerminalEvent event = true → after = []

def OpenStream (events : List Dict) : Prop := ∀ event ∈ events, isTerminalEvent event = false

section Ends

variable {events more : List Dict}

theorem OpenStream.append (isOpen : OpenStream events) (fine : ∀ event ∈ more, isTerminalEvent event = false) :
    OpenStream (events ++ more) := by
  intro event member
  rcases List.mem_append.mp member with earlier | last
  · exact isOpen event earlier
  · exact fine event last

theorem OpenStream.atMostOneEnd (isOpen : OpenStream events) : AtMostOneEnd events := by
  intro before event after split terminal
  have member : event ∈ events := by
    rw [split]
    exact List.mem_append_right _ List.mem_cons_self
  exact absurd ((isOpen event member).symm.trans terminal) Bool.false_ne_true

theorem atMostOneEnd_of_final {before : List Dict} {final : Dict} (isOpen : OpenStream before) :
    AtMostOneEnd (before ++ [final]) := by
  intro earlier event after split terminal
  rcases List.eq_nil_or_concat after with rfl | ⟨shorter, last, rfl⟩
  · rfl
  · rw [List.concat_eq_append, ← List.cons_append, ← List.append_assoc] at split
    obtain ⟨rfl, _⟩ := List.append_inj' split rfl
    have := isOpen event (List.mem_append_right _ List.mem_cons_self)
    exact absurd (this.symm.trans terminal) Bool.false_ne_true

theorem AtMostOneEnd.countP_le {events : List Dict} (once : AtMostOneEnd events) :
    events.countP isTerminalEvent ≤ 1 := by
  by_cases ended : ∃ event ∈ events, isTerminalEvent event = true
  · obtain ⟨final, member, terminal⟩ := ended
    obtain ⟨before, after, rfl⟩ := List.append_of_mem member
    obtain rfl := once before final after rfl terminal
    have isOpen : before.countP isTerminalEvent = 0 := by
      apply List.countP_eq_zero.mpr
      intro event earlier terminal
      obtain ⟨start, rest, rfl⟩ := List.append_of_mem earlier
      have cut := once start event (rest ++ [final]) (by simp) terminal
      exact List.append_ne_nil_of_right_ne_nil _ (List.cons_ne_nil _ _) cut
    rw [List.countP_append, isOpen, Nat.zero_add]
    exact List.countP_le_length
  · have none := List.countP_eq_zero.mpr fun event member terminal => ended ⟨event, member, terminal⟩
    omega

end Ends

end Queue

end LanguageAgent
