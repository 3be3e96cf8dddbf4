import LanguageAgent.Queue.EventLog

/-! # Reading a job's stream

`stream_llm_events`: the loop over `xread`, one answer after the other, until an event
ends the job or the deadline passes. The entries of a stream are numbered from one, and
`"0-0"` stands before them all.
-/

namespace LanguageAgent.Queue

/-- What one `xread` returned, and the loop's clock when that is handled. -/
structure XreadReply where
  records : List (Dict × Nat)
  time : Timestamp

inductive ReaderEnd where
  | reading
  | finished
  | timedOut
  deriving DecidableEq, Repr

structure Reader where
  lastId : Nat := 0
  deadline : Timestamp
  yielded : List Dict := []
  ending : ReaderEnd := .reading

namespace Reader

/-- Yield the events of one answer, and return at the first that ends the job. -/
def yieldEvents (r : Reader) : List (Dict × Nat) → Reader
  | [] => r
  | (event, id) :: rest =>
      let r := { r with lastId := id, yielded := r.yielded ++ [event] }
      if isTerminalEvent event then { r with ending := .finished } else r.yieldEvents rest

/-- One turn of the loop. -/
def receive (timeout : Timestamp) (r : Reader) (reply : XreadReply) : Reader :=
  match r.ending with
  | .reading =>
      if reply.records.isEmpty then
        if reply.time ≥ r.deadline then { r with ending := .timedOut } else r
      else { r with deadline := reply.time + timeout }.yieldEvents reply.records
  | .finished | .timedOut => r

end Reader

def streamLlmEvents (start timeout : Timestamp) (replies : List XreadReply) : Reader :=
  replies.foldl (Reader.receive timeout) { deadline := start + timeout }

/-! ## What Redis answers -/

/-- The entries of a stream after an id. -/
def entriesAfter (stream : List Dict) (lastId : Nat) : List (Dict × Nat) :=
  (stream.zipIdx 1).drop lastId

/-- Each answer holds nothing or the next entries, twenty at most, of a stream that has
    by the end become this one. -/
def Served (stream : List Dict) (timeout : Timestamp) : Reader → List XreadReply → Prop
  | _, [] => True
  | r, reply :: rest =>
      (∃ count ≤ 20, reply.records = (entriesAfter stream r.lastId).take count) ∧
        Served stream timeout (r.receive timeout reply) rest

/-! ## What the reader has yielded -/

/-- The reader has yielded the stream up to its id, and has stopped at the end of the job. -/
structure Reader.Follows (stream : List Dict) (r : Reader) : Prop where
  yielded : r.yielded = stream.take r.lastId
  within : r.lastId ≤ stream.length
  stops : r.ending = .finished → ∃ before final, r.yielded = before ++ [final] ∧
    isTerminalEvent final = true ∧ ∀ event ∈ before, isTerminalEvent event = false
  goesOn : r.ending ≠ .finished → ∀ event ∈ r.yielded, isTerminalEvent event = false

section Reading

variable {stream : List Dict} {timeout : Timestamp} {r : Reader}

theorem entriesAfter_cons {lastId id : Nat} {event : Dict} {rest : List (Dict × Nat)}
    (entries : entriesAfter stream lastId = (event, id) :: rest) :
    stream[lastId]? = some event ∧ id = lastId + 1 ∧ rest = entriesAfter stream (lastId + 1) := by
  have head : (stream.zipIdx 1)[lastId]? = some (event, id) := by
    rw [← List.head?_drop]
    exact congrArg List.head? entries
  have tail : rest = entriesAfter stream (lastId + 1) := by
    have := congrArg List.tail entries
    rw [entriesAfter, List.tail_drop] at this
    exact this.symm
  rw [List.getElem?_zipIdx] at head
  obtain ⟨event', found, same⟩ := Option.map_eq_some_iff.mp head
  cases same
  exact ⟨found, Nat.add_comm 1 lastId, tail⟩

/-- Events handed out in order keep what the reader has yielded in step with the stream. -/
theorem Reader.Follows.yieldEvents {records : List (Dict × Nat)} (follows : r.Follows stream)
    (reading : r.ending = .reading) {count : Nat}
    (served : records = (entriesAfter stream r.lastId).take count) :
    (r.yieldEvents records).Follows stream := by
  induction records generalizing r count with
  | nil => exact follows
  | cons entry rest ih =>
      obtain ⟨event, id⟩ := entry
      obtain ⟨yielded, within, _, goesOn⟩ := follows
      cases count with
      | zero => cases served
      | succ count =>
          cases entries : entriesAfter stream r.lastId with
          | nil => rw [entries] at served; cases served
          | cons first others =>
              rw [entries, List.take_succ_cons] at served
              cases served
              obtain ⟨found, rfl, rfl⟩ := entriesAfter_cons entries
              have next : r.yielded ++ [event] = stream.take (r.lastId + 1) := by
                rw [yielded, List.take_add_one, found]
                rfl
              have inside : r.lastId + 1 ≤ stream.length := by
                have := (List.getElem?_eq_some_iff.mp found).1
                omega
              unfold Reader.yieldEvents
              by_cases terminal : isTerminalEvent event = true
              · simp only [terminal, if_true]
                have earlier := goesOn (by rw [reading]; exact ReaderEnd.noConfusion)
                refine ⟨next, inside, fun _ => ⟨r.yielded, event, rfl, terminal, earlier⟩, fun going => ?_⟩
                exact absurd rfl going
              · simp only [terminal]
                refine ih ⟨next, inside, fun finished => ?_, fun _ other member => ?_⟩ reading rfl
                · cases reading.symm.trans finished
                · rcases List.mem_append.mp member with earlier | last
                  · exact goesOn (by rw [reading]; exact ReaderEnd.noConfusion) other earlier
                  · obtain rfl := List.mem_singleton.mp last
                    exact Bool.eq_false_iff.mpr terminal

theorem Reader.Follows.receive {reply : XreadReply} (follows : r.Follows stream) {count : Nat}
    (served : reply.records = (entriesAfter stream r.lastId).take count) :
    (r.receive timeout reply).Follows stream := by
  unfold Reader.receive
  split
  · rename_i reading
    split
    · split
      · exact ⟨follows.yielded, follows.within, fun finished => (by cases finished),
          fun _ => follows.goesOn (by rw [reading]; exact ReaderEnd.noConfusion)⟩
      · exact follows
    · exact Reader.Follows.yieldEvents ⟨follows.yielded, follows.within, follows.stops, follows.goesOn⟩
        reading served
  · exact follows
  · exact follows

/-- Whatever Redis answers and when, the reader follows the stream. -/
theorem streamLlmEvents_follows {start : Timestamp} {replies : List XreadReply}
    (served : Served stream timeout { deadline := start + timeout } replies) :
    (streamLlmEvents start timeout replies).Follows stream := by
  have run : ∀ (replies : List XreadReply) (r : Reader), r.Follows stream →
      Served stream timeout r replies → (replies.foldl (Reader.receive timeout) r).Follows stream := by
    intro replies
    induction replies with
    | nil => exact fun r follows _ => follows
    | cons reply rest ih =>
        intro r follows served
        obtain ⟨⟨count, _, records⟩, later⟩ := served
        exact ih _ (follows.receive records) later
  refine run replies _ ⟨rfl, Nat.zero_le _, fun finished => (by cases finished), ?_⟩ served
  intro _ event member
  cases member

/-- A reader that has returned has read a stream with a single end to that end. -/
theorem Reader.Follows.whole (follows : r.Follows stream) (finished : r.ending = .finished)
    (ends : EndsOnce stream) : r.yielded = stream := by
  obtain ⟨before, final, rfl, _, _, earlier⟩ := ends
  obtain ⟨shorter, last, yields, terminal, _⟩ := follows.stops finished
  have whole : (before ++ [final]).length ≤ r.lastId := by
    by_contra short
    have inside : r.lastId ≤ before.length := by
      simp only [List.length_append, List.length_cons, List.length_nil] at short
      omega
    have member : last ∈ before.take r.lastId := by
      have same : (before ++ [final]).take r.lastId = before.take r.lastId :=
        List.take_append_of_le_length inside
      rw [← same, ← follows.yielded, yields]
      exact List.mem_append_right _ (List.mem_singleton.mpr rfl)
    exact absurd ((earlier last (List.mem_of_mem_take member)).symm.trans terminal) Bool.false_ne_true
  rw [follows.yielded, List.take_of_length_le whole]

end Reading

end LanguageAgent.Queue
