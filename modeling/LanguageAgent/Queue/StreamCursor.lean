import LanguageAgent.Queue.StreamReader
import Mathlib.Logic.Relation

/-! # The stream reader, event by event

`stream_llm_events` as a generator that is resumed for each event, while other processes
append to the stream. The entry's id travels inside the event under `_stream_id` until the
event is yielded, so a key of that name is reserved.
-/

namespace LanguageAgent

namespace Dict

/-- `d.pop(key)`, without the value. -/
def pop (d : Dict) (key : String) : Dict := d.filter fun entry => entry.1 != key

def has (d : Dict) (key : String) : Bool := d.any fun entry => entry.1 == key

theorem pop_of_absent {d : Dict} {key : String} (absent : d.has key = false) : d.pop key = d := by
  apply List.filter_eq_self.mpr
  intro entry member
  have := List.any_eq_false.mp absent entry member
  simpa only [bne_iff_ne, ne_eq, beq_iff_eq] using this

theorem pop_set (d : Dict) (key : String) (value : Json) : (d.set key value).pop key = d.pop key := by
  induction d with
  | nil => simp [set, pop]
  | cons entry rest ih =>
      obtain ⟨k, v⟩ := entry
      unfold pop at ih ⊢
      by_cases same : k = key
      · simp [set, same]
      · simp only [set, same, if_false, List.filter_cons]
        rw [ih]

theorem get?_pop {d : Dict} {key other : String} (different : other ≠ key) :
    (d.pop key).get? other = d.get? other := by
  induction d with
  | nil => rfl
  | cons entry rest ih =>
      obtain ⟨k, v⟩ := entry
      unfold pop get? at ih ⊢
      by_cases same : k = key
      · subst same
        have absent : (other == k) = false := beq_eq_false_iff_ne.mpr different
        simp only [List.filter_cons, bne_self_eq_false, Bool.false_eq_true, if_false, ih, List.lookup_cons, absent]
      · have kept : (k != key) = true := bne_iff_ne.mpr same
        simp only [List.filter_cons, kept, if_true, List.lookup_cons, ih]

end Dict

namespace Queue

def streamIdKey : String := "_stream_id"

/-- The id Redis gives the `n`-th entry, for some fixed clock. -/
def streamId (id : Nat) : String := toString id ++ "-0"

/-- The generator between two resumptions. -/
structure StreamLoop where
  lastId : Nat := 0
  deadline : Timestamp
  /-- What is left of the last answer: events that carry their ids, and the ids. -/
  events : List (Dict × Nat) := []
  yielded : List Dict := []
  ending : ReaderEnd := .reading

namespace StreamLoop

def tagged (entry : Dict × Nat) : Dict × Nat :=
  (entry.1.set streamIdKey (.str (streamId entry.2)), entry.2)

/-- One answer of `xread`. -/
def poll (timeout : Timestamp) (r : StreamLoop) (reply : XreadReply) : StreamLoop :=
  if reply.records.isEmpty then
    if reply.time ≥ r.deadline then { r with ending := .timedOut } else r
  else { r with deadline := reply.time + timeout, events := reply.records.map tagged }

/-- `last_id = event.pop("_stream_id")`, `yield event`, and the test that follows it. -/
def emit (r : StreamLoop) : StreamLoop :=
  match r.events with
  | [] => r
  | (event, id) :: rest =>
      let event := event.pop streamIdKey
      let r := { r with lastId := id, yielded := r.yielded ++ [event] }
      if isTerminalEvent event then { r with events := [], ending := .finished } else { r with events := rest }

end StreamLoop

/-- A job's stream and a reader of it. -/
structure StreamRead where
  stream : List Dict
  reader : StreamLoop

namespace StreamRead

/-- Others append; the reader polls once it has yielded what it has, and is resumed. -/
inductive Step (timeout : Timestamp) : StreamRead → StreamRead → Prop where
  | append {s : StreamRead} (event : Dict) : Step timeout s { s with stream := s.stream ++ [event] }
  | poll {s : StreamRead} (reply : XreadReply) (reading : s.reader.ending = .reading)
      (drained : s.reader.events = [])
      (served : ∃ count ≤ 20, reply.records = (entriesAfter s.stream s.reader.lastId).take count) :
      Step timeout s { s with reader := s.reader.poll timeout reply }
  | emit {s : StreamRead} (reading : s.reader.ending = .reading) (due : s.reader.events ≠ []) :
      Step timeout s { s with reader := s.reader.emit }

abbrev Reach (timeout : Timestamp) : StreamRead → StreamRead → Prop :=
  Relation.ReflTransGen (Step timeout)

/-- The generator has just been created. -/
def opened (stream : List Dict) (start timeout : Timestamp) : StreamRead :=
  ⟨stream, { deadline := start + timeout }⟩

end StreamRead

/-! ## The invariant -/

/-- An event as the reader hands it out. -/
def handedOut (event : Dict) : Dict := event.pop streamIdKey

/-- The cursor splits the stream into what was yielded and what is still to come, of which
    the reader holds the next few. -/
structure StreamLoop.Follows (stream : List Dict) (r : StreamLoop) : Prop where
  yielded : r.yielded = (stream.take r.lastId).map handedOut
  within : r.lastId ≤ stream.length
  holds : r.ending = .reading → ∃ count, r.events = ((entriesAfter stream r.lastId).take count).map tagged
  stops : r.ending = .finished → ∃ before final, r.yielded = before ++ [final] ∧
    isTerminalEvent final = true ∧ ∀ event ∈ before, isTerminalEvent event = false
  goesOn : r.ending ≠ .finished → ∀ event ∈ r.yielded, isTerminalEvent event = false

section Steps

variable {stream : List Dict} {r : StreamLoop} {timeout : Timestamp}

theorem entriesAfter_append {lastId : Nat} (within : lastId ≤ stream.length) (event : Dict) :
    ∃ more, entriesAfter (stream ++ [event]) lastId = entriesAfter stream lastId ++ more := by
  refine ⟨List.zipIdx [event] (1 + stream.length), ?_⟩
  rw [entriesAfter, List.zipIdx_append, List.drop_append_of_le_length, entriesAfter]
  rw [List.length_zipIdx]
  exact within

theorem StreamLoop.Follows.append (follows : r.Follows stream) (event : Dict) :
    r.Follows (stream ++ [event]) := by
  refine ⟨?_, ?_, fun reading => ?_, follows.stops, follows.goesOn⟩
  · rw [List.take_append_of_le_length follows.within]
    exact follows.yielded
  · rw [List.length_append]
    exact Nat.le_add_right_of_le follows.within
  · obtain ⟨count, holds⟩ := follows.holds reading
    obtain ⟨more, entries⟩ := entriesAfter_append follows.within event
    refine ⟨min count (entriesAfter stream r.lastId).length, ?_⟩
    rw [entries, List.take_append_of_le_length (Nat.min_le_right _ _), holds, ← List.take_eq_take_min]

theorem StreamLoop.Follows.poll {reply : XreadReply} (follows : r.Follows stream)
    (reading : r.ending = .reading) {count : Nat}
    (served : reply.records = (entriesAfter stream r.lastId).take count) :
    (r.poll timeout reply).Follows stream := by
  unfold StreamLoop.poll
  split
  · split
    · refine ⟨follows.yielded, follows.within, fun past => (by cases past), fun past => (by cases past),
        fun _ => follows.goesOn ?_⟩
      rw [reading]
      exact ReaderEnd.noConfusion
    · exact follows
  · exact ⟨follows.yielded, follows.within, fun _ => ⟨count, by rw [served]⟩, follows.stops, follows.goesOn⟩

theorem StreamLoop.Follows.emit (follows : r.Follows stream) (reading : r.ending = .reading) :
    r.emit.Follows stream := by
  obtain ⟨count, holds⟩ := follows.holds reading
  have goesOn := follows.goesOn (by rw [reading]; exact ReaderEnd.noConfusion)
  unfold StreamLoop.emit
  cases events : r.events with
  | nil => exact follows
  | cons first rest =>
      rw [events] at holds
      cases count with
      | zero => cases holds
      | succ count =>
          cases entries : entriesAfter stream r.lastId with
          | nil => rw [entries] at holds; cases holds
          | cons entry others =>
              rw [entries, List.take_succ_cons] at holds
              cases holds
              obtain ⟨found, next, rfl⟩ := entriesAfter_cons entries
              have popped : (tagged entry).1.pop streamIdKey = handedOut entry.1 := Dict.pop_set _ _ _
              have yields : r.yielded ++ [handedOut entry.1] = (stream.take (r.lastId + 1)).map handedOut := by
                rw [follows.yielded, List.take_add_one, found, List.map_append]
                rfl
              have inside : r.lastId + 1 ≤ stream.length := (List.getElem?_eq_some_iff.mp found).1
              have id : (tagged entry).2 = r.lastId + 1 := next
              simp only [popped, id]
              by_cases terminal : isTerminalEvent (handedOut entry.1) = true
              · simp only [terminal, if_true]
                refine ⟨yields, inside, fun past => (by cases past), fun _ => ?_, fun open_ => absurd rfl open_⟩
                exact ⟨r.yielded, _, rfl, terminal, goesOn⟩
              · simp only [terminal]
                refine ⟨yields, inside, fun _ => ⟨count, rfl⟩, fun past => ?_, fun _ event member => ?_⟩
                · cases reading.symm.trans past
                · rcases List.mem_append.mp member with earlier | last
                  · exact goesOn event earlier
                  · obtain rfl := List.mem_singleton.mp last
                    exact Bool.eq_false_iff.mpr terminal

end Steps

/-- In every run the reader follows the stream, whatever it has become. -/
theorem StreamRead.Reach.follows {timeout : Timestamp} {s d : StreamRead} (run : Reach timeout s d)
    (follows : s.reader.Follows s.stream) : d.reader.Follows d.stream := by
  induction run with
  | refl => exact follows
  | tail _ step ih =>
      cases step with
      | append event => exact ih.append event
      | poll reply reading _ served =>
          obtain ⟨count, _, records⟩ := served
          exact ih.poll reading records
      | emit reading _ => exact ih.emit reading

theorem opened_follows (stream : List Dict) (start timeout : Timestamp) :
    (StreamRead.opened stream start timeout).reader.Follows stream := by
  refine ⟨rfl, Nat.zero_le _, fun _ => ⟨0, rfl⟩, fun past => (by cases past), fun _ event member => ?_⟩
  cases member

section Exact

variable {stream : List Dict} {start timeout : Timestamp} {d : StreamRead}

/-- No event uses the key the reader keeps its ids under. -/
def Unreserved (events : List Dict) : Prop := ∀ event ∈ events, event.has streamIdKey = false

theorem Unreserved.handedOut (unreserved : Unreserved stream) : stream.map handedOut = stream := by
  refine (List.map_congr_left fun event member => ?_).trans (List.map_id stream)
  exact Dict.pop_of_absent (unreserved event member)

/-- Whatever is appended and whenever, and however `xread` answers: while no event uses the
    reader's own key, the reader has yielded a prefix of the stream; nothing follows an event
    that ends the job; and if it has returned, it has yielded everything up to the first one. -/
theorem stream_read_exactly (run : StreamRead.Reach timeout (StreamRead.opened stream start timeout) d)
    (unreserved : Unreserved d.stream) :
    d.reader.yielded <+: d.stream ∧ AtMostOneEnd d.reader.yielded ∧
      (d.reader.ending = .finished → ∃ before final after, d.stream = before ++ final :: after ∧
        d.reader.yielded = before ++ [final] ∧ isTerminalEvent final = true ∧ OpenStream before) := by
  have follows := run.follows (opened_follows stream start timeout)
  have yielded : d.reader.yielded = d.stream.take d.reader.lastId := by
    rw [follows.yielded, List.map_take, unreserved.handedOut]
  refine ⟨?_, ?_, fun finished => ?_⟩
  · rw [yielded]
    exact List.take_prefix _ _
  · by_cases finished : d.reader.ending = .finished
    · obtain ⟨before, final, yields, _, isOpen⟩ := follows.stops finished
      rw [yields]
      exact atMostOneEnd_of_final isOpen
    · exact OpenStream.atMostOneEnd (follows.goesOn finished)
  · obtain ⟨before, final, yields, terminal, isOpen⟩ := follows.stops finished
    refine ⟨before, final, d.stream.drop d.reader.lastId, ?_, yields, terminal, isOpen⟩
    have whole := List.take_append_drop d.reader.lastId d.stream
    rw [← yielded, yields, List.append_assoc] at whole
    exact whole.symm

/-- A token is appended while the reader waits, and a last event while it handles it. -/
theorem stream_read_exactly_demo : ∃ d : StreamRead, d.reader.ending = .finished ∧
    d.reader.yielded <+: d.stream := by
  have run : ∃ d, StreamRead.Reach 1 (StreamRead.opened [] 0 1) d ∧ d.reader.ending = .finished ∧
      d.stream = [[("token", .str "a")], [("done", .bool true)]] :=
    ⟨_, ((((((Relation.ReflTransGen.refl.tail
      (.poll ⟨[], 0⟩ rfl rfl ⟨0, by decide, rfl⟩)).tail
      (.append [("token", .str "a")])).tail
      (.poll ⟨[([("token", .str "a")], 1)], 0⟩ rfl rfl ⟨1, by decide, rfl⟩)).tail
      (.append [("done", .bool true)])).tail
      (.emit rfl (List.cons_ne_nil _ _))).tail
      (.poll ⟨[([("done", .bool true)], 2)], 0⟩ rfl rfl ⟨1, by decide, rfl⟩)).tail
      (.emit rfl (List.cons_ne_nil _ _)), rfl, rfl⟩
  obtain ⟨d, run, finished, stream⟩ := run
  have unreserved : Unreserved d.stream := by
    rw [stream]
    unfold Unreserved
    decide
  exact ⟨d, finished, (stream_read_exactly run unreserved).1⟩

/-- An event with a `_stream_id` of its own is handed out without it. -/
theorem stream_id_lost : ∃ d : StreamRead, StreamRead.Reach 1 (StreamRead.opened [] 0 1) d ∧
    ¬d.reader.yielded <+: d.stream := by
  have run : ∃ d, StreamRead.Reach 1 (StreamRead.opened [] 0 1) d ∧
      d.reader.yielded = [[("token", .str "a")]] ∧
      d.stream = [[(streamIdKey, .str "x"), ("token", .str "a")]] :=
    ⟨_, ((Relation.ReflTransGen.refl.tail
      (.append [(streamIdKey, .str "x"), ("token", .str "a")])).tail
      (.poll ⟨[([(streamIdKey, .str "x"), ("token", .str "a")], 1)], 0⟩ rfl rfl ⟨1, by decide, rfl⟩)).tail
      (.emit rfl (List.cons_ne_nil _ _)), rfl, rfl⟩
  obtain ⟨d, reach, yielded, stream⟩ := run
  refine ⟨d, reach, fun isPrefix => ?_⟩
  rw [yielded, stream] at isPrefix
  have same := (List.cons_prefix_cons.mp isPrefix).1
  exact absurd (congrArg List.length same) (by decide)

end Exact

/-! ## Answer by answer -/

section Answers

variable {stream : List Dict} {timeout : Timestamp}

/-- The generator has handled an answer as a whole. -/
structure StreamLoop.Matches (l : StreamLoop) (r : Reader) : Prop where
  lastId : l.lastId = r.lastId
  deadline : l.deadline = r.deadline
  yielded : l.yielded = r.yielded
  ending : l.ending = r.ending
  drained : l.events = []

/-- The events of one answer are emitted one by one. -/
private theorem emits (stream : List Dict) (timeout : Timestamp) {records : List (Dict × Nat)}
    (unreserved : ∀ entry ∈ records, entry.1.has streamIdKey = false) (l : StreamLoop) (r : Reader)
    (due : l.events = records.map StreamLoop.tagged) (lastId : l.lastId = r.lastId) (deadline : l.deadline = r.deadline) (yielded : l.yielded = r.yielded) (ending : l.ending = r.ending)
    (reading : r.ending = .reading) :
    ∃ l', StreamRead.Reach timeout ⟨stream, l⟩ ⟨stream, l'⟩ ∧ l'.Matches (r.yieldEvents records) := by
  induction records generalizing l r with
  | nil => exact ⟨l, .refl, lastId, deadline, yielded, ending, due⟩
  | cons entry rest ih =>
      obtain ⟨event, id⟩ := entry
      have popped : (event.set streamIdKey (.str (streamId id))).pop streamIdKey = event :=
        (Dict.pop_set _ _ _).trans (Dict.pop_of_absent (unreserved _ List.mem_cons_self))
      have step : StreamRead.Step timeout ⟨stream, l⟩ ⟨stream, l.emit⟩ :=
        .emit (ending.trans reading) (by rw [due]; exact List.cons_ne_nil _ _)
      have emitted : l.emit = if isTerminalEvent event then
            { l with lastId := id, yielded := l.yielded ++ [event], events := [], ending := .finished }
          else { l with lastId := id, yielded := l.yielded ++ [event], events := rest.map StreamLoop.tagged } := by
        simp only [StreamLoop.emit, due, List.map_cons, StreamLoop.tagged, popped]
      unfold Reader.yieldEvents
      by_cases terminal : isTerminalEvent event = true
      · rw [if_pos terminal] at emitted ⊢
        refine ⟨l.emit, .single step, ?_⟩
        rw [emitted]
        exact ⟨rfl, deadline, by rw [yielded], rfl, rfl⟩
      · rw [if_neg terminal] at emitted ⊢
        have later := fun entry member => unreserved entry (List.mem_cons_of_mem _ member)
        obtain ⟨l', run, matched⟩ := ih later l.emit { r with lastId := id, yielded := r.yielded ++ [event] }
          (by rw [emitted]) (by rw [emitted]) (by rw [emitted]; exact deadline) (by rw [emitted, yielded])
          (by rw [emitted]; exact ending) reading
        exact ⟨l', .head step run, matched⟩

private theorem receives {l : StreamLoop} {r : Reader} (matched : l.Matches r) {reply : XreadReply} {count : Nat}
    (few : count ≤ 20) (served : reply.records = (entriesAfter stream r.lastId).take count)
    (unreserved : Unreserved stream) :
    ∃ l', StreamRead.Reach timeout ⟨stream, l⟩ ⟨stream, l'⟩ ∧ l'.Matches (r.receive timeout reply) := by
  obtain ⟨lastId, deadline, yielded, ending⟩ := r
  unfold Reader.receive
  cases ending with
  | reading =>
      have served' : ∃ count ≤ 20, reply.records = (entriesAfter stream l.lastId).take count := by
        rw [matched.lastId]
        exact ⟨count, few, served⟩
      have step : StreamRead.Step timeout ⟨stream, l⟩ ⟨stream, l.poll timeout reply⟩ :=
        .poll reply matched.ending matched.drained served'
      unfold StreamLoop.poll at step
      simp only
      by_cases empty : reply.records.isEmpty = true
      · rw [if_pos empty] at step ⊢
        rw [matched.deadline] at step
        by_cases past : reply.time ≥ deadline
        · rw [if_pos past] at step ⊢
          exact ⟨_, .single step, matched.lastId, rfl, matched.yielded, rfl, matched.drained⟩
        · rw [if_neg past]
          exact ⟨l, .refl, matched⟩
      · rw [if_neg empty] at step ⊢
        have records : ∀ entry ∈ reply.records, entry.1.has streamIdKey = false := by
          intro entry member
          rw [served] at member
          have inStream := List.mem_of_mem_drop (List.mem_of_mem_take member)
          exact unreserved entry.1 (List.fst_mem_of_mem_zipIdx inStream)
        obtain ⟨l', run, matched⟩ := emits stream timeout records
          { l with deadline := reply.time + timeout, events := reply.records.map StreamLoop.tagged }
          ⟨lastId, reply.time + timeout, yielded, .reading⟩ rfl matched.lastId rfl matched.yielded
          matched.ending rfl
        exact ⟨l', .head step run, matched⟩
  | finished | timedOut => exact ⟨l, .refl, matched⟩

/-- What the loop over whole answers computes is what a run of the generator reaches. -/
theorem streamLlmEvents_reached {start : Timestamp} {replies : List XreadReply}
    (served : Served stream timeout { deadline := start + timeout } replies) (unreserved : Unreserved stream) :
    ∃ l, StreamRead.Reach timeout (StreamRead.opened stream start timeout) ⟨stream, l⟩ ∧
      l.Matches (streamLlmEvents start timeout replies) := by
  have run : ∀ (replies : List XreadReply) (l : StreamLoop) (r : Reader), l.Matches r →
      Served stream timeout r replies → ∃ l', StreamRead.Reach timeout ⟨stream, l⟩ ⟨stream, l'⟩ ∧
        l'.Matches (replies.foldl (Reader.receive timeout) r) := by
    intro replies
    induction replies with
    | nil => exact fun l r matched _ => ⟨l, .refl, matched⟩
    | cons reply rest ih =>
        intro l r matched served
        obtain ⟨⟨count, few, records⟩, later⟩ := served
        obtain ⟨middle, first, matched⟩ := receives matched few records unreserved
        obtain ⟨last, remaining, matched⟩ := ih middle _ matched later
        exact ⟨last, first.trans remaining, matched⟩
  exact run replies _ _ ⟨rfl, rfl, rfl, rfl, rfl⟩ served

end Answers

end Queue

end LanguageAgent
