import LanguageAgent.Gateway.LlamaStream
import LanguageAgent.Sequences.Pipeline
import Mathlib.Data.List.Chain

/-! # The direct stream

`LlamaServerGateway.stream_llm`: a thread reads `stream_llm_sync` and leaves what it reads
to callbacks of the event loop, which put it into a queue. The generator takes it from
there. All of them run side by side.
-/

namespace LanguageAgent.Gateway

open Queue Sequences

/-! ## The generator -/

/-- What is put into the queue: a token, the exception of the thread, or `done`. -/
inductive QueueItem where
  | token (content : List Char)
  | error (error : PyError)
  | done

/-- How `stream_llm_sync` ends, and the contents of the chunks it yields. -/
abbrev SyncStream := Except PyError Unit × List (List Char)

/-- `collect_tokens`: what the thread leaves to the event loop, one after the other. -/
def collectTokens (read : SyncStream) : List QueueItem :=
  (read.2.filter (· ≠ [])).map .token ++
    (match read.1 with
      | .error error => [.error error]
      | .ok () => []) ++ [.done]

inductive Consumer where
  | receiving
  /-- `await worker`, and how the generator ends after it. -/
  | awaiting (ending : Except PyError Unit)
  | ended (ending : Except PyError Unit)
  /-- Whoever reads the generator has closed it, or its task has been cancelled. -/
  | abandoned

structure AsyncStream where
  /-- What the thread has yet to leave to the event loop. -/
  unread : List QueueItem
  threadReturned : Bool := false
  /-- The callbacks of `call_soon_threadsafe` that have not run yet. -/
  callbacks : List QueueItem := []
  queue : List QueueItem := []
  /-- What the generator has taken from the queue. -/
  taken : List QueueItem := []
  consumer : Consumer := .receiving
  yielded : List (List Char) := []

namespace AsyncStream

/-- The thread is about to start, and the generator waits for its first item. -/
def start (read : SyncStream) : AsyncStream := { unread := collectTokens read }

/-- The generator after `item = await queue.get()`. -/
def receive (s : AsyncStream) (item : QueueItem) : AsyncStream :=
  let s := { s with taken := s.taken ++ [item] }
  match item with
  | .token content => { s with yielded := s.yielded ++ [content] }
  | .error error => { s with consumer := .awaiting (.error error) }
  | .done => { s with consumer := .awaiting (.ok ()) }

/-- One step of the thread, of the event loop or of the generator. -/
inductive Step : AsyncStream → AsyncStream → Prop where
  | post (s : AsyncStream) {item : QueueItem} {rest : List QueueItem} (next : s.unread = item :: rest) :
      Step s { s with unread := rest, callbacks := s.callbacks ++ [item] }
  | threadReturns (s : AsyncStream) (finished : s.unread = []) (runs : s.threadReturned = false) :
      Step s { s with threadReturned := true }
  | callback (s : AsyncStream) {item : QueueItem} {rest : List QueueItem} (next : s.callbacks = item :: rest) :
      Step s { s with callbacks := rest, queue := s.queue ++ [item] }
  | take (s : AsyncStream) {item : QueueItem} {rest : List QueueItem} (receiving : s.consumer = .receiving)
      (next : s.queue = item :: rest) : Step s ({ s with queue := rest }.receive item)
  | awaited (s : AsyncStream) {ending : Except PyError Unit} (awaiting : s.consumer = .awaiting ending)
      (returned : s.threadReturned = true) : Step s { s with consumer := .ended ending }

/-- The generator may also be abandoned before it has ended. -/
inductive AnyStep : AsyncStream → AsyncStream → Prop where
  | step {s after : AsyncStream} (step : Step s after) : AnyStep s after
  | abandon (s : AsyncStream) (runs : ∀ ending, s.consumer ≠ .ended ending) : AnyStep s { s with consumer := .abandoned }

end AsyncStream

/-! ## What is on its way -/

namespace QueueItem

def token? : QueueItem → Option (List Char)
  | .token content => some content
  | _ => none

/-- How the generator ends that takes the item. -/
def stop? : QueueItem → Option (Except PyError Unit)
  | .token _ => none
  | .error raised => some (.error raised)
  | .done => some (.ok ())

end QueueItem

section Collected

variable (read : SyncStream)

theorem collectTokens_tokens : (collectTokens read).filterMap QueueItem.token? = read.2.filter (· ≠ []) := by
  obtain ⟨ending, contents⟩ := read
  cases ending <;> simp [collectTokens, QueueItem.token?, Function.comp_def]

theorem tokens_stop (contents : List (List Char)) :
    (contents.map QueueItem.token).filterMap QueueItem.stop? = [] := by
  simp [QueueItem.stop?]

/-- The thread's exception comes before `done`. -/
theorem collectTokens_stop : ((collectTokens read).filterMap QueueItem.stop?).head? = some read.1 := by
  obtain ⟨ending, contents⟩ := read
  cases ending <;>
    rw [collectTokens, List.filterMap_append, List.filterMap_append, tokens_stop] <;> rfl

/-- Whoever has taken an item that stops has taken all the tokens. -/
theorem collectTokens_stopped {taken : List QueueItem} {ending : Except PyError Unit}
    (begun : taken <+: collectTokens read) (stopped : (taken.filterMap QueueItem.stop?).head? = some ending) :
    ending = read.1 ∧ taken.filterMap QueueItem.token? = read.2.filter (· ≠ []) := by
  have stops : taken.filterMap QueueItem.stop? <+: (collectTokens read).filterMap QueueItem.stop? := begun.filterMap _
  obtain ⟨rest, stops⟩ := stops
  have first := collectTokens_stop read
  rw [← stops, List.head?_append, stopped] at first
  refine ⟨by simpa using first, ?_⟩
  have tokens : (read.2.filter (· ≠ [])).map .token <+: collectTokens read :=
    (List.prefix_append _ _).trans (List.prefix_append _ _)
  have all : (read.2.filter (· ≠ [])).map .token <+: taken := by
    rcases List.prefix_or_prefix_of_prefix begun tokens with short | long
    · obtain ⟨more, short⟩ := short
      have none := tokens_stop (read.2.filter (· ≠ []))
      rw [← short, List.filterMap_append] at none
      rw [(List.append_eq_nil_iff.mp none).1] at stopped
      cases stopped
    · exact long
  have fewer := begun.filterMap QueueItem.token?
  have more := all.filterMap QueueItem.token?
  rw [collectTokens_tokens] at fewer
  simp only [List.filterMap_map, Function.comp_def, QueueItem.token?, List.filterMap_some] at more
  exact fewer.eq_of_length (le_antisymm fewer.length_le more.length_le)

end Collected

namespace AsyncStream

def pipeline (s : AsyncStream) : Pipeline QueueItem := [s.unread, s.callbacks, s.queue, s.taken]

/-- What holds of the generator after what it has taken. -/
def agrees (taken : List QueueItem) : Consumer → Prop
  | .receiving => taken.filterMap QueueItem.stop? = []
  | .awaiting ending | .ended ending => (taken.filterMap QueueItem.stop?).head? = some ending
  | .abandoned => True

/-- Everything is on its way, and the generator has yielded the tokens among what it has taken. -/
structure OnWay (read : SyncStream) (s : AsyncStream) : Prop where
  flow : s.pipeline.flow = collectTokens read
  yielded : s.yielded = s.taken.filterMap QueueItem.token?
  consumer : agrees s.taken s.consumer

variable {read : SyncStream} {s after : AsyncStream}

theorem start_onWay : OnWay read (start read) :=
  ⟨by simp [pipeline, start, Pipeline.flow], rfl, rfl⟩

/-- Whether a step moves an item. -/
theorem Step.moves (step : Step s after) :
    Pipeline.Step s.pipeline after.pipeline ∨ after.pipeline = s.pipeline := by
  cases step with
  | post next =>
      left
      simp only [pipeline, next]
      exact .move _ _ _ _
  | callback next =>
      left
      simp only [pipeline, next]
      exact .later _ (.move _ _ _ _)
  | @take item rest receiving next =>
      left
      have moved : ({ s with queue := rest }.receive item).pipeline = [s.unread, s.callbacks, rest, s.taken ++ [item]] := by
        cases item <;> rfl
      rw [moved]
      simp only [pipeline, next]
      exact .later _ (.later _ (.move _ _ _ _))
  | threadReturns | awaited => exact .inr rfl

theorem Step.onWay (onWay : OnWay read s) (step : Step s after) : OnWay read after := by
  have flow : after.pipeline.flow = collectTokens read := by
    rcases step.moves with moved | same
    · rw [moved.flow, onWay.flow]
    · rw [same, onWay.flow]
  refine ⟨flow, ?_, ?_⟩
  · cases step with
    | @take item rest receiving next =>
        cases item <;> simp [receive, onWay.yielded, QueueItem.token?]
    | _ => exact onWay.yielded
  · have consumer := onWay.consumer
    cases step with
    | @take item rest receiving next =>
        rw [receiving] at consumer
        have before : s.taken.filterMap QueueItem.stop? = [] := consumer
        cases item <;> simp [receive, agrees, receiving, before, QueueItem.stop?]
    | awaited awaiting returned =>
        rw [awaiting] at consumer
        exact consumer
    | _ => exact consumer

theorem AnyStep.onWay (onWay : OnWay read s) (step : AnyStep s after) : OnWay read after := by
  cases step with
  | step step => exact step.onWay onWay
  | abandon runs => exact ⟨onWay.flow, onWay.yielded, trivial⟩

theorem reached_onWay (reached : Relation.ReflTransGen AnyStep (start read) s) : OnWay read s := by
  induction reached with
  | refl => exact start_onWay
  | tail earlier step ih => exact step.onWay ih

theorem OnWay.begun (onWay : OnWay read s) : s.taken <+: collectTokens read :=
  onWay.flow ▸ Pipeline.sink_begins s.pipeline

/-- The steps the generator takes after its last item. -/
def stepsAfter : Consumer → Nat
  | .receiving | .awaiting _ => 1
  | .ended _ | .abandoned => 0

/-- How many steps are left at most. -/
def left (s : AsyncStream) : Nat :=
  s.pipeline.pending + (if s.threadReturned then 0 else 1) + stepsAfter s.consumer

theorem receive_returned {item : QueueItem} : (s.receive item).threadReturned = s.threadReturned := by cases item <;> rfl

theorem receive_consumer {item : QueueItem} (receiving : s.consumer = .receiving) :
    stepsAfter (s.receive item).consumer = stepsAfter s.consumer := by
  cases item <;> simp [receive, receiving, stepsAfter]

theorem Step.left (step : Step s after) : s.left = after.left + 1 := by
  have moves := step.moves
  cases step with
  | post next | callback next =>
      have moved := (moves.resolve_right (by simp [pipeline, next])).pending
      simp only [AsyncStream.left, moved]
      omega
  | @take item rest receiving next =>
      have moved := (moves.resolve_right (by cases item <;> simp [pipeline, receive, next])).pending
      have weight := @receive_consumer { s with queue := rest } item receiving
      rw [AsyncStream.left, AsyncStream.left, moved, receive_returned, weight]
      ring
  | threadReturns finished runs =>
      have same : ({ s with threadReturned := true } : AsyncStream).pipeline = s.pipeline := rfl
      simp only [AsyncStream.left, same, runs, Bool.false_eq_true, if_false, if_true]
      omega
  | @awaited ending awaiting returned =>
      have same : ({ s with consumer := .ended ending } : AsyncStream).pipeline = s.pipeline := rfl
      simp only [AsyncStream.left, same, awaiting, stepsAfter]

/-- Until the generator has ended somebody can take a step. -/
theorem OnWay.goesOn (onWay : OnWay read s) (present : s.consumer ≠ .abandoned) (stuck : ∀ after, ¬Step s after) :
    ∃ ending, s.consumer = .ended ending := by
  have unread : s.unread = [] := by
    by_contra some
    obtain ⟨item, rest, next⟩ := List.exists_cons_of_ne_nil some
    exact stuck _ (.post s next)
  have callbacks : s.callbacks = [] := by
    by_contra some
    obtain ⟨item, rest, next⟩ := List.exists_cons_of_ne_nil some
    exact stuck _ (.callback s next)
  have returned : s.threadReturned = true := by
    by_contra runs
    exact stuck _ (.threadReturns s unread (by simpa using runs))
  cases consumer : s.consumer with
  | ended ending => exact ⟨ending, rfl⟩
  | abandoned => exact absurd consumer present
  | awaiting ending => exact absurd (.awaited s consumer returned) (stuck _)
  | receiving =>
      have queue : s.queue = [] := by
        by_contra some
        obtain ⟨item, rest, next⟩ := List.exists_cons_of_ne_nil some
        exact stuck _ (.take s consumer next)
      have all : s.taken = collectTokens read := by
        simpa [pipeline, Pipeline.flow, unread, callbacks, queue] using onWay.flow
      have open_ := onWay.consumer
      rw [consumer, all] at open_
      have stops := collectTokens_stop read
      rw [show (collectTokens read).filterMap QueueItem.stop? = [] from open_] at stops
      cases stops

theorem Step.present (step : Step s after) (present : s.consumer ≠ .abandoned) : after.consumer ≠ .abandoned := by
  cases step with
  | @take item rest receiving next => cases item <;> simp [receive, receiving]
  | awaited => simp
  | _ => exact present

/-- A run takes at most as many steps as were left, and stays on its way. -/
theorem run_onWay {run : List AsyncStream} (chain : (s :: run).IsChain Step) (onWay : OnWay read s)
    (present : s.consumer ≠ .abandoned) :
    run.length + (run.getLastD s).left = s.left ∧ OnWay read (run.getLastD s) ∧ (run.getLastD s).consumer ≠ .abandoned := by
  induction run generalizing s with
  | nil => exact ⟨Nat.zero_add _, onWay, present⟩
  | cons next rest ih =>
      obtain ⟨step, chain⟩ := List.isChain_cons_cons.mp chain
      obtain ⟨fewer, last, still⟩ := ih chain (step.onWay onWay) (step.present present)
      have final : (next :: rest).getLastD s = rest.getLastD next := by cases rest <;> rfl
      rw [final, step.left, ← fewer, List.length_cons]
      exact ⟨by omega, last, still⟩

end AsyncStream

/-! ## In order and complete -/

section Visible

variable {lower : List Char → List Char} {loads : List Char → Except LoadsError Json} {state : StreamState}

theorem yieldVisible_visible {content : List Char} (visible : [] ∉ state.yielded) : [] ∉ (state.yieldVisible content).yielded := by
  unfold StreamState.yieldVisible
  split_ifs with empty
  · exact visible
  · simpa [visible, eq_comm] using empty

theorem receive_visible {event : StreamEvent} (visible : [] ∉ state.yielded) : [] ∉ (state.receive lower event).yielded := by
  unfold StreamState.receive
  dsimp only
  split
  · exact visible
  · exact yieldVisible_visible visible

theorem readLines_visible {ending : Option HttpxError} {lines : List (List Char)} (visible : [] ∉ state.yielded) :
    [] ∉ (readLines lower loads ending lines state).2.yielded := by
  induction lines generalizing state with
  | nil => cases ending <;> exact visible
  | cons line rest ih =>
      unfold readLines
      split
      · exact ih visible
      · split_ifs
        · exact visible
        · split
          · exact visible
          · exact ih (receive_visible visible)

/-- Only contents that are not empty are yielded. -/
theorem streamLlmSync_visible (opened : Opened) : [] ∉ (streamLlmSync lower loads opened).2 := by
  cases opened with
  | failed error => simp [streamLlmSync]
  | response status lines ending =>
      have visible := @readLines_visible lower loads {} ending lines List.not_mem_nil
      rw [streamLlmSync]
      split_ifs
      · simp
      · split
        · rename_i read
          rwa [read] at visible
        · rename_i read
          rw [read] at visible
          split_ifs
          · exact yieldVisible_visible visible
          · exact visible

end Visible

theorem streamLlmSync_filter (lower : List Char → List Char) (loads : List Char → Except LoadsError Json) (opened : Opened) :
    (streamLlmSync lower loads opened).2.filter (· ≠ []) = (streamLlmSync lower loads opened).2 := by
  refine List.filter_eq_self.mpr fun content member => ?_
  have notEmpty : content ≠ [] := fun empty => streamLlmSync_visible opened (empty ▸ member)
  simpa using notEmpty

/-- A generator that has ended has yielded what `stream_llm_sync` yields, and ends as it does. -/
theorem ended_alike {lower : List Char → List Char} {loads : List Char → Except LoadsError Json} {opened : Opened}
    {s : AsyncStream} {ending : Except PyError Unit} (onWay : s.OnWay (streamLlmSync lower loads opened))
    (ended : s.consumer = .ended ending) : (ending, s.yielded) = streamLlmSync lower loads opened := by
  have stopped := onWay.consumer
  rw [ended] at stopped
  obtain ⟨same, all⟩ := collectTokens_stopped _ onWay.begun stopped
  rw [onWay.yielded, all, streamLlmSync_filter, same]

/-- However thread, event loop and generator take turns, and even if the generator is
    abandoned: it has yielded the first contents of `stream_llm_sync`, in order, and where it
    ends it has yielded all of them and ends as `stream_llm_sync` does. -/
theorem direct_stream_in_order (lower : List Char → List Char) (loads : List Char → Except LoadsError Json)
    (opened : Opened) (s : AsyncStream)
    (reached : Relation.ReflTransGen AsyncStream.AnyStep (.start (streamLlmSync lower loads opened)) s) :
    s.yielded <+: (streamLlmSync lower loads opened).2 ∧
      ∀ ending, s.consumer = .ended ending → (ending, s.yielded) = streamLlmSync lower loads opened := by
  have onWay := AsyncStream.reached_onWay reached
  refine ⟨?_, fun ending ended => ended_alike onWay ended⟩
  have begun := onWay.begun.filterMap QueueItem.token?
  rwa [collectTokens_tokens, streamLlmSync_filter, ← onWay.yielded] at begun

/-- `json.loads` on an event with a token. -/
def tokenLoads : List Char → Except LoadsError Json := fun _ =>
  .ok (.obj [("choices", .arr [.obj [("delta", .obj [("content", .str "Hi")])]])])

/-- A stream that breaks off after its first token. -/
def brokenStream : Opened := .response 200 ["data: hi".toList] (some .timeout)

theorem brokenStream_read : streamLlmSync id tokenLoads brokenStream =
    (.error (llamaServerTimeoutError "llama-server timed out."), ["Hi".toList]) := by
  have visible : ThinkStreamFilter.feed id {} "Hi".toList = ("Hi".toList, {}) := by
    rw [ThinkStreamFilter.feed, feedLoop]
    rfl
  have received : StreamState.receive id {} ⟨false, some "Hi".toList⟩ = { yielded := ["Hi".toList] } := by
    rw [StreamState.receive]
    simp only [visible]
    rfl
  have event : loadEvent tokenLoads "hi".toList >>= readEvent = .ok ⟨false, some "Hi".toList⟩ := rfl
  have data : rawEvent "data: hi".toList = some "hi".toList := by decide
  simp only [streamLlmSync, brokenStream, readLines, data, event, received, ne_eq, not_true_eq_false, if_false]
  rfl

/-- The generator yields the token, and raises the error once the thread has returned. -/
def brokenRun : List AsyncStream :=
  let token := QueueItem.token "Hi".toList
  let raised := llamaServerTimeoutError "llama-server timed out."
  let yielded := ["Hi".toList]
  [{ unread := [.error raised, .done], callbacks := [token] },
   { unread := [.error raised, .done], queue := [token] },
   { unread := [.error raised, .done], taken := [token], yielded },
   { unread := [.done], callbacks := [.error raised], taken := [token], yielded },
   { unread := [.done], queue := [.error raised], taken := [token], yielded },
   { unread := [.done], taken := [token, .error raised], consumer := .awaiting (.error raised), yielded },
   { unread := [], callbacks := [.done], taken := [token, .error raised], consumer := .awaiting (.error raised), yielded },
   { unread := [], threadReturned := true, callbacks := [.done], taken := [token, .error raised]
     consumer := .awaiting (.error raised), yielded },
   { unread := [], threadReturned := true, callbacks := [.done], taken := [token, .error raised]
     consumer := .ended (.error raised), yielded },
   { unread := [], threadReturned := true, queue := [.done], taken := [token, .error raised]
     consumer := .ended (.error raised), yielded }]

theorem brokenRun_chain : (.start (streamLlmSync id tokenLoads brokenStream) :: brokenRun).IsChain AsyncStream.Step := by
  rw [brokenStream_read]
  exact .cons_cons (.post _ rfl) (.cons_cons (.callback _ rfl) (.cons_cons (@AsyncStream.Step.take _ (.token _) _ rfl rfl)
    (.cons_cons (.post _ rfl) (.cons_cons (.callback _ rfl) (.cons_cons (@AsyncStream.Step.take _ (.error _) _ rfl rfl)
      (.cons_cons (.post _ rfl) (.cons_cons (.threadReturns _ rfl rfl) (.cons_cons (.awaited _ rfl rfl)
        (.cons_cons (.callback _ rfl) (.singleton _))))))))))

theorem direct_stream_in_order_demo : ∃ s : AsyncStream,
    Relation.ReflTransGen AsyncStream.AnyStep (.start (streamLlmSync id tokenLoads brokenStream)) s ∧
      s.yielded = ["Hi".toList] ∧
      (.error (llamaServerTimeoutError "llama-server timed out."), s.yielded) =
        streamLlmSync id tokenLoads brokenStream := by
  have reached := List.relationReflTransGen_of_exists_isChain_cons brokenRun
    (brokenRun_chain.imp fun _ _ => AsyncStream.AnyStep.step) rfl
  exact ⟨_, reached, rfl, (direct_stream_in_order id tokenLoads brokenStream _ reached).2 _ rfl⟩

/-- A run in which nobody abandons the generator comes to an end, and no sooner than the
    generator has yielded everything and ended as `stream_llm_sync` does. -/
theorem direct_stream_ends (lower : List Char → List Char) (loads : List Char → Except LoadsError Json)
    (opened : Opened) (run : List AsyncStream)
    (chain : (.start (streamLlmSync lower loads opened) :: run).IsChain AsyncStream.Step) :
    run.length ≤ 3 * (collectTokens (streamLlmSync lower loads opened)).length + 2 ∧
      ((∀ after, ¬AsyncStream.Step (run.getLastD (.start (streamLlmSync lower loads opened))) after) →
        (run.getLastD (.start (streamLlmSync lower loads opened))).consumer = .ended (streamLlmSync lower loads opened).1 ∧
          (run.getLastD (.start (streamLlmSync lower loads opened))).yielded = (streamLlmSync lower loads opened).2) := by
  obtain ⟨fewer, onWay, present⟩ := AsyncStream.run_onWay chain AsyncStream.start_onWay (by simp [AsyncStream.start])
  constructor
  · have whole : (AsyncStream.start (streamLlmSync lower loads opened)).left =
        3 * (collectTokens (streamLlmSync lower loads opened)).length + 2 := by
      simp [AsyncStream.left, AsyncStream.start, AsyncStream.pipeline, AsyncStream.stepsAfter, Pipeline.pending,
        Nat.mul_comm]
    omega
  · intro stuck
    obtain ⟨ending, ended⟩ := onWay.goesOn present stuck
    have same := ended_alike onWay ended
    exact ⟨ended.trans (congrArg (Consumer.ended ∘ Prod.fst) same), congrArg Prod.snd same⟩

theorem direct_stream_ends_demo :
    brokenRun.length ≤ 3 * (collectTokens (streamLlmSync id tokenLoads brokenStream)).length + 2 ∧
      (brokenRun.getLastD (.start (streamLlmSync id tokenLoads brokenStream))).consumer =
        .ended (streamLlmSync id tokenLoads brokenStream).1 ∧
      (brokenRun.getLastD (.start (streamLlmSync id tokenLoads brokenStream))).yielded =
        (streamLlmSync id tokenLoads brokenStream).2 := by
  obtain ⟨fewer, ends⟩ := direct_stream_ends id tokenLoads brokenStream brokenRun brokenRun_chain
  exact ⟨fewer, ends fun after step => by cases step <;> contradiction⟩

end LanguageAgent.Gateway
