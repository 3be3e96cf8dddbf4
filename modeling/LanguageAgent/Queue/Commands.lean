import LanguageAgent.Domain.Jobs
import LanguageAgent.Interleaving.Machine

/-! # One job in Redis, and the commands that touch it

The state RQ and the application keep for a single job, and the atomic commands
of the parties that work on it. Answers no code in the repository decides (clock
readings, queue positions, the model server, an asynchronous timeout) come from
the `Environment`, one sequence per party, so that a run is fixed by the order in
which the parties take their steps.
-/

namespace LanguageAgent.Queue

open Interleaving

/-- `job.meta`, the dictionary `save_meta` writes as a whole. -/
structure JobMeta where
  llmCall : Option LLMCallJob := none
  retryCount : Option Int := none
  lastError : Option (Option String) := none

/-- `rq.job.JobStatus` -/
inductive JobStatus where
  | queued
  | finished
  | failed
  | started
  | deferred
  | scheduled
  | stopped
  | canceled
  deriving DecidableEq, Repr

/-- The Redis hash RQ keeps for the job. -/
structure RQJob where
  args : LLMCallJob
  jobMeta : JobMeta
  status : JobStatus
  result : Option LLMCallJob

/-- What one `Job.fetch` reads. -/
structure Snapshot where
  args : LLMCallJob
  jobMeta : JobMeta
  result : Option LLMCallJob

/-- A Python exception other than the worker's own two: the class name, the text,
    and whether it is a `ValueError`, `TypeError` or `KeyError`. -/
structure PyError where
  className : String
  message : String
  valueTypeOrKey : Bool := false
  deriving DecidableEq, Repr

inductive QueueError where
  /-- `LLMJobCancelledError` -/
  | cancelled (message : String)
  /-- `NonRetryableLLMJobError` -/
  | nonRetryable (message : String)
  | other (error : PyError)
  deriving DecidableEq, Repr

/-- The arguments a worker passes to the model service. -/
structure ModelRequest where
  messages : List (List (String × String))
  mode : Option String
  parameters : Dict

/-- A generator of the model service: the content of each chunk, and the exception
    that ends it, if one does. -/
structure ModelStream where
  chunks : List (Option String)
  ending : Option PyError

/-- Which read of the record a `Job.fetch` serves. -/
inductive FetchSite where
  /-- RQ loads the job it has taken from the queue. -/
  | dequeue
  /-- `is_cancel_requested` before processing starts. -/
  | startCheck
  /-- `is_cancel_requested` after each chunk. -/
  | chunkCheck
  /-- `is_cancel_requested` after the model call. -/
  | finalCheck
  /-- `cancel_llm_call` loads the job it will save. -/
  | cancelJob
  /-- `cancel_llm_call` reads the record. -/
  | cancelRecord
  /-- `get_job_status` reads the record. -/
  | statusRecord
  /-- `get_job_result` -/
  | resultRecord
  deriving DecidableEq, Repr

/-- Fields of the metrics hash. -/
inductive MetricField where
  | totalWaitSeconds
  | startedJobs
  | totalGenerationSeconds
  | completedJobs
  deriving DecidableEq, Repr

inductive Party where
  | api
  | worker
  | cancel (call : Nat)
  | wait (call : Nat)
  | reaper
  deriving DecidableEq, Repr

inductive Command where
  | utcnow
  | readMetrics
  | incrMetric (field : MetricField) (amount : Rat)
  | queueDepth
  | activeJobCount
  | jobPosition
  | push (payload : LLMCallJob)
  | fetchJob (site : FetchSite)
  | jobStatus
  | remove
  | saveMeta (saved : JobMeta)
  | setStatus (status : JobStatus)
  | xadd (event : Dict)
  /-- RQ takes the job from its queue. -/
  | pop
  /-- A place where the store or RQ's timeout may raise. -/
  | interrupt
  | loadService
  | askModel (request : ModelRequest) (schema : Dict)
  | generateText (request : ModelRequest)
  | openStream (request : ModelRequest)
  | nextChunk
  | closeStream
  /-- RQ records a normal return. -/
  | finish (result : LLMCallJob)
  /-- RQ queues the job again after a raise, and saves its job object with it. -/
  | requeue (saved : JobMeta)
  /-- RQ marks the job failed after a raise. -/
  | giveUp
  /-- RQ marks the job of a lost worker failed once this many re-runs are used. -/
  | abandon (granted : Nat)

abbrev Command.Reply : Command → Type
  | .utcnow => Timestamp
  | .readMetrics => MetricField → Option Rat
  | .queueDepth | .activeJobCount => Nat
  | .jobPosition => Option Nat
  | .fetchJob _ => Option Snapshot
  | .jobStatus => JobStatus
  | .interrupt | .loadService => Option PyError
  | .askModel _ _ => Except PyError Json
  | .generateText _ => Except PyError String
  | .openStream _ => ModelStream
  | .incrMetric _ _ | .push _ | .remove | .saveMeta _ | .setStatus _ | .xadd _ | .pop | .nextChunk
  | .closeStream | .finish _ | .requeue _ | .giveUp | .abandon _ => Unit

/-- `service.ask_llm_sync`, `generate_text_sync` or `stream_llm_sync` is called. -/
def Command.callsModel : Command → Bool
  | .askModel _ _ | .generateText _ | .openStream _ => true
  | _ => false

/-- Commands that read the outside world or count a metric: they leave the job as it is. -/
def Command.isNeutral : Command → Bool
  | .utcnow | .readMetrics | .incrMetric _ _ | .queueDepth | .activeJobCount | .jobPosition => true
  | _ => false

abbrev signature : Signature where
  Command := Command
  Reply := Command.Reply

/-- Answers the code does not decide. The model and the service are asked by the
    worker alone, so their answers are numbered by call. -/
structure Environment where
  clock : Party → Nat → Timestamp
  position : Party → Nat → Option Nat
  queueDepth : Nat → Nat
  activeJobs : Nat → Nat
  service : Nat → Option PyError
  ask : Nat → ModelRequest → Dict → Except PyError Json
  generate : Nat → ModelRequest → Except PyError String
  stream : Nat → ModelRequest → ModelStream
  interrupts : Nat → Option PyError

/-- No store operation raises and no timeout fires. -/
def Environment.Calm (env : Environment) : Prop := ∀ n, env.interrupts n = none

structure World where
  env : Environment
  job : Option RQJob := none
  /-- The job id is on RQ's queue. -/
  queued : Bool := false
  events : List Dict := []
  metrics : MetricField → Option Rat := fun _ => none
  /-- How many answers each party has taken from its own sequences. -/
  asked : Party → Nat := fun _ => 0
  serviceLoads : Nat := 0
  modelCalls : Nat := 0
  interruptChecks : Nat := 0
  /-- A worker holds the job. -/
  running : Bool := false
  workerLost : Bool := false
  /-- Re-runs RQ has used for this job. -/
  reruns : Nat := 0

namespace World

def ask (w : World) (party : Party) : World :=
  { w with asked := Function.update w.asked party (w.asked party + 1) }

def mapJob (w : World) (f : RQJob → RQJob) : World := { w with job := w.job.map f }

/-- `hincrby`, which counts from zero when the field is absent. -/
def incrMetric (w : World) (field : MetricField) (amount : Rat) : World :=
  { w with metrics := Function.update w.metrics field (some ((w.metrics field).getD 0 + amount)) }

/-- The worker lets go of the job, and RQ records how it ended. -/
def release (w : World) (f : RQJob → RQJob) : World := { w.mapJob f with running := false }

/-- The stored record, `job.meta["llm_call"]`. -/
def record (w : World) : Option LLMCallJob := w.job.bind fun job => job.jobMeta.llmCall

/-- The status in the stored record. -/
def storedStatus (w : World) : Option CallStatus := w.record.map LLMCallJob.status

def rqStatus (w : World) : Option JobStatus := w.job.map RQJob.status

end World

open Command in
/-- The effect of one command. A command waits when it needs a job that is not
    there or not on the queue; a lost worker issues nothing more.

    What RQ does is taken from rq 2.6.0, which the repository pins: a job can be
    taken, with empty `meta`, as soon as it is pushed; `save_meta` writes the whole
    dictionary; `Job.retry` saves the job object the run was made with, `meta` included,
    uses up a re-run and queues the job; a normal return and a job that is given up
    leave `meta`; and the cleanup of a lost worker's job marks it failed when no re-run
    is left. (While some are left it queues the job again: such runs are not modelled,
    and the job of a worker lost then stays as it is.) Each command is atomic in Redis. -/
def exec (party : Party) (command : Command) (w : World) : Option (command.Reply × World) :=
  if party = .worker ∧ w.workerLost then none else
  match command with
  | utcnow => some (w.env.clock party (w.asked party), w.ask party)
  | readMetrics => some (w.metrics, w)
  | incrMetric field amount => some ((), w.incrMetric field amount)
  | queueDepth => some (w.env.queueDepth (w.asked party), w.ask party)
  | activeJobCount => some (w.env.activeJobs (w.asked party), w.ask party)
  | jobPosition => some (w.env.position party (w.asked party), w.ask party)
  | push payload =>
      some ((), { w with job := some ⟨payload, {}, .queued, none⟩, queued := true })
  | fetchJob _ => some (w.job.map fun job => ⟨job.args, job.jobMeta, job.result⟩, w)
  | jobStatus => w.job.map fun job => (job.status, w)
  | remove => some ((), { w with queued := false })
  | saveMeta saved => some ((), w.mapJob fun job => { job with jobMeta := saved })
  | setStatus status => some ((), w.mapJob fun job => { job with status := status })
  | xadd event => some ((), { w with events := w.events ++ [event] })
  | pop => if w.queued then some ((), { w with queued := false, running := true }) else none
  | interrupt =>
      some (w.env.interrupts w.interruptChecks, { w with interruptChecks := w.interruptChecks + 1 })
  | loadService =>
      some (w.env.service w.serviceLoads, { w with serviceLoads := w.serviceLoads + 1 })
  | askModel request schema =>
      some (w.env.ask w.modelCalls request schema, { w with modelCalls := w.modelCalls + 1 })
  | generateText request =>
      some (w.env.generate w.modelCalls request, { w with modelCalls := w.modelCalls + 1 })
  | openStream request =>
      some (w.env.stream w.modelCalls request, { w with modelCalls := w.modelCalls + 1 })
  | nextChunk => some ((), w)
  | closeStream => some ((), w)
  | finish result =>
      some ((), w.release fun job => { job with status := .finished, result := some result })
  | requeue saved =>
      let w := w.release fun job => { job with jobMeta := saved, status := .queued }
      some ((), { w with queued := true, reruns := w.reruns + 1 })
  | giveUp => some ((), w.release fun job => { job with status := .failed })
  | abandon granted =>
      let lost := w.release fun job => { job with status := .failed }
      if w.running = true ∧ w.reruns = granted then some ((), { lost with workerLost := true }) else none

def machine : Machine signature Party World := ⟨exec⟩

end LanguageAgent.Queue
