import LanguageAgent.Queue.Conformance

/-! # Invariants of runs

What each command does to the world, and the rule by which a property of the
history, the world and the phases holds along every guarded run.
-/

namespace LanguageAgent.Queue

open Interleaving

/-! ## Effects -/

/-- Two worlds that differ at most in how many answers have been taken. -/
structure World.SameStore (w w' : World) : Prop where
  env : w'.env = w.env
  job : w'.job = w.job
  queued : w'.queued = w.queued
  events : w'.events = w.events
  running : w'.running = w.running
  workerLost : w'.workerLost = w.workerLost
  reruns : w'.reruns = w.reruns

theorem World.SameStore.refl {w : World} : w.SameStore w := ⟨rfl, rfl, rfl, rfl, rfl, rfl, rfl⟩

/-- Commands that leave the job, its queue and its events as they are. -/
def Command.isPassive : Command → Bool
  | .push _ | .remove | .saveMeta _ | .setStatus _ | .xadd _ | .pop | .finish _ | .requeue _ | .giveUp
  | .abandon _ => false
  | _ => true

theorem Command.isPassive_of_isNeutral {command : Command} (neutral : command.isNeutral) :
    command.isPassive := by
  cases command <;> first | rfl | exact absurd neutral Bool.false_ne_true

/-- What a `Job.fetch` yields. -/
def World.snapshot (w : World) : Option Snapshot :=
  w.job.map fun job => ⟨job.args, job.jobMeta, job.result⟩

theorem World.SameStore.snapshot {w w' : World} (same : w.SameStore w') : w'.snapshot = w.snapshot := by
  simp only [World.snapshot, same.job]

theorem World.SameStore.record {w w' : World} (same : w.SameStore w') : w'.record = w.record := by
  simp only [World.record, same.job]

/-- Commands that leave what a fetch reads, and RQ's count of re-runs. -/
def Command.keepsRecord : Command → Bool
  | .push _ | .saveMeta _ | .finish _ | .requeue _ => false
  | _ => true

/-- The record a command stores. -/
def Command.writes : Command → Option LLMCallJob
  | .saveMeta saved => saved.llmCall
  | _ => none

/-- What a command appends to the stream of its job. -/
def Command.appends : Command → List Dict
  | .xadd event => [event]
  | _ => []

/-- Commands that leave RQ's queue as it is. -/
def Command.keepsQueue : Command → Bool
  | .push _ | .remove | .pop | .requeue _ => false
  | _ => true

/-- Every command can be answered. -/
theorem Command.reply_nonempty (command : Command) : Nonempty command.Reply := by
  cases command <;> exact ⟨by
    first
    | exact ()
    | exact (0 : Nat)
    | exact none
    | exact .queued
    | exact .error { className := "", message := "" }
    | exact ⟨[], none⟩
    | exact fun _ => none
    | exact (0 : Timestamp)⟩

section Effects

variable {party : Party} {w w' : World}

theorem exec_passive {command : Command} {reply : command.Reply} (passive : command.isPassive)
    (answered : exec party command w = some (reply, w')) : w.SameStore w' := by
  unfold exec at answered
  split at answered
  · cases answered
  · cases command with
    | jobStatus =>
        obtain ⟨job, _, same⟩ := Option.map_eq_some_iff.mp answered
        cases same
        exact .refl
    | _ => first
        | exact absurd passive Bool.false_ne_true
        | (cases answered; exact ⟨rfl, rfl, rfl, rfl, rfl, rfl, rfl⟩)

/-- Neutral commands do not reach the model or the exceptions of the store. -/
theorem exec_neutral {command : Command} {reply : command.Reply} (neutral : command.isNeutral)
    (answered : exec party command w = some (reply, w')) :
    w'.modelCalls = w.modelCalls ∧ w'.interruptChecks = w.interruptChecks ∧
      w'.serviceLoads = w.serviceLoads := by
  unfold exec at answered
  split at answered
  · cases answered
  · cases command <;> first
      | exact absurd neutral Bool.false_ne_true
      | (cases answered; exact ⟨rfl, rfl, rfl⟩)

theorem exec_worker_present {command : Command} {reply : command.Reply}
    (answered : exec .worker command w = some (reply, w')) : w.workerLost = false := by
  unfold exec at answered
  split at answered
  · cases answered
  · rename_i present
    exact Bool.eq_false_iff.mpr fun lost => present ⟨rfl, lost⟩

theorem exec_fetchJob {site : FetchSite} {reply : Option Snapshot}
    (answered : exec party (.fetchJob site) w = some (reply, w')) : reply = w.snapshot := by
  unfold exec at answered
  split at answered <;> cases answered
  rfl

theorem exec_jobStatus {reply : JobStatus} (answered : exec party .jobStatus w = some (reply, w')) :
    ∃ job, w.job = some job ∧ reply = job.status := by
  unfold exec at answered
  split at answered
  · cases answered
  · obtain ⟨job, found, same⟩ := Option.map_eq_some_iff.mp answered
    cases same
    exact ⟨job, found, rfl⟩

theorem exec_interrupt {reply : Option PyError}
    (answered : exec party .interrupt w = some (reply, w')) :
    reply = w.env.interrupts w.interruptChecks := by
  unfold exec at answered
  split at answered <;> cases answered
  rfl

theorem exec_push {payload : LLMCallJob} {reply : Unit}
    (answered : exec party (.push payload) w = some (reply, w')) :
    w' = { w with job := some ⟨payload, {}, .queued, none⟩, queued := true } := by
  unfold exec at answered
  split at answered <;> cases answered
  rfl

theorem exec_remove {reply : Unit} (answered : exec party .remove w = some (reply, w')) :
    w' = { w with queued := false } := by
  unfold exec at answered
  split at answered <;> cases answered
  rfl

theorem exec_saveMeta {saved : JobMeta} {reply : Unit}
    (answered : exec party (.saveMeta saved) w = some (reply, w')) :
    w' = w.mapJob fun job => { job with jobMeta := saved } := by
  unfold exec at answered
  split at answered <;> cases answered
  rfl

theorem exec_setStatus {status : JobStatus} {reply : Unit}
    (answered : exec party (.setStatus status) w = some (reply, w')) :
    w' = w.mapJob fun job => { job with status := status } := by
  unfold exec at answered
  split at answered <;> cases answered
  rfl

theorem exec_xadd {event : Dict} {reply : Unit}
    (answered : exec party (.xadd event) w = some (reply, w')) :
    w' = { w with events := w.events ++ [event] } := by
  unfold exec at answered
  split at answered <;> cases answered
  rfl

theorem exec_pop {reply : Unit} (answered : exec party .pop w = some (reply, w')) :
    w.queued = true ∧ w' = { w with queued := false, running := true } := by
  unfold exec at answered
  split at answered
  · cases answered
  · simp only at answered
    split at answered <;> cases answered
    exact ⟨‹_›, rfl⟩

theorem exec_finish {result : LLMCallJob} {reply : Unit}
    (answered : exec party (.finish result) w = some (reply, w')) :
    w' = w.release fun job => { job with status := .finished, result := some result } := by
  unfold exec at answered
  split at answered <;> cases answered
  rfl

theorem exec_requeue {saved : JobMeta} {reply : Unit}
    (answered : exec party (.requeue saved) w = some (reply, w')) :
    w' = { w.release fun job => { job with jobMeta := saved, status := .queued } with
      queued := true, reruns := w.reruns + 1 } := by
  unfold exec at answered
  split at answered <;> cases answered
  rfl

theorem exec_giveUp {reply : Unit} (answered : exec party .giveUp w = some (reply, w')) :
    w' = w.release fun job => { job with status := .failed } := by
  unfold exec at answered
  split at answered <;> cases answered
  rfl

theorem exec_abandon {granted : Nat} {reply : Unit}
    (answered : exec party (.abandon granted) w = some (reply, w')) :
    w.running = true ∧ w.reruns = granted ∧
      w' = { w.release fun job => { job with status := .failed } with workerLost := true } := by
  unfold exec at answered
  split at answered
  · cases answered
  · simp only at answered
    split at answered <;> cases answered
    rename_i free
    exact ⟨free.1, free.2, rfl⟩

theorem exec_env {command : Command} {reply : command.Reply}
    (answered : exec party command w = some (reply, w')) : w'.env = w.env := by
  by_cases passive : command.isPassive
  · exact (exec_passive passive answered).env
  · cases command with
    | push payload => obtain rfl := exec_push answered; rfl
    | remove => obtain rfl := exec_remove answered; rfl
    | saveMeta saved => obtain rfl := exec_saveMeta answered; rfl
    | setStatus status => obtain rfl := exec_setStatus answered; rfl
    | xadd event => obtain rfl := exec_xadd answered; rfl
    | pop => obtain ⟨_, rfl⟩ := exec_pop answered; rfl
    | finish result => obtain rfl := exec_finish answered; rfl
    | requeue saved => obtain rfl := exec_requeue answered; rfl
    | giveUp => obtain rfl := exec_giveUp answered; rfl
    | abandon granted => obtain ⟨_, _, rfl⟩ := exec_abandon answered; rfl
    | _ => exact absurd rfl passive

/-- Every command but an append leaves the stream. -/
theorem exec_events {command : Command} {reply : command.Reply} (silent : ∀ event, command ≠ .xadd event)
    (answered : exec party command w = some (reply, w')) : w'.events = w.events := by
  by_cases passive : command.isPassive
  · exact (exec_passive passive answered).events
  · cases command with
    | xadd event => exact absurd rfl (silent event)
    | push payload => obtain rfl := exec_push answered; rfl
    | remove => obtain rfl := exec_remove answered; rfl
    | saveMeta saved => obtain rfl := exec_saveMeta answered; rfl
    | setStatus status => obtain rfl := exec_setStatus answered; rfl
    | pop => obtain ⟨_, rfl⟩ := exec_pop answered; rfl
    | finish result => obtain rfl := exec_finish answered; rfl
    | requeue saved => obtain rfl := exec_requeue answered; rfl
    | giveUp => obtain rfl := exec_giveUp answered; rfl
    | abandon granted => obtain ⟨_, _, rfl⟩ := exec_abandon answered; rfl
    | _ => exact absurd rfl passive

theorem exec_appends {command : Command} {reply : command.Reply}
    (answered : exec party command w = some (reply, w')) :
    w'.events = w.events ++ command.appends := by
  by_cases silent : ∀ event, command ≠ .xadd event
  · rw [exec_events silent answered]
    cases command <;> first | exact (List.append_nil _).symm | exact absurd rfl (silent _)
  · push Not at silent
    obtain ⟨event, rfl⟩ := silent
    obtain rfl := exec_xadd answered
    rfl

theorem Command.appends_neutral {command : Command} (neutral : command.isNeutral) : command.appends = [] := by
  cases command <;> first | rfl | exact absurd neutral Bool.false_ne_true

theorem exec_workerLost {command : Command} {reply : command.Reply} (notReaped : ∀ granted, command ≠ .abandon granted)
    (answered : exec party command w = some (reply, w')) : w'.workerLost = w.workerLost := by
  by_cases passive : command.isPassive
  · exact (exec_passive passive answered).workerLost
  · cases command with
    | push payload => obtain rfl := exec_push answered; rfl
    | remove => obtain rfl := exec_remove answered; rfl
    | saveMeta saved => obtain rfl := exec_saveMeta answered; rfl
    | setStatus status => obtain rfl := exec_setStatus answered; rfl
    | xadd event => obtain rfl := exec_xadd answered; rfl
    | pop => obtain ⟨_, rfl⟩ := exec_pop answered; rfl
    | finish result => obtain rfl := exec_finish answered; rfl
    | requeue saved => obtain rfl := exec_requeue answered; rfl
    | giveUp => obtain rfl := exec_giveUp answered; rfl
    | abandon granted => exact absurd rfl (notReaped granted)
    | _ => exact absurd rfl passive

theorem exec_queued {command : Command} {reply : command.Reply} (keeps : command.keepsQueue)
    (answered : exec party command w = some (reply, w')) : w'.queued = w.queued := by
  by_cases passive : command.isPassive
  · exact (exec_passive passive answered).queued
  · cases command with
    | saveMeta saved => obtain rfl := exec_saveMeta answered; rfl
    | setStatus status => obtain rfl := exec_setStatus answered; rfl
    | xadd event => obtain rfl := exec_xadd answered; rfl
    | finish result => obtain rfl := exec_finish answered; rfl
    | giveUp => obtain rfl := exec_giveUp answered; rfl
    | abandon granted => obtain ⟨_, _, rfl⟩ := exec_abandon answered; rfl
    | _ => first
        | exact absurd keeps Bool.false_ne_true
        | exact absurd rfl passive

/-- What a fetch reads after `save_meta`. -/
def Snapshot.withMeta (saved : JobMeta) (job : Snapshot) : Snapshot := { job with jobMeta := saved }

theorem snapshot_saveMeta {saved : JobMeta} {reply : Unit}
    (answered : exec party (.saveMeta saved) w = some (reply, w')) :
    w'.snapshot = w.snapshot.map (Snapshot.withMeta saved) ∧ w'.reruns = w.reruns := by
  obtain rfl := exec_saveMeta answered
  cases job : w.job <;> simp [World.snapshot, World.mapJob, job, Snapshot.withMeta]

theorem snapshot_finish {result : LLMCallJob} {reply : Unit}
    (answered : exec party (.finish result) w = some (reply, w')) :
    w'.snapshot = (w.snapshot.map fun job => { job with result := some result }) ∧
      w'.reruns = w.reruns := by
  obtain rfl := exec_finish answered
  cases job : w.job <;> simp [World.snapshot, World.release, World.mapJob, job]

theorem snapshot_requeue {saved : JobMeta} {reply : Unit}
    (answered : exec party (.requeue saved) w = some (reply, w')) :
    w'.snapshot = w.snapshot.map (Snapshot.withMeta saved) ∧ w'.reruns = w.reruns + 1 := by
  obtain rfl := exec_requeue answered
  cases job : w.job <;> simp [World.snapshot, World.release, World.mapJob, job, Snapshot.withMeta]

theorem snapshot_kept {command : Command} {reply : command.Reply} (keeps : command.keepsRecord)
    (answered : exec party command w = some (reply, w')) :
    w'.snapshot = w.snapshot ∧ w'.reruns = w.reruns := by
  have status : ∀ f : RQJob → RQJob, (∀ job, (f job).args = job.args) →
      (∀ job, (f job).jobMeta = job.jobMeta) → (∀ job, (f job).result = job.result) →
      (w.mapJob f).snapshot = w.snapshot := by
    intro f args jobMeta result
    cases job : w.job <;> simp [World.snapshot, World.mapJob, job, args, jobMeta, result]
  by_cases passive : command.isPassive
  · have same := exec_passive passive answered
    exact ⟨same.snapshot, same.reruns⟩
  · cases command with
    | remove => obtain rfl := exec_remove answered; exact ⟨rfl, rfl⟩
    | setStatus next =>
        obtain rfl := exec_setStatus answered
        exact ⟨status _ (fun _ => rfl) (fun _ => rfl) (fun _ => rfl), rfl⟩
    | xadd event => obtain rfl := exec_xadd answered; exact ⟨rfl, rfl⟩
    | pop => obtain ⟨_, rfl⟩ := exec_pop answered; exact ⟨rfl, rfl⟩
    | giveUp =>
        obtain rfl := exec_giveUp answered
        exact ⟨status _ (fun _ => rfl) (fun _ => rfl) (fun _ => rfl), rfl⟩
    | abandon =>
        obtain ⟨_, _, rfl⟩ := exec_abandon answered
        exact ⟨status _ (fun _ => rfl) (fun _ => rfl) (fun _ => rfl), rfl⟩
    | _ => first
        | exact absurd keeps Bool.false_ne_true
        | exact absurd rfl passive

theorem World.record_eq : w.record = w.snapshot.bind fun job => job.jobMeta.llmCall := by
  cases job : w.job <;> simp [World.record, World.snapshot, job]

/-- The record after `save_meta`, where a job is stored at all. -/
theorem record_saveMeta {saved : JobMeta} {reply : Unit}
    (answered : exec party (.saveMeta saved) w = some (reply, w')) (stored : w.snapshot.isSome) :
    w'.record = saved.llmCall := by
  obtain ⟨job, found⟩ := Option.isSome_iff_exists.mp stored
  rw [World.record_eq, (snapshot_saveMeta answered).1, found]
  rfl

/-- Only a push or a save changes the stored record, the worker's or RQ's. -/
theorem record_kept {command : Command} {reply : command.Reply}
    (noPush : ∀ payload, command ≠ .push payload) (noSave : ∀ saved, command ≠ .saveMeta saved)
    (noRequeue : ∀ saved, command ≠ .requeue saved)
    (answered : exec party command w = some (reply, w')) : w'.record = w.record := by
  rw [World.record_eq, World.record_eq]
  cases keeps : command.keepsRecord with
  | true => rw [(snapshot_kept keeps answered).1]
  | false =>
      cases command with
      | push payload => exact absurd rfl (noPush payload)
      | saveMeta saved => exact absurd rfl (noSave saved)
      | finish result =>
          rw [(snapshot_finish answered).1]
          cases w.snapshot <;> rfl
      | requeue saved => exact absurd rfl (noRequeue saved)
      | _ => exact absurd keeps.symm Bool.false_ne_true

end Effects

/-! ## The invariant rule, party by party -/

/-- The phases of all parties that move by phases. -/
structure Phases where
  api : ApiPhase
  worker : WorkerPhase
  cancel : Nat → CancelPhase
  wait : Nat → WaitPhase

def Phases.of (phase : ∀ party, Phase party) : Phases :=
  ⟨phase .api, phase .worker, fun call => phase (.cancel call), fun call => phase (.wait call)⟩

abbrev Trace := List (Label signature Party)

abbrev Property := Trace → World → Phases → Prop

/-- Each move of each party keeps the property, given what is known to hold anyway. -/
structure Preserved (settings : Settings) (new : NewCall) (guard : Guard signature Party World)
    (Given Inv : Property) : Prop where
  api : ∀ {trace w p command reply w' after}, Given trace w p → Inv trace w p →
    guard trace w ⟨.api, command⟩ → ApiMoves settings new p.api command reply after →
    exec .api command w = some (reply, w') →
    Inv (trace ++ [⟨.api, command⟩]) w' { p with api := after }
  worker : ∀ {trace w p command reply w' after}, Given trace w p → Inv trace w p →
    guard trace w ⟨.worker, command⟩ → WorkerMoves settings p.worker command reply after →
    exec .worker command w = some (reply, w') →
    Inv (trace ++ [⟨.worker, command⟩]) w' { p with worker := after }
  cancel : ∀ {trace w p call command reply w' after}, Given trace w p → Inv trace w p →
    guard trace w ⟨.cancel call, command⟩ → CancelMoves new.jobId (p.cancel call) command reply after →
    exec (.cancel call) command w = some (reply, w') →
    Inv (trace ++ [⟨.cancel call, command⟩]) w'
      { p with cancel := Function.update p.cancel call after }
  wait : ∀ {trace w p call command reply w' after}, Given trace w p → Inv trace w p →
    guard trace w ⟨.wait call, command⟩ → WaitMoves (p.wait call) command reply after →
    exec (.wait call) command w = some (reply, w') →
    Inv (trace ++ [⟨.wait call, command⟩]) w' { p with wait := Function.update p.wait call after }
  reaper : ∀ {trace w p w'}, Given trace w p → Inv trace w p →
    guard trace w ⟨.reaper, .abandon (rqRetries settings)⟩ →
    exec .reaper (.abandon (rqRetries settings)) w = some ((), w') →
    Inv (trace ++ [⟨.reaper, .abandon (rqRetries settings)⟩]) w' p

/-- Nothing is known beforehand. -/
def Unconditionally : Property := fun _ _ _ => True

/-- What is known beforehand may say more than is needed. -/
theorem Preserved.weaken {settings : Settings} {new : NewCall} {guard : Guard signature Party World}
    {Given Stronger Inv : Property} (kept : Preserved settings new guard Given Inv)
    (implies : ∀ {trace w p}, Stronger trace w p → Given trace w p) :
    Preserved settings new guard Stronger Inv where
  api known := kept.api (implies known)
  worker known := kept.worker (implies known)
  cancel known := kept.cancel (implies known)
  wait known := kept.wait (implies known)
  reaper known := kept.reaper (implies known)

/-- A property may build on one that is kept on its own. -/
theorem Preserved.and {settings : Settings} {new : NewCall} {guard : Guard signature Party World}
    {Given Base Inv : Property} (base : Preserved settings new guard Given Base)
    (kept : Preserved settings new guard (fun trace w p => Given trace w p ∧ Base trace w p) Inv) :
    Preserved settings new guard Given fun trace w p => Base trace w p ∧ Inv trace w p where
  api given inv allowed move answered :=
    ⟨base.api given inv.1 allowed move answered, kept.api ⟨given, inv.1⟩ inv.2 allowed move answered⟩
  worker given inv allowed move answered :=
    ⟨base.worker given inv.1 allowed move answered,
      kept.worker ⟨given, inv.1⟩ inv.2 allowed move answered⟩
  cancel given inv allowed move answered :=
    ⟨base.cancel given inv.1 allowed move answered,
      kept.cancel ⟨given, inv.1⟩ inv.2 allowed move answered⟩
  wait given inv allowed move answered :=
    ⟨base.wait given inv.1 allowed move answered,
      kept.wait ⟨given, inv.1⟩ inv.2 allowed move answered⟩
  reaper given inv allowed answered :=
    ⟨base.reaper given inv.1 allowed answered, kept.reaper ⟨given, inv.1⟩ inv.2 allowed answered⟩

private theorem of_update (phase : ∀ party, Phase party) :
    (∀ after, Phases.of (Function.update phase .api after) = { Phases.of phase with api := after }) ∧
    (∀ after, Phases.of (Function.update phase .worker after) =
      { Phases.of phase with worker := after }) ∧
    (∀ call after, Phases.of (Function.update phase (.cancel call) after) =
      { Phases.of phase with cancel := Function.update (Phases.of phase).cancel call after }) ∧
    (∀ call after, Phases.of (Function.update phase (.wait call) after) =
      { Phases.of phase with wait := Function.update (Phases.of phase).wait call after }) ∧
    (∀ after, Phases.of (Function.update phase .reaper after) = Phases.of phase) := by
  refine ⟨fun _ => by simp [Phases.of], fun _ => by simp [Phases.of], fun call after => ?_,
    fun call after => ?_, fun _ => by simp [Phases.of]⟩
  · simp only [Phases.of, ne_eq, reduceCtorEq, not_false_eq_true, Function.update_of_ne,
      Phases.mk.injEq, true_and, and_true]
    funext other
    by_cases same : other = call
    · subst same; simp
    · simp [Function.update_of_ne, same]
  · simp only [Phases.of, ne_eq, reduceCtorEq, not_false_eq_true, Function.update_of_ne,
      Phases.mk.injEq, true_and]
    funext other
    by_cases same : other = call
    · subst same; simp
    · simp [Function.update_of_ne, same]

/-- A preserved property holds wherever a guarded run leads. -/
theorem Preserved.reach {settings : Settings} {new : NewCall} {guard : Guard signature Party World}
    {Inv : Property} (kept : Preserved settings new guard Unconditionally Inv) {c d : System}
    (reach : machine.Reach guard c d) {phase : ∀ party, Phase party}
    (tracked : Tracked settings new c phase) (start : Inv c.trace c.world (Phases.of phase)) :
    ∃ phase', Tracked settings new d phase' ∧ Inv d.trace d.world (Phases.of phase') := by
  refine reach.invariant (fun trace world phase => Inv trace world (Phases.of phase)) ?_ tracked start
  intro trace world phase party command reply world' after inv allowed move answered
  obtain ⟨api, worker, cancel, wait, reaper⟩ := of_update phase
  cases party with
  | api => rw [api]; exact kept.api trivial inv allowed move answered
  | worker => rw [worker]; exact kept.worker trivial inv allowed move answered
  | cancel call => rw [cancel]; exact kept.cancel trivial inv allowed move answered
  | wait call => rw [wait]; exact kept.wait trivial inv allowed move answered
  | reaper =>
      rw [reaper]
      cases move
      exact kept.reaper trivial inv allowed answered

/-- Wherever a run leads, every party is in a phase its program obeys. -/
theorem reached_tracked {settings : Settings} {new : NewCall} {polls : Nat → Nat} {env : Environment}
    {guard : Guard signature Party World} {d : System}
    (run : machine.Reach guard (boot settings new polls env) d) :
    ∃ phase, Tracked settings new d phase := by
  have kept : Preserved settings new guard Unconditionally Unconditionally :=
    ⟨fun _ _ _ _ _ => trivial, fun _ _ _ _ _ => trivial, fun _ _ _ _ _ => trivial,
      fun _ _ _ _ _ => trivial, fun _ _ _ _ => trivial⟩
  obtain ⟨phase, tracked, _⟩ := kept.reach run boot_tracked trivial
  exact ⟨phase, tracked⟩

end LanguageAgent.Queue
