import LanguageAgent.Queue.RecordContract

/-! # Reading stored records back

`get_job_result` validates what it reads, and assignment to a record does not. The two
agree on every record whose result has the declared type.
-/

namespace LanguageAgent.Queue

open Interleaving

/-- The value has the type declared for a result, `dict | str | None`. -/
def Declared : Json → Prop
  | .null | .str _ | .obj _ => True
  | .bool _ | .int _ | .float _ | .arr _ => False

theorem validates_iff {call : LLMCallJob} : call.validates = true ↔ Declared call.result := by
  unfold LLMCallJob.validates
  cases call.result <;> simp [Declared]

/-! ## One read -/

/-- The store serves this job, and promises nothing else. -/
def serving (job : Snapshot) : Contract signature where
  reply
    | .fetchJob _, reply => reply = some job
    | _, _ => True
  command _ := True

/-- `get_job_result` on a job with this payload succeeds and yields the same record, up to
    the three fields it computes anew. -/
def ReadsBack (settings : Settings) (jobId : String) (call : LLMCallJob) : Prop :=
  ∀ (job : Snapshot) (site : FetchSite), job.payload = some call →
    ((getJobResult settings jobId site : QueueM Unit LLMCallJob) ()).Honours (serving job)
      fun out => ∃ read, out.1 = .ok read ∧ call.SameButRead read

variable {settings : Settings} {new : NewCall} {polls : Nat → Nat} {env : Environment} {d : System}
  {jobId : String} {call : LLMCallJob}

section Serving

variable {job : Snapshot} {E : QueueError → Prop}

private theorem fetched {site : FetchSite} : (getJob site : QueueM Unit Snapshot).Maintains (serving job)
    (fun _ => True) E (· = job) := by
  apply (Routine.maintains_issue (S := signature) trivial).bind
  intro reply served
  obtain rfl : reply = some job := served
  exact Routine.maintains_pure rfl

private theorem timed {read : LLMCallJob} (same : call.SameButRead read) :
    (do
      let elapsed ← computeElapsedSeconds read
      pure { read with elapsedSeconds := elapsed } : QueueM Unit LLMCallJob).Maintains (serving job)
        (fun _ => True) E call.SameButRead := by
  have computed : (computeElapsedSeconds read : QueueM Unit _).Maintains (serving job)
      (fun _ => True) E fun _ => True := by
    unfold computeElapsedSeconds
    cases read.completedAt with
    | some endTime => exact Routine.maintains_pure trivial
    | none =>
        apply (Routine.maintains_issue (S := signature) trivial).bind
        exact fun _ _ => Routine.maintains_pure trivial
  apply computed.bind
  intro elapsed _
  obtain ⟨channel, position, _, rfl⟩ := same
  exact Routine.maintains_pure ⟨channel, position, elapsed, rfl⟩

/-- A read of a job ends as the validation of its payload decides. -/
theorem getJobResult_serving (settings : Settings) (jobId : String) (site : FetchSite)
    (E : QueueError → Prop) (good : LLMCallJob → Prop) (payload : job.payload = some call)
    (valid : call.validates = true → ∀ read, call.SameButRead read → good read)
    (invalid : call.validates = false → ∀ error, E (.other error)) :
    (getJobResult settings jobId site : QueueM Unit LLMCallJob).Maintains (serving job)
      (fun _ => True) E good := by
  apply fetched.bind
  intro found same
  rw [same, payload]
  by_cases validates : call.validates
  · have validated : (modelValidate call : QueueM Unit _).Maintains (serving job) (fun _ => True) E
        (· = call) := by
      simp only [modelValidate, validates, if_true]
      exact Routine.maintains_pure rfl
    apply validated.bind
    rintro _ rfl
    dsimp only
    apply Routine.maintains_ite
    · intro _
      apply (Routine.maintains_issue (S := signature) trivial).bind
      intro position _
      exact (timed ⟨_, _, _, rfl⟩).mono (valid validates)
    · exact fun _ => (timed ⟨_, _, _, rfl⟩).mono (valid validates)
  · have refused : (modelValidate call : QueueM Unit LLMCallJob).Maintains (serving job)
        (fun _ => True) E fun _ => False := by
      simp only [modelValidate, validates]
      exact Routine.maintains_throw (invalid (Bool.eq_false_iff.mpr validates) _)
    exact refused.bind fun _ none => none.elim

theorem serving_answers (command : Command) : ∃ reply, (serving job).reply command reply := by
  obtain ⟨reply⟩ := command.reply_nonempty
  cases command with
  | fetchJob site => exact ⟨some job, rfl⟩
  | _ => exact ⟨reply, trivial⟩

end Serving

/-- Just the records whose result has the declared type can be read back. -/
theorem readsBack_iff : ReadsBack settings jobId call ↔ Declared call.result := by
  rw [← validates_iff]
  constructor
  · intro reads
    by_contra invalid
    have stored : Snapshot.payload ⟨call, { llmCall := some call }, none⟩ = some call := rfl
    have raises := getJobResult_serving settings jobId .resultRecord (fun _ => True) (fun _ => False)
      stored (fun valid => absurd valid invalid) fun _ _ => trivial
    obtain ⟨⟨out, _⟩, ⟨read, returned, _⟩, _, ended⟩ :=
      ((reads _ _ stored).and (raises () trivial)).ends serving_answers
    obtain rfl : out = .ok read := returned
    exact ended
  · intro valid job site payload
    have returns := getJobResult_serving settings jobId site (fun _ => False) call.SameButRead payload
      (fun _ _ same => same) fun invalid => absurd (invalid.symm.trans valid) Bool.false_ne_true
    apply (returns () trivial).mono
    rintro ⟨out, _⟩ ⟨_, ended⟩
    cases out with
    | ok read => exact ⟨read, rfl, ended⟩
    | error error => exact ended.elim

/-! ## What is written -/

/-- Results of the declared type, and any message. -/
def declaredResults : RecordRules where
  result := Declared
  lastError _ := True
  null := trivial
  text _ := trivial
  none := trivial
  safe _ := trivial
  refused := trivial

/-- As long as every answer to a structured call is an object, a string or `null`, each
    record written to `job.meta`, as the job is queued again too, and each record an
    attempt returns can be read back. -/
theorem written_records_read_back
    (run : machine.Reach (answersWithin declaredResults) (boot settings new polls env) d) :
    (∀ party saved, ⟨party, .saveMeta saved⟩ ∈ d.trace →
      ∃ call, saved.llmCall = some call ∧ ReadsBack settings new.jobId call) ∧
    (∀ party saved call, ⟨party, .requeue saved⟩ ∈ d.trace → saved.llmCall = some call →
      ReadsBack settings new.jobId call) ∧
    ∀ party result, ⟨party, .finish result⟩ ∈ d.trace → ReadsBack settings new.jobId result := by
  obtain ⟨_, _, issued⟩ := records_within run
  refine ⟨?_, ?_, ?_⟩
  · intro party saved written
    obtain ⟨some, held⟩ := issued _ written
    obtain ⟨call, stores⟩ := Option.isSome_iff_exists.mp some
    exact ⟨call, stores, readsBack_iff.mpr (held.call call stores).result⟩
  · intro party saved call written stores
    have held : declaredResults.Meta saved := issued _ written
    exact readsBack_iff.mpr (held.call call stores).result
  · intro party result returned
    have held : declaredResults.Call result := issued _ returned
    exact readsBack_iff.mpr held.result

/-- The check of one answer, as it is computed. -/
def answersDeclared (w : World) : Command → Bool
  | .askModel request schema => match w.env.ask w.modelCalls request schema with
      | .ok (.null) | .ok (.str _) | .ok (.obj _) | .error _ => true
      | .ok _ => false
  | _ => true

theorem answersDeclared_iff {trace : List (Label signature Party)} {w : World}
    {label : Label signature Party} :
    answersDeclared w label.command = true ↔ answersWithin declaredResults trace w label := by
  obtain ⟨party, command⟩ := label
  cases command with
  | askModel request schema =>
      simp only [answersDeclared, answersWithin]
      cases w.env.ask w.modelCalls request schema with
      | error error => simp
      | ok value => cases value <;> simp [declaredResults, Declared]
  | _ => exact ⟨fun _ => trivial, fun _ => rfl⟩

instance (trace : List (Label signature Party)) (w : World) (label : Label signature Party) :
    Decidable (answersWithin declaredResults trace w label) := decidable_of_iff _ answersDeclared_iff

theorem written_records_read_back_demo : ∃ d : System, d.world.storedStatus = some .completed ∧
    ∀ party saved, ⟨party, .saveMeta saved⟩ ∈ d.trace →
      ∃ call, saved.llmCall = some call ∧ ReadsBack demoSettings "job" call := by
  obtain ⟨d, run, seen⟩ := Machine.schedule_observed machine (answersWithin declaredResults)
    (List.replicate 8 .api ++ List.replicate 24 .worker)
    (boot demoSettings (demoCall .structuredJson) (fun _ => 0) demoEnvironment)
    (fun d => d.world.storedStatus) (some .completed) (by decide +kernel)
  exact ⟨d, seen, (written_records_read_back run).1⟩

/-- The model answers with an array, which is stored and cannot be read back. -/
theorem stored_array_unreadable : ∃ d : System, machine.Reach Machine.anyStep
    (boot demoSettings (demoCall .structuredJson) (fun _ => 0)
      { demoEnvironment with ask := fun _ _ _ => .ok (.arr []) }) d ∧
    ∃ call, d.world.record = some call ∧ call.status = .completed ∧
      ¬ ReadsBack demoSettings "job" call := by
  obtain ⟨d, run, seen⟩ := Machine.schedule_observed machine Machine.anyStep
    (List.replicate 8 .api ++ List.replicate 24 .worker)
    (boot demoSettings (demoCall .structuredJson) (fun _ => 0)
      { demoEnvironment with ask := fun _ _ _ => .ok (.arr []) })
    (fun d => d.world.record.map fun call => (call.status, call.validates)) (some (.completed, false))
    (by decide +kernel)
  obtain ⟨call, stored, same⟩ := Option.map_eq_some_iff.mp seen
  obtain ⟨completed, invalid⟩ := Prod.mk.inj same
  refine ⟨d, run, call, stored, completed, fun reads => ?_⟩
  rw [readsBack_iff, ← validates_iff, invalid] at reads
  exact Bool.false_ne_true reads

end LanguageAgent.Queue
