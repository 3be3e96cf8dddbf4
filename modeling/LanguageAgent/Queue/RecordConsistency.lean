import LanguageAgent.Queue.Bookkeeping

/-! # Every stored record is consistent -/

namespace LanguageAgent.Queue

open Interleaving

variable {settings : Settings} {new : NewCall} {polls : Nat → Nat} {env : Environment} {d : System}

/-- Where a run from an empty Redis leads, the bookkeeping is in order. -/
theorem reached_bookkeeping {guard : Guard signature Party World}
    (run : machine.Reach guard (boot settings new polls env) d) :
    ∃ phase, Tracked settings new d phase ∧ Booked settings d.trace d.world (Phases.of phase) := by
  refine booked_preserved.reach run boot_tracked ⟨boot_bookkeeping, ?_⟩
  intro label member
  cases member

/-- Whatever the interleaving and wherever an exception strikes, each record written to
    `job.meta`, RQ's own save of a job it queues again included, and each record an attempt
    returns has `completed_at`, `error` and `started_at` set as its status says. -/
theorem written_records_consistent
    (run : machine.Reach Machine.anyStep (boot settings new polls env) d) :
    (∀ party saved, ⟨party, .saveMeta saved⟩ ∈ d.trace →
      ∃ call, saved.llmCall = some call ∧ call.Consistent) ∧
    (∀ party saved call, ⟨party, .requeue saved⟩ ∈ d.trace → saved.llmCall = some call → call.Consistent) ∧
    ∀ party result, ⟨party, .finish result⟩ ∈ d.trace → result.Consistent := by
  obtain ⟨_, _, _, logged⟩ := reached_bookkeeping run
  exact ⟨fun party saved written => logged _ written, fun party saved call requeued => logged _ requeued call,
    fun party result returned => logged _ returned⟩

/-- The store fails right after the record of a completed job was saved. -/
def failingStore : Environment :=
  { demoEnvironment with interrupts := fun check => if check = 5 then some demoError else none }

theorem written_records_consistent_demo : ∃ d : System, d.world.storedStatus = some .queued ∧
    d.world.reruns = 1 ∧ ∀ party saved, ⟨party, .saveMeta saved⟩ ∈ d.trace →
      ∃ call, saved.llmCall = some call ∧ call.Consistent := by
  obtain ⟨d, run, seen⟩ := Machine.schedule_observed machine Machine.anyStep
    (List.replicate 8 .api ++ List.replicate 26 .worker)
    (boot demoSettings (demoCall .textGeneration) (fun _ => 0) failingStore)
    (fun d => (d.world.storedStatus, d.world.reruns)) (some .queued, 1) (by decide +kernel)
  obtain ⟨queued, reruns⟩ := Prod.mk.inj seen
  exact ⟨d, queued, reruns, (written_records_consistent run).1⟩

end LanguageAgent.Queue
