import DeliveryRouting.Proofs.Jobs.Interleaving

/-! # Jobs: one worker for each

However submissions, cancellations and workers interleave, no job has two workers, and one that
waits or runs has one: it is not forgotten, and submitting it again starts nothing. When all workers
have ended, with whatever result, every job has come to its end. -/

namespace DeliveryRouting

namespace Service

/-- Every active job has one worker in the stage that goes with its status, and no job has two. -/
structure Staffed (s : Service) : Prop where
  length_crew_le : ∀ id : String, (s.crew id).length ≤ 1
  waiting : ∀ (id : String) (e : JobEntry), s.table[id]? = some e → e.status = .pending →
    ∃ w, s.crew id = [w] ∧ w.stage = .waiting
  planning : ∀ (id : String) (e : JobEntry), s.table[id]? = some e → e.status = .running →
    ∃ w rest, s.crew id = [w] ∧ w.stage = .planning rest
  isTerminal : ∀ (id : String) (e : JobEntry), s.table[id]? = some e → s.crew id = [] →
    e.status.isTerminal = true

theorem submit_of_active {s : Service} {fresh : String} {r : Request} {e : JobEntry}
    (he : s.table[r.jobId.getD fresh]? = some e) (active : e.status.isActive = true)
    (now : Timestamp) : s.submit fresh r now = (s, ⟨r.jobId.getD fresh, e.status⟩) := by
  have obstacle : s.table.obstacle? (r.jobId.getD fresh) = some e.status :=
    JobTable.obstacle?_eq_some_iff.mpr ⟨e, he, .inl active, rfl⟩
  rw [submit_of_obstacle obstacle, JobTable.submit_of_active he active]

namespace Reachable

variable {s : Service} {planner : Planner}

theorem staffed (h : s.Reachable planner) : s.Staffed where
  length_crew_le id := (h.valid id).length_crew_le
  waiting id _ he status := (h.valid id).crew_of_pending he status
  planning id _ he status := (h.valid id).crew_of_running he status
  isTerminal id _ he left := (h.valid id).isTerminal_of_crew he left

/-- **One worker for each job, and none is stuck.** Every active job has one worker, a submission of
it changes nothing, and once all workers have ended all jobs have. -/
theorem one_worker_each (h : s.Reachable planner) :
    s.Staffed ∧
    (∀ (fresh : String) (r : Request) (now : Timestamp) (e : JobEntry),
      s.table[r.jobId.getD fresh]? = some e → e.status.isActive = true →
      s.submit fresh r now = (s, ⟨r.jobId.getD fresh, e.status⟩)) ∧
    (s.workers = [] → ∀ (id : String) (e : JobEntry), s.table[id]? = some e →
      e.status.isTerminal = true) := by
  refine ⟨h.staffed, fun fresh r now e he active => submit_of_active he active now,
    fun ended id e he => h.staffed.isTerminal id e he ?_⟩
  rw [crew, ended, List.filter_nil]

/-- While the small job runs, it has its worker and cannot be submitted, and when the worker has
ended, so has the job. -/
theorem one_worker_each_pairJob :
    (∃ w rest, (idle.run pairPlanner begun).crew "pair" = [w] ∧ w.stage = .planning rest) ∧
    (idle.run pairPlanner begun).submit "" pairJob ⟨4⟩ =
      (idle.run pairPlanner begun, ⟨"pair", .running⟩) ∧
    (idle.run pairPlanner (begun ++ finished)).workers = [] ∧
    (pairEntry.finish (.ok pairResponse) ⟨7⟩).status.isTerminal = true := by
  obtain ⟨staffed, resubmitted, -⟩ := one_worker_each (reachable_run pairPlanner begun)
  obtain ⟨-, -, ended⟩ := one_worker_each (reachable_run pairPlanner (begun ++ finished))
  have left : (idle.run pairPlanner (begun ++ finished)).workers = [] := by rw [run_finished]
  exact ⟨staffed.planning "pair" pairEntry getElem?_run_begun rfl,
    resubmitted "" pairJob ⟨4⟩ pairEntry getElem?_run_begun rfl, left,
    ended left "pair" _ getElem?_run_finished⟩

end Reachable

end Service

end DeliveryRouting
