import DeliveryRouting.Proofs.Jobs.Interleaving

/-! # Jobs: cancelled for good

A job that is cancelled stays so, whenever the cancellation comes: before the job is submitted,
before its worker begins, while it plans, or just before it enters the result. A worker that has not
begun by then never plans. Only a job that is completed or has failed can no longer be cancelled.

This is about the events of a service whose workers can always be started (`Event`). -/

namespace DeliveryRouting

/-! ### Steps of a cancelled job -/

namespace Job

variable {planner : Planner} {id : String} {new? : Option Request} {j j' : Job}

def IsCancelled (j : Job) : Prop := ∃ e, j.entry? = some e ∧ e.status = .cancelled

/-- No worker of the job has begun. -/
def Unbegun (j : Job) : Prop := ∀ w ∈ j.crew, w.stage = .waiting

/-- A cancelled job stays cancelled, and none of its workers begins. -/
theorem IsCancelled.step (hj : j.IsCancelled) (valid : j.Valid) (h : Step planner id new? j j') :
    j'.IsCancelled ∧ (j.Unbegun → j'.Unbegun) := by
  obtain ⟨e, he, cancelled⟩ := hj
  -- what would end the cancellation has a guard that says there is none
  cases h with
  | stay => exact ⟨⟨e, he, cancelled⟩, fun unbegun => unbegun⟩
  | note => cases he; exact ⟨⟨_, rfl, cancelled⟩, fun unbegun => unbegun⟩
  | bury => cases he
  | cancel => exact ⟨⟨_, rfl, rfl⟩, fun unbegun => unbegun⟩
  | accept _ free =>
    rcases free e he with ended | ended
    · exact nomatch cancelled.symm.trans ended
    · exact nomatch cancelled.symm.trans ended
  | start calm | finish calm =>
    cases he
    exact absurd cancelled ((valid.sound rfl).ne_cancelled calm)
  | ask =>
    refine ⟨⟨e, he, cancelled⟩, fun unbegun => ?_⟩
    exact nomatch unbegun _ (List.mem_singleton_self _)
  | forgo | discard => exact ⟨⟨_, rfl, rfl⟩, fun _ _ hw => nomatch hw⟩

end Job

/-! ### A cancelled job in the service -/

namespace Service

variable {s : Service} {planner : Planner} {id : String}

/-- The request with which an event has a worker of a job call the planner: one that waits does so
when it goes on. -/
def call? (s : Service) (planner : Planner) (id : String) : Event → Option Request
  | .advance i now elapsed => s.workers[i]?.bind fun w =>
    match w.stage, (act planner s.table w now elapsed).2 with
    | .waiting, some _ => if w.id = id then some w.request else none
    | _, _ => none
  | _ => none

/-- The job is cancelled and without a result, to submit it is of no use, and the planner is not
called for it. -/
structure Barred (s : Service) (planner : Planner) (id : String) : Prop where
  entry : ∃ e, s.table[id]? = some e ∧ e.status = .cancelled ∧ e.response = none ∧ e.error = none
  refused : ∀ (fresh : String) (r : Request) (now : Timestamp), r.jobId.getD fresh = id →
    (s.submit fresh r now).2 = ⟨id, .cancelled⟩ ∧ (s.submit fresh r now).1.workers = s.workers
  uncalled : ∀ event : Event, s.call? planner id event = none

theorem call?_eq_none {e : JobEntry} (he : s.table[id]? = some e)
    (requested : e.cancelRequested = true) (event : Event) : s.call? planner id event = none := by
  cases event with
  | submit | cancel | look => rfl
  | advance i now elapsed =>
    cases hw : s.workers[i]? with
    | none => rw [call?, hw]; rfl
    | some w =>
      rw [call?, hw, Option.bind_some]
      obtain ⟨other, r, stage⟩ := w
      cases stage with
      | planning rest => rfl
      | waiting =>
        by_cases own : other = id
        · subst own
          simp only [act, JobTable.start_of_cancelled he requested]
          rfl
        · dsimp only
          rw [if_neg own]
          split <;> rfl

theorem barred_of_isCancelled (valid : (s.job id).Valid) (cancelled : (s.job id).IsCancelled) :
    s.Barred planner id := by
  obtain ⟨e, he, status⟩ := cancelled
  have sound : e.Sound := valid.sound he
  have unanswered : e.response = none := sound.response_eq_none (by rw [status]; decide)
  have unfailed : e.error = none := sound.error_eq_none (by rw [status]; decide)
  refine ⟨⟨e, he, status, unanswered, unfailed⟩, ?_,
    call?_eq_none he (sound.cancelRequested_iff.mpr status)⟩
  rintro fresh r now rfl
  have obstacle : s.table.obstacle? (r.jobId.getD fresh) = some .cancelled :=
    JobTable.obstacle?_eq_some_iff.mpr ⟨e, he, .inr status, status⟩
  rw [submit_of_obstacle obstacle]
  exact ⟨rfl, rfl⟩

theorem isCancelled_cancel (now : Timestamp)
    (unended : ∀ e, s.table[id]? = some e → e.status.isActive = true ∨ e.status = .cancelled) :
    ((s.cancel id now).job id).IsCancelled := by
  cases he : s.table[id]? with
  | none =>
    refine ⟨.tombstone now, ?_, rfl⟩
    simp only [job, cancel, JobTable.cancel_of_unknown he, Std.HashMap.getElem?_insert_self]
  | some e =>
    rcases unended e he with active | cancelled
    · refine ⟨e.cancel now, ?_, rfl⟩
      simp only [job, cancel, JobTable.cancel_of_active he active, Std.HashMap.getElem?_insert_self]
    · have inactive : e.status.isActive = false := by rw [cancelled]; rfl
      refine ⟨e, ?_, cancelled⟩
      simp only [job, cancel, JobTable.cancel_of_not_active he inactive, he]

theorem cancelStatus_eq_cancelled
    (unended : ∀ e, s.table[id]? = some e → e.status.isActive = true ∨ e.status = .cancelled) :
    s.table.cancelStatus id = .cancelled := by
  cases he : s.table[id]? with
  | none => exact JobTable.cancelStatus_of_unknown he
  | some e =>
    rw [JobTable.cancelStatus_of_known he]
    rcases unended e he with active | cancelled
    · rw [if_pos active]
    · rw [cancelled]
      rfl

namespace Reachable

theorem isCancelled_run (h : s.Reachable planner) (cancelled : (s.job id).IsCancelled)
    (later : List Event) : ((s.run planner later).job id).IsCancelled ∧
      ((s.job id).Unbegun → ((s.run planner later).job id).Unbegun) := by
  refine run_induction (fun _ j => j.IsCancelled ∧ ((s.job id).Unbegun → j.Unbegun)) ?_
    (h.valid id) none ⟨cancelled, fun unbegun => unbegun⟩ later
  intro _ _ j j' valid step ⟨hj, waits⟩
  obtain ⟨stays, begins⟩ := hj.step valid step
  exact ⟨stays, fun unbegun => begins (waits unbegun)⟩

theorem barred_run (h : s.Reachable planner) (cancelled : (s.job id).IsCancelled)
    (later : List Event) : (s.run planner later).Barred planner id :=
  barred_of_isCancelled ((h.run later).valid id) (h.isCancelled_run cancelled later).1

theorem cancel (h : s.Reachable planner) (id : String) (now : Timestamp) :
    (s.cancel id now).Reachable planner := h.run [.cancel id now]

theorem unbegun_of_waiting (h : s.Reachable planner)
    (waiting : ∀ e, s.table[id]? = some e → e.status = .pending) : (s.job id).Unbegun := by
  intro w hw
  obtain ⟨e, he⟩ := (h.valid id).exists_entry hw
  obtain ⟨w', alone, stage⟩ := (h.valid id).crew_of_pending he (waiting e he)
  rw [alone, List.mem_singleton] at hw
  rw [hw, stage]

/-- **To be cancelled is final.** A cancelled job is barred for good, and so is an unknown, active
or cancelled one from its cancellation on. If it is unknown or waits by then, no worker of it ever
plans. To cancel a job that is completed or has failed changes nothing. -/
theorem cancellation_is_final (h : s.Reachable planner) (id : String) :
    (∀ e, s.table[id]? = some e → e.status = .cancelled →
      ∀ later : List Event, (s.run planner later).Barred planner id) ∧
    (∀ now : Timestamp,
      (∀ e, s.table[id]? = some e → e.status.isActive = true ∨ e.status = .cancelled) →
      s.table.cancelStatus id = .cancelled ∧
        ∀ later : List Event, ((s.cancel id now).run planner later).Barred planner id) ∧
    (∀ now : Timestamp, (∀ e, s.table[id]? = some e → e.status = .pending) →
      ∀ later : List Event, ∀ w ∈ ((s.cancel id now).run planner later).crew id,
        w.stage = .waiting) ∧
    (∀ (now : Timestamp) (e : JobEntry), s.table[id]? = some e →
      e.status = .completed ∨ e.status = .failed →
      s.table.cancelStatus id = e.status ∧ s.cancel id now = s) := by
  refine ⟨fun e he cancelled later => ?_, fun now unended => ?_, fun now waiting later => ?_,
    fun now e he ended => ?_⟩
  · exact h.barred_run ⟨e, he, cancelled⟩ later
  · have cancelled := isCancelled_cancel now unended
    exact ⟨cancelStatus_eq_cancelled unended,
      fun later => (h.cancel id now).barred_run cancelled later⟩
  · have active (e : JobEntry) (he : s.table[id]? = some e) : e.status.isActive = true :=
      JobStatus.isActive_iff.mpr (.inl (waiting e he))
    have cancelled := isCancelled_cancel now fun e he => .inl (active e he)
    exact ((h.cancel id now).isCancelled_run cancelled later).2 (h.unbegun_of_waiting waiting)
  · have inactive : e.status.isActive = false := by
      rcases ended with ended | ended <;> rw [ended] <;> rfl
    rw [JobTable.cancelStatus_of_known he, if_neg (Bool.eq_false_iff.mp inactive), Service.cancel,
      JobTable.cancel_of_not_active he inactive]
    exact ⟨rfl, rfl⟩

/-- The small job, cancelled before it is submitted, while it waits and while it is planned, is
barred. Without that, its worker calls the planner, and once it is completed it is too late. -/
theorem cancellation_is_final_pairJob :
    ((idle.run pairPlanner [.cancel "pair" ⟨1⟩]).run pairPlanner
      [.submit "" pairJob ⟨2⟩]).Barred pairPlanner "pair" ∧
    (idle.run pairPlanner [.submit "" pairJob ⟨1⟩]).call? pairPlanner "pair" (.advance 0 ⟨3⟩ 0) =
      some pairJob ∧
    (∀ w ∈ (((idle.run pairPlanner [.submit "" pairJob ⟨1⟩]).cancel "pair" ⟨2⟩).run pairPlanner
      [.submit "" pairJob ⟨3⟩]).crew "pair", w.stage = .waiting) ∧
    (((idle.run pairPlanner begun).cancel "pair" ⟨4⟩).run pairPlanner finished).Barred
      pairPlanner "pair" ∧
    (idle.run pairPlanner (begun ++ finished)).cancel "pair" ⟨8⟩ =
      idle.run pairPlanner (begun ++ finished) := by
  have unknown : idle.table["pair"]? = none := Std.HashMap.getElem?_empty
  have buried : (idle.run pairPlanner [.cancel "pair" ⟨1⟩]).table["pair"]? =
      some (.tombstone ⟨1⟩) := by
    simp only [Service.run, List.foldl, after, Service.cancel, JobTable.cancel_of_unknown unknown,
      Std.HashMap.getElem?_insert_self]
  have final (events : List Event) :=
    cancellation_is_final (reachable_run pairPlanner events) "pair"
  refine ⟨(final _).1 _ buried rfl _, ?_, (final _).2.2.1 _ (fun e he => ?_) _,
    ((final _).2.1 _ fun e he => ?_).2 _, ((final _).2.2.2 _ _ getElem?_run_finished (.inl rfl)).2⟩
  · rw [run_submitted]
    simp [call?, act, JobTable.start, JobEntry.pending]
  · cases getElem?_run_submitted.symm.trans he
    rfl
  · cases getElem?_run_begun.symm.trans he
    exact .inl rfl

end Reachable

end Service

end DeliveryRouting
