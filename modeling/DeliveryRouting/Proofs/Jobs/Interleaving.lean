import DeliveryRouting.Proofs.Dispatch.Attribution
import DeliveryRouting.Proofs.Jobs.Lifecycle

/-! # Jobs: interleavings

Submissions, cancellations, looks at the table and steps of workers come in any order. An `Event` is
one of them, and `Service.run` goes through a list of them. Whatever the event, to each job it is
one of the steps of a job (`Service.step_job`), so that every job of every service that can be
reached is valid (`Service.Reachable.valid`).

`Service.latest` is what a run makes of the requests that are submitted: the last one of a job that
was accepted. -/

namespace DeliveryRouting

/-- Something that happens to a service at once. That a worker cannot be started is not among it: a
submission that is accepted has its worker. -/
inductive Event where
  /-- with the id that the job gets if it has none -/
  | submit (fresh : String) (r : Request) (now : Timestamp)
  | cancel (id : String) (now : Timestamp)
  /-- someone asks for a status or a result, waits for one, or solves a request at once -/
  | look (id : String)
  /-- the next step of a worker, who is named by its place among all -/
  | advance (worker : Nat) (now : Timestamp) (elapsed : Int)

namespace Service

section Definitions

variable (s : Service) (planner : Planner) (id : String)

/-- The workers that run a job. -/
def crew : List Worker := s.workers.filter fun w => w.id = id

/-- What the service holds of a job. -/
def job : Job := ⟨s.table[id]?, s.crew id⟩

/-- The service after an event. -/
def after : Event → Service
  | .submit fresh r now => (s.submit fresh r now).1
  | .cancel id now => s.cancel id now
  | .look _ => s
  | .advance i now elapsed => s.advance planner i now elapsed

/-- The service after events, one after the other. -/
def run (events : List Event) : Service := events.foldl (after · planner) s

/-- The request that an event makes the latest one of a job: that of an accepted submission. -/
def accepted? : Event → Option Request
  | .submit fresh r _ =>
    if r.jobId.getD fresh = id ∧ s.table.obstacle? id = none then some r else none
  | _ => none

/-- The request of the latest submission of a job that was accepted during events. -/
def latest : Service → List Event → Option Request
  | _, [] => none
  | s, event :: events => (latest (s.after planner event) events).or (s.accepted? id event)

end Definitions

variable {s : Service} {planner : Planner} {id : String}

theorem run_append (events later : List Event) :
    s.run planner (events ++ later) = (s.run planner events).run planner later :=
  List.foldl_append

/-! ### Submissions -/

section Submissions

variable {fresh : String} {r : Request} {now : Timestamp} {status : JobStatus}

theorem submit_of_free (h : s.table.obstacle? (r.jobId.getD fresh) = none) :
    s.submit fresh r now =
      (⟨s.table.insert (r.jobId.getD fresh) (.pending now),
        s.workers ++ [⟨r.jobId.getD fresh, named fresh r, .waiting⟩]⟩,
        ⟨r.jobId.getD fresh, .pending⟩) := by
  simp only [submit, h, JobTable.submit_of_free h]

theorem submit_of_obstacle (h : s.table.obstacle? (r.jobId.getD fresh) = some status) :
    s.submit fresh r now =
      ({ s with table := s.table.submit (r.jobId.getD fresh) now },
        ⟨r.jobId.getD fresh, status⟩) := by
  simp only [submit, h]

end Submissions

/-! ### Steps of workers -/

section Workers

variable {table : JobTable} {w w' : Worker} {now : Timestamp} {elapsed : Int} {i : Nat}

theorem id_of_act (h : w' ∈ (act planner table w now elapsed).2) : w'.id = w.id := by
  obtain ⟨id, r, stage⟩ := w
  match stage with
  | .waiting =>
    simp only [act] at h
    split at h
    · cases h; rfl
    · cases h
  | .planning (.ask next) => cases h; rfl
  | .planning (.done result) => cases h

theorem getElem?_act_of_ne (h : w.id ≠ id) :
    (act planner table w now elapsed).1[id]? = table[id]? := by
  obtain ⟨other, r, stage⟩ := w
  match stage with
  | .waiting => exact JobTable.getElem?_start_of_ne h
  | .planning (.ask next) => rfl
  | .planning (.done result) => exact JobTable.getElem?_finish_of_ne h result

/-- The step of a worker leaves the other workers in their places. -/
theorem advance_eq (planner : Planner) (hw : s.workers[i]? = some w) (now : Timestamp)
    (elapsed : Int) : ∃ before after, s.workers = before ++ [w] ++ after ∧
      s.advance planner i now elapsed = ⟨(act planner s.table w now elapsed).1,
        before ++ (act planner s.table w now elapsed).2.toList ++ after⟩ := by
  obtain ⟨hi, rfl⟩ := List.getElem?_eq_some_iff.mp hw
  refine ⟨s.workers.take i, s.workers.drop (i + 1), ?_, ?_⟩
  · rw [List.append_assoc, List.singleton_append, List.getElem_cons_drop, List.take_append_drop]
  · rw [advance, hw]
    dsimp only
    congr 1
    cases (act planner s.table s.workers[i] now elapsed).2 with
    | none => simp [List.eraseIdx_eq_take_drop_succ]
    | some w' => simp [List.set_eq_take_append_cons_drop, hi]

theorem crew_advance_of_ne (hw : s.workers[i]? = some w) (h : w.id ≠ id) :
    (s.advance planner i now elapsed).crew id = s.crew id := by
  obtain ⟨before, after, workers, advanced⟩ := advance_eq planner hw now elapsed
  have gone : (act planner s.table w now elapsed).2.toList.filter (·.id = id) = [] := by
    refine List.filter_eq_nil_iff.mpr fun w' hw' => ?_
    rw [decide_eq_true_eq, id_of_act (Option.mem_toList.mp hw')]
    exact h
  have other : [w].filter (·.id = id) = [] := by simpa using h
  simp only [advanced, crew, workers, List.filter_append, gone, other]

theorem crew_advance_self (planner : Planner) (hw : s.workers[i]? = some w)
    (few : (s.crew w.id).length ≤ 1) (now : Timestamp) (elapsed : Int) : s.crew w.id = [w] ∧
      (s.advance planner i now elapsed).crew w.id =
        (act planner s.table w now elapsed).2.toList := by
  obtain ⟨before, after, workers, advanced⟩ := advance_eq planner hw now elapsed
  have stays : (act planner s.table w now elapsed).2.toList.filter (·.id = w.id) =
      (act planner s.table w now elapsed).2.toList :=
    List.filter_eq_self.mpr fun w' hw' => decide_eq_true (id_of_act (Option.mem_toList.mp hw'))
  have crew_eq : s.crew w.id =
      before.filter (·.id = w.id) ++ [w] ++ after.filter (·.id = w.id) := by
    simp [crew, workers]
  rw [crew_eq, List.length_append, List.length_append, List.length_singleton] at few
  have first : before.filter (·.id = w.id) = [] := List.eq_nil_of_length_eq_zero (by omega)
  have last : after.filter (·.id = w.id) = [] := List.eq_nil_of_length_eq_zero (by omega)
  refine ⟨by rw [crew_eq, first, last]; rfl, ?_⟩
  rw [advanced, crew, List.filter_append, List.filter_append, first, stays, last, List.nil_append,
    List.append_nil]

end Workers

/-! ### Events and jobs -/

theorem step_act {table : JobTable} {w : Worker} {e : JobEntry} (he : table[w.id]? = some e)
    (now : Timestamp) (elapsed : Int) :
    Job.Step planner w.id none ⟨table[w.id]?, [w]⟩
      ⟨(act planner table w now elapsed).1[w.id]?, (act planner table w now elapsed).2.toList⟩ := by
  obtain ⟨id, r, stage⟩ := w
  dsimp only at he ⊢
  rw [he]
  match stage with
  | .waiting =>
    cases requested : e.cancelRequested with
    | false =>
      simp only [act, JobTable.start_of_calm he requested, Std.HashMap.getElem?_insert_self]
      exact .start requested r now
    | true =>
      simp only [act, JobTable.start_of_cancelled he requested, Std.HashMap.getElem?_insert_self]
      exact .forgo requested r now
  | .planning (.ask next) =>
    simp only [act, JobTable.stopsWorker_of_known he, he]
    exact .ask e r next elapsed
  | .planning (.done result) =>
    cases requested : e.cancelRequested with
    | false =>
      simp only [act, JobTable.finish_of_calm he requested, Std.HashMap.getElem?_insert_self]
      exact .finish requested r result now
    | true =>
      simp only [act, JobTable.finish_of_cancelled he requested, Std.HashMap.getElem?_insert_self]
      exact .discard requested r result now

theorem step_submit (fresh : String) (r : Request) (now : Timestamp) :
    Job.Step planner id (s.accepted? id (.submit fresh r now)) (s.job id)
      ((s.submit fresh r now).1.job id) := by
  by_cases own : r.jobId.getD fresh = id
  · subst own
    cases free : s.table.obstacle? (r.jobId.getD fresh) with
    | none =>
      rw [submit_of_free free, accepted?, if_pos ⟨rfl, free⟩]
      simp only [job, crew, Std.HashMap.getElem?_insert_self, List.filter_append, List.filter_cons,
        List.filter_nil, decide_true, if_true]
      exact .accept (s.job _) (JobTable.obstacle?_eq_none_iff.mp free) fresh r now
    | some status =>
      rw [submit_of_obstacle free, accepted?, if_neg (by simp [free])]
      obtain ⟨e, he, active | cancelled, -⟩ := JobTable.obstacle?_eq_some_iff.mp free
      · rw [JobTable.submit_of_active he active]
        exact .stay _
      · simp only [job, crew, JobTable.submit_of_cancelled he cancelled,
          Std.HashMap.getElem?_insert_self, he]
        exact .note cancelled _ now
  · have same : (s.submit fresh r now).1.job id = s.job id := by
      cases free : s.table.obstacle? (r.jobId.getD fresh) with
      | none =>
        simp only [submit_of_free free, job, crew, Std.HashMap.getElem?_insert, beq_iff_eq, own,
          if_false, List.filter_append, List.filter_cons, List.filter_nil, decide_false,
          Bool.false_eq_true, List.append_nil]
      | some status =>
        rw [submit_of_obstacle free, job, job, JobTable.getElem?_submit_of_ne own]
        rfl
    rw [same, accepted?, if_neg fun h => own h.1]
    exact .stay _

theorem step_cancel (other : String) (now : Timestamp) :
    Job.Step planner id none (s.job id) ((s.cancel other now).job id) := by
  by_cases own : other = id
  · subst own
    cases he : s.table[other]? with
    | none =>
      simp only [job, crew, cancel, JobTable.cancel_of_unknown he, Std.HashMap.getElem?_insert_self,
        he]
      exact .bury _ now
    | some e =>
      cases active : e.status.isActive with
      | true =>
        simp only [job, crew, cancel, JobTable.cancel_of_active he active,
          Std.HashMap.getElem?_insert_self, he]
        exact .cancel active _ now
      | false =>
        simp only [job, crew, cancel, JobTable.cancel_of_not_active he active]
        exact .stay _
  · simp only [job, crew, cancel, JobTable.getElem?_cancel_of_ne own]
    exact .stay _

theorem step_advance (valid : (s.job id).Valid) (i : Nat) (now : Timestamp) (elapsed : Int) :
    Job.Step planner id none (s.job id) ((s.advance planner i now elapsed).job id) := by
  cases hw : s.workers[i]? with
  | none =>
    rw [advance, hw]
    exact .stay _
  | some w =>
    obtain ⟨_, _, _, advanced⟩ := advance_eq planner hw now elapsed
    by_cases own : w.id = id
    · subst own
      -- a second worker of the job would make more of its crew than a step of a job does
      obtain ⟨alone, left⟩ := crew_advance_self planner hw valid.length_crew_le now elapsed
      have member : w ∈ s.crew w.id := by
        rw [alone]
        exact List.mem_singleton_self w
      obtain ⟨e, he⟩ := valid.exists_entry member
      rw [job, job, alone, left, advanced]
      exact step_act he now elapsed
    · have same : (s.advance planner i now elapsed).job id = s.job id := by
        rw [job, job, crew_advance_of_ne hw own, advanced, getElem?_act_of_ne own]
      rw [same]
      exact .stay _

/-- **To each job, an event is one of the steps of a job.** -/
theorem step_job (valid : (s.job id).Valid) (event : Event) :
    Job.Step planner id (s.accepted? id event) (s.job id) ((s.after planner event).job id) := by
  cases event with
  | submit fresh r now => exact step_submit fresh r now
  | cancel other now => exact step_cancel other now
  | look other => exact .stay _
  | advance i now elapsed => exact step_advance valid i now elapsed

/-! ### Runs -/

theorem valid_idle (id : String) : (idle.job id).Valid := by
  have unknown : idle.table[id]? = none := Std.HashMap.getElem?_empty
  rw [job, unknown]
  exact .unknown

theorem valid_after (valid : (s.job id).Valid) (event : Event) :
    ((s.after planner event).job id).Valid :=
  valid.step (step_job valid event)

/-- What the steps of a job keep, the events of a service keep, also of the request that was
accepted last, which is `old?` before the events. -/
theorem run_induction (P : Option Request → Job → Prop)
    (keep : ∀ new? old? j j', j.Valid → Job.Step planner id new? j j' → P old? j →
      P (new?.or old?) j')
    (valid : (s.job id).Valid) (old? : Option Request) (start : P old? (s.job id))
    (events : List Event) :
    P ((s.latest planner id events).or old?) ((s.run planner events).job id) := by
  induction events generalizing s old? with
  | nil => exact start
  | cons event events ih =>
    rw [latest, Option.or_assoc]
    exact ih (valid_after valid event) _ (keep _ _ _ _ valid (step_job valid event) start)

/-- Some events lead to the service. -/
def Reachable (planner : Planner) (s : Service) : Prop := ∃ events, idle.run planner events = s

theorem reachable_run (planner : Planner) (events : List Event) :
    (idle.run planner events).Reachable planner := ⟨events, rfl⟩

namespace Reachable

variable (h : s.Reachable planner)
include h

theorem run (events : List Event) : (s.run planner events).Reachable planner := by
  obtain ⟨before, rfl⟩ := h
  exact ⟨before ++ events, run_append before events⟩

/-- **Every job of a service that can be reached is valid.** -/
theorem valid (id : String) : (s.job id).Valid := by
  obtain ⟨events, rfl⟩ := h
  exact run_induction (fun _ => Job.Valid) (fun _ _ _ _ valid step _ => valid.step step)
    (valid_idle id) none (valid_idle id) events

end Reachable

/-! ### A small run -/

/-- The small request with an id. -/
def pairJob : Request := { pairRequest with jobId := some "pair" }

def pairPlanner : Planner := plan pairSource greedyParams 5

/-- The job is submitted, submitted again with nothing to deliver, and its worker begins. -/
def begun : List Event :=
  [.submit "" pairJob ⟨1⟩, .submit "" { pairJob with deliveries := [] } ⟨2⟩, .advance 0 ⟨3⟩ 0]

/-- The worker asks three times and enters the result. -/
def finished : List Event :=
  [.advance 0 ⟨4⟩ 0, .advance 0 ⟨5⟩ 0, .advance 0 ⟨6⟩ 0, .advance 0 ⟨7⟩ 0]

/-- The entry of the job after it has begun. -/
def pairEntry : JobEntry := (JobEntry.pending ⟨1⟩).start ⟨3⟩

def begunTable : JobTable := ((∅ : JobTable).insert "pair" (.pending ⟨1⟩)).insert "pair" pairEntry

theorem run_submitted : idle.run pairPlanner [.submit "" pairJob ⟨1⟩] =
    ⟨(∅ : JobTable).insert "pair" (.pending ⟨1⟩), [⟨"pair", pairJob, .waiting⟩]⟩ := by
  simp [run, after, submit, idle, JobTable.obstacle?, JobTable.submit, pairJob, named]

theorem run_begun : idle.run pairPlanner begun =
    ⟨begunTable, [⟨"pair", pairJob, .planning (pairPlanner pairJob)⟩]⟩ := by
  rw [begun, ← List.singleton_append, run_append, run_submitted]
  simp [run, after, submit, JobTable.obstacle?, JobTable.submit, pairJob, JobEntry.pending,
    JobStatus.isActive, advance, act, JobTable.start, begunTable, pairEntry]

theorem getElem?_run_submitted :
    (idle.run pairPlanner [.submit "" pairJob ⟨1⟩]).table["pair"]? = some (.pending ⟨1⟩) := by
  rw [run_submitted]
  exact Std.HashMap.getElem?_insert_self

theorem getElem?_run_begun : (idle.run pairPlanner begun).table["pair"]? = some pairEntry := by
  rw [run_begun]
  exact Std.HashMap.getElem?_insert_self

theorem pairPlanner_asks : ∃ first second third, pairPlanner pairJob = .ask first ∧
    first ⟨false, 0⟩ = .ask second ∧ second ⟨false, 0⟩ = .ask third ∧
      third ⟨false, 0⟩ = .done (.ok pairResponse) := by
  have planned : pairPlanner pairJob =
      (solve greedyParams 5 (pairDraft.withDurations pairTable)).bind fun result =>
        .done (pairRequest.respond greedyParams result) := rfl
  rw [withDurations_pairTable] at planned
  refine ⟨_, _, _, planned.trans rfl, rfl, rfl, ?_⟩
  exact congrArg Polling.done respond_draftedOutcome

theorem run_finished : idle.run pairPlanner (begun ++ finished) =
    ⟨begunTable.insert "pair" (pairEntry.finish (.ok pairResponse) ⟨7⟩), []⟩ := by
  obtain ⟨first, second, third, asks₁, asks₂, asks₃, done⟩ := pairPlanner_asks
  have known : begunTable["pair"]? = some pairEntry := Std.HashMap.getElem?_insert_self
  rw [run_append, run_begun, asks₁]
  simp [finished, run, after, advance, act, JobTable.stopsWorker, JobTable.finish, known, asks₂,
    asks₃, done, pairEntry, JobEntry.start, JobEntry.pending]

theorem getElem?_run_finished : (idle.run pairPlanner (begun ++ finished)).table["pair"]? =
    some (pairEntry.finish (.ok pairResponse) ⟨7⟩) := by
  rw [run_finished]
  exact Std.HashMap.getElem?_insert_self

end Service

end DeliveryRouting
