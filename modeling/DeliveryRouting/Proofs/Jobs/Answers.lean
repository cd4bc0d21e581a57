import DeliveryRouting.Proofs.Jobs.Finality
import DeliveryRouting.Proofs.Search.Cancellation

/-! # Jobs: what the finished ones report

A job that is completed or has failed reports what planning the request of its latest accepted
submission comes to when nobody cancels. A worker is told that its job is cancelled only when it is,
so that the plan of a job that is not cancelled was never disturbed; and a job that is cancelled
stays so and reports nothing. Workers can always be started here (`Event`), so that no job has failed
for want of one. -/

namespace DeliveryRouting

/-! ### Plans -/

theorem plan_timeless (source : Source) {params : Params} (clockless : params.timeLimit? = none)
    (steps : Nat) (r : Request) : (plan source params steps r).Timeless := by
  unfold plan
  split
  · trivial
  · cases r.draft with
    | error fault => trivial
    | ok draft =>
      dsimp only
      cases source draft.points with
      | error fault => trivial
      | ok table => exact (solve_timeless clockless steps _).bind fun _ => trivial

theorem plan_named (source : Source) (params : Params) (steps : Nat) (fresh : String)
    (r : Request) :
    plan source params steps (Service.named fresh r) = plan source params steps r := rfl

/-! ### Steps of a job -/

/-- What the entry tells of a result is right. -/
def JobEntry.Reports (e : JobEntry) (result : PlanResult) : Prop :=
  (∀ response, e.response = some response → result = .ok response) ∧
  ∀ error, e.error = some error → ∃ fault, result = .error fault ∧ fault.message = error

/-- The worker comes to the result that the computation has when nobody cancels. -/
def Worker.Follows (w : Worker) (planner : Planner) (plan : Polling PlanResult) : Prop :=
  match w.stage with
  | .waiting => planner w.request = plan
  | .planning rest => rest.Under (·.cancelled = false) (· = plan.answer undisturbed)

namespace Job

/-- Unless the job is cancelled, its workers follow the plan of a request, the latest one, and its
entry reports it. -/
def Faithful (planner : Planner) (latest? : Option Request) (j : Job) : Prop :=
  ∀ e, j.entry? = some e → e.status ≠ .cancelled → ∃ r, latest? = some r ∧
    (∀ w ∈ j.crew, w.Follows planner (planner r)) ∧ e.Reports ((planner r).answer undisturbed)

variable {planner : Planner} {id : String} {new? old? : Option Request} {j j' : Job}

theorem Faithful.step (timeless : ∀ r, (planner r).Timeless)
    (nameless : ∀ fresh r, planner (Service.named fresh r) = planner r)
    (hj : j.Faithful planner old?) (valid : j.Valid) (h : Step planner id new? j j') :
    j'.Faithful planner (new?.or old?) := by
  intro e' he' uncancelled
  -- an entry that a step leaves uncancelled was so before, except where a new one takes its place
  cases h with
  | stay => exact hj e' he' uncancelled
  | accept _ free fresh r now =>
    cases he'
    refine ⟨r, rfl, ?_, ?_⟩
    · intro w hw
      rw [valid.crew_eq_nil free, List.nil_append, List.mem_singleton] at hw
      rw [hw]
      exact nameless fresh r
    · exact ⟨fun _ h => (nomatch h), fun _ h => (nomatch h)⟩
  | note cancelled => cases he'; exact absurd cancelled uncancelled
  | bury | cancel | forgo | discard => cases he'; exact absurd rfl uncancelled
  | @start e calm request now =>
    cases he'
    have before : e.status ≠ .cancelled := (valid.sound rfl).ne_cancelled calm
    obtain ⟨r, latest, follows, reports⟩ := hj e rfl before
    refine ⟨r, latest, ?_, reports⟩
    intro w hw
    rw [List.mem_singleton] at hw
    have same : planner request = planner r := follows _ (List.mem_singleton_self _)
    rw [hw, same]
    exact (timeless r).under_quiet quiet_undisturbed
  | ask e request next elapsed =>
    cases he'
    have calm : e'.cancelRequested = false := (valid.sound rfl).cancelRequested_eq_false uncancelled
    obtain ⟨r, latest, follows, reports⟩ := hj e' rfl uncancelled
    refine ⟨r, latest, ?_, reports⟩
    intro w hw
    rw [List.mem_singleton] at hw
    rw [hw]
    -- the worker is told of no cancellation, whatever the clock says
    exact follows _ (List.mem_singleton_self _) _ calm
  | @finish e calm request result now =>
    cases he'
    have before : e.status ≠ .cancelled := (valid.sound rfl).ne_cancelled calm
    obtain ⟨r, latest, follows, reports⟩ := hj e rfl before
    have same : result = (planner r).answer undisturbed := follows _ (List.mem_singleton_self _)
    refine ⟨r, latest, fun w hw => (nomatch hw), ?_⟩
    rw [← same] at reports ⊢
    cases result with
    | ok response => exact ⟨fun _ h => congrArg Except.ok (Option.some.inj h), reports.2⟩
    | error fault => exact ⟨reports.1, fun _ h => ⟨fault, rfl, Option.some.inj h⟩⟩

end Job

/-! ### Runs -/

namespace Service

section Planner

variable {planner : Planner} {s : Service}

theorem faithful_run (timeless : ∀ r, (planner r).Timeless)
    (nameless : ∀ fresh r, planner (named fresh r) = planner r) (events : List Event)
    (id : String) :
    ((idle.run planner events).job id).Faithful planner (idle.latest planner id events) := by
  have unknown : idle.table[id]? = none := Std.HashMap.getElem?_empty
  have start : (idle.job id).Faithful planner none := fun e he => nomatch unknown.symm.trans he
  have reached := run_induction (fun latest? j => j.Faithful planner latest?)
    (fun _ _ _ _ valid step hj => hj.step timeless nameless valid step) (valid_idle id) none start
    events
  rwa [Option.or_none] at reached

theorem Reachable.isCancelled_of_stopsWorker (h : s.Reachable planner) {w : Worker}
    (hw : w ∈ s.workers) (stops : s.table.stopsWorker w.id = true) :
    (s.job w.id).IsCancelled := by
  have member : w ∈ s.crew w.id := List.mem_filter.mpr ⟨hw, decide_eq_true rfl⟩
  obtain ⟨e, he⟩ := (h.valid w.id).exists_entry member
  rw [JobTable.stopsWorker_of_known he] at stops
  exact ⟨e, he, ((h.valid w.id).sound he).cancelRequested_iff.mp stops⟩

/-- Of a submission that is not accepted, only the id matters. -/
theorem submit_congr {fresh fresh' : String} {r r' : Request}
    (same : r.jobId.getD fresh = r'.jobId.getD fresh')
    (refused : s.table.obstacle? (r.jobId.getD fresh) ≠ none) (now : Timestamp) :
    s.submit fresh r now = s.submit fresh' r' now := by
  obtain ⟨status, obstacle⟩ := Option.ne_none_iff_exists'.mp refused
  rw [submit_of_obstacle obstacle, submit_of_obstacle (same ▸ obstacle), same]

end Planner

variable {source : Source} {params : Params} {steps : Nat} {events : List Event} {s : Service}
  {signal : Nat → Poll}

/-- **A finished job reports the plan of its own request**, the one of its latest accepted
submission: the response or the fault that planning it comes to when nobody cancels. A worker that
is told to stop leaves a cancelled job without a response, and the requests of other submissions
have no influence. -/
theorem finished_reports_plan (clockless : params.timeLimit? = none)
    (reached : idle.run (plan source params steps) events = s) (quiet : Quiet signal) :
    (∀ (id : String) (e : JobEntry), s.table[id]? = some e → e.status = .completed →
      ∃ r response, idle.latest (plan source params steps) id events = some r ∧
        e.response = some response ∧
        (plan source params steps r).answer signal = .ok response) ∧
    (∀ (id : String) (e : JobEntry), s.table[id]? = some e → e.status = .failed →
      ∃ r fault, idle.latest (plan source params steps) id events = some r ∧
        e.error = some fault.message ∧
        (plan source params steps r).answer signal = .error fault) ∧
    (∀ w ∈ s.workers, s.table.stopsWorker w.id = true → ∀ later : List Event,
      ∃ e, (s.run (plan source params steps) later).table[w.id]? = some e ∧
        e.status = .cancelled ∧ e.response = none) ∧
    (∀ (fresh fresh' : String) (r r' : Request) (now : Timestamp),
      r.jobId.getD fresh = r'.jobId.getD fresh' →
      s.table.obstacle? (r.jobId.getD fresh) ≠ none →
      s.submit fresh r now = s.submit fresh' r' now) := by
  have timeless (r : Request) : (plan source params steps r).Timeless :=
    plan_timeless source clockless steps r
  have answered (r : Request) : (plan source params steps r).answer undisturbed =
      (plan source params steps r).answer signal := (timeless r).answer_eq quiet quiet_undisturbed
  have reachable : s.Reachable (plan source params steps) := ⟨events, reached⟩
  have faithful (id : String) : (s.job id).Faithful (plan source params steps)
      (idle.latest (plan source params steps) id events) := by
    rw [← reached]
    exact faithful_run timeless (plan_named source params steps) events id
  refine ⟨fun id e he status => ?_, fun id e he status => ?_, fun w hw stops later => ?_,
    fun fresh fresh' r r' now same refused => submit_congr same refused now⟩
  · have sound : e.Sound := (reachable.valid id).sound he
    obtain ⟨response, noted⟩ := Option.isSome_iff_exists.mp (sound.response_iff.mpr status)
    obtain ⟨r, latest, -, reports⟩ := faithful id e he (by rw [status]; decide)
    rw [answered] at reports
    exact ⟨r, response, latest, noted, reports.1 response noted⟩
  · have sound : e.Sound := (reachable.valid id).sound he
    obtain ⟨error, noted⟩ := Option.isSome_iff_exists.mp (sound.error_iff.mpr status)
    obtain ⟨r, latest, -, reports⟩ := faithful id e he (by rw [status]; decide)
    rw [answered] at reports
    obtain ⟨fault, failed, rfl⟩ := reports.2 error noted
    exact ⟨r, fault, latest, noted, failed⟩
  · have cancelled := reachable.isCancelled_of_stopsWorker hw stops
    obtain ⟨e, he, status, unanswered, -⟩ := (reachable.barred_run cancelled later).entry
    exact ⟨e, he, status, unanswered⟩

/-- The small job is submitted twice with different requests. It reports the plan of the first, as
the second was not accepted. -/
theorem finished_reports_plan_pairJob :
    idle.latest pairPlanner "pair" (begun ++ finished) = some pairJob ∧
      (pairPlanner pairJob).answer undisturbed = .ok pairResponse := by
  obtain ⟨r, response, latest, noted, answered⟩ :=
    (finished_reports_plan rfl rfl quiet_undisturbed).1 "pair" _ getElem?_run_finished rfl
  cases noted
  have first : idle.latest pairPlanner "pair" (begun ++ finished) = some pairJob := by
    simp [begun, finished, Service.latest, accepted?, after, submit, idle, JobTable.obstacle?,
      JobTable.submit, JobEntry.pending, JobStatus.isActive, pairJob]
  cases first.symm.trans latest
  exact ⟨first, answered⟩

end Service

end DeliveryRouting
