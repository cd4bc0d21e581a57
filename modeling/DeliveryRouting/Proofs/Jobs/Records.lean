import DeliveryRouting.Proofs.Jobs.Interleaving

/-! # Jobs: what the table knows of them

Every entry of the table suits its status, whatever has written it: a submission, a cancellation
before or after one, or a worker. And the table tells a job that was submitted from one that was
not: `JobTable.Submitted` is made true by the submissions of a job, accepted or not, and is left as
it is by everything else, so that a status or a result is found exactly for the jobs that someone
has submitted (`Service.run_submitted_iff`). -/

namespace DeliveryRouting

/-- The event submits a job, accepted or not. -/
def Event.Submits (id : String) : Event → Prop
  | .submit fresh r _ => r.jobId.getD fresh = id
  | _ => False

/-! ### Changes of the table -/

namespace JobTable

variable {t : JobTable} {id other : String} {e : JobEntry}

/-- The table knows that someone has submitted the job. -/
def Submitted (t : JobTable) (id : String) : Prop := ∃ e, t[id]? = some e ∧ e.submitted = true

theorem submitted_of_known (he : t[id]? = some e) : t.Submitted id ↔ e.submitted = true := by
  constructor
  · rintro ⟨e', he', submitted⟩
    cases he.symm.trans he'
    exact submitted
  · exact fun submitted => ⟨e, he, submitted⟩

theorem not_submitted_of_unknown (he : t[id]? = none) : ¬ t.Submitted id := by
  rintro ⟨e, he', -⟩
  exact nomatch he.symm.trans he'

theorem submitted_insert_self (e : JobEntry) :
    Submitted (t.insert id e) id ↔ e.submitted = true :=
  submitted_of_known Std.HashMap.getElem?_insert_self

theorem submitted_congr {t' : JobTable} (same : t[id]? = t'[id]?) :
    t.Submitted id ↔ t'.Submitted id := by
  rw [Submitted, Submitted, same]

theorem find_eq_error_iff : t.find id = .error ⟨id⟩ ↔ ¬ t.Submitted id := by
  cases found : t.find id with
  | ok e =>
    have submitted : t.Submitted id := ⟨e, (find_eq_ok_iff t id).mp found⟩
    simp [submitted]
  | error unknown =>
    have named : unknown = ⟨id⟩ := by
      unfold find at found
      grind
    have unsubmitted : ¬ t.Submitted id := by
      rintro ⟨e, he⟩
      cases found.symm.trans ((find_eq_ok_iff t id).mpr he)
    simp [named, unsubmitted]

theorem status_eq_error_iff : t.status id = .error ⟨id⟩ ↔ ¬ t.Submitted id := by
  rw [← find_eq_error_iff, status]
  cases t.find id with
  | ok e => exact ⟨fun h => (nomatch h), fun h => (nomatch h)⟩
  | error unknown => exact ⟨fun h => by cases h; rfl, fun h => by cases h; rfl⟩

theorem submitted_submit (sound : ∀ e, t[id]? = some e → e.Sound) (now : Timestamp) :
    (t.submit id now).Submitted id := by
  cases he : t[id]? with
  | none =>
    have free : t.obstacle? id = none := by rw [obstacle?, he]; rfl
    rw [submit_of_free free, submitted_insert_self]
    rfl
  | some e =>
    cases active : e.status.isActive with
    | true =>
      have uncancelled : e.status ≠ .cancelled := fun cancelled => by
        rw [cancelled] at active
        cases active
      rw [submit_of_active he active, submitted_of_known he]
      exact (sound e he).submitted_of_ne uncancelled
    | false =>
      by_cases cancelled : e.status = .cancelled
      · rw [submit_of_cancelled he cancelled, submitted_insert_self]
        rfl
      · have free : t.obstacle? id = none := by
          rw [obstacle?, he, Option.bind_some, if_neg (by simp [active, cancelled])]
        rw [submit_of_free free, submitted_insert_self]
        rfl

/-- A cancellation is no submission, not even of a job that is unknown before. -/
theorem submitted_cancel (now : Timestamp) : (t.cancel id now).Submitted id ↔ t.Submitted id := by
  cases he : t[id]? with
  | none =>
    rw [cancel_of_unknown he, submitted_insert_self]
    exact ⟨fun h => (nomatch h), fun h => absurd h (not_submitted_of_unknown he)⟩
  | some e =>
    cases active : e.status.isActive with
    | true => rw [cancel_of_active he active, submitted_insert_self, submitted_of_known he]; rfl
    | false => rw [cancel_of_not_active he active]

theorem submitted_start (now : Timestamp) : (t.start id now).1.Submitted id ↔ t.Submitted id := by
  cases he : t[id]? with
  | none => simp only [start, he]
  | some e =>
    rw [submitted_of_known he]
    cases requested : e.cancelRequested with
    | true => rw [start_of_cancelled he requested, submitted_insert_self]; rfl
    | false => rw [start_of_calm he requested, submitted_insert_self]; rfl

theorem submitted_finish (result : PlanResult) (now : Timestamp) :
    (t.finish id result now).Submitted id ↔ t.Submitted id := by
  cases he : t[id]? with
  | none => simp only [finish, he]
  | some e =>
    rw [submitted_of_known he]
    cases requested : e.cancelRequested with
    | true => rw [finish_of_cancelled he requested, submitted_insert_self]; rfl
    | false =>
      rw [finish_of_calm he requested, submitted_insert_self]
      cases result <;> rfl

end JobTable

/-! ### Events -/

namespace Service

variable {s : Service} {planner : Planner} {id : String}

theorem submitted_act {table : JobTable} {w : Worker} (now : Timestamp) (elapsed : Int) :
    (act planner table w now elapsed).1.Submitted id ↔ table.Submitted id := by
  by_cases own : w.id = id
  · subst own
    obtain ⟨id, r, stage⟩ := w
    match stage with
    | .waiting => exact JobTable.submitted_start now
    | .planning (.ask next) => exact Iff.rfl
    | .planning (.done result) => exact JobTable.submitted_finish result now
  · exact JobTable.submitted_congr (getElem?_act_of_ne own)

theorem submitted_after (valid : (s.job id).Valid) (event : Event) :
    (s.after planner event).table.Submitted id ↔ event.Submits id ∨ s.table.Submitted id := by
  cases event with
  | submit fresh r now =>
    have table : (s.submit fresh r now).1.table = s.table.submit (r.jobId.getD fresh) now := by
      unfold submit
      dsimp only
      split <;> rfl
    rw [after, table, Event.Submits]
    by_cases own : r.jobId.getD fresh = id
    · subst own
      have noted : (s.table.submit (r.jobId.getD fresh) now).Submitted (r.jobId.getD fresh) :=
        JobTable.submitted_submit (fun e he => valid.sound he) now
      simp [noted]
    · rw [JobTable.submitted_congr (JobTable.getElem?_submit_of_ne own)]
      simp [own]
  | cancel other now =>
    refine Iff.trans ?_ (or_iff_right fun h => h).symm
    by_cases own : other = id
    · subst own
      exact JobTable.submitted_cancel now
    · exact JobTable.submitted_congr (JobTable.getElem?_cancel_of_ne own)
  | look other => exact (or_iff_right fun h => h).symm
  | advance i now elapsed =>
    refine Iff.trans ?_ (or_iff_right fun h => h).symm
    rw [after]
    cases hw : s.workers[i]? with
    | none => rw [advance, hw]
    | some w =>
      obtain ⟨_, _, _, advanced⟩ := advance_eq planner hw now elapsed
      rw [advanced]
      exact submitted_act now elapsed

theorem run_submitted_iff (valid : (s.job id).Valid) (events : List Event) :
    (s.run planner events).table.Submitted id ↔
      (∃ event ∈ events, event.Submits id) ∨ s.table.Submitted id := by
  induction events generalizing s with
  | nil => simp [run]
  | cons event events ih =>
    have first : (s.after planner event).table.Submitted id ↔
        event.Submits id ∨ s.table.Submitted id := submitted_after valid event
    have step : s.run planner (event :: events) = (s.after planner event).run planner events := rfl
    rw [step, ih (valid_after valid event), first, List.exists_mem_cons_iff, or_left_comm, or_assoc]

/-- **Entries are well formed, and known are the jobs that were submitted.** However submissions,
cancellations, looks and steps of workers interleave, the fields of each entry suit its status, and
a status or a result is refused exactly for the jobs that nobody has submitted, however often they
were cancelled. -/
theorem entries_and_queries (planner : Planner) (events : List Event) (id : String) :
    (∀ e, (idle.run planner events).table[id]? = some e → e.Sound) ∧
    ((idle.run planner events).table.status id = .error ⟨id⟩ ↔
      ∀ event ∈ events, ¬ event.Submits id) ∧
    ((idle.run planner events).table.find id = .error ⟨id⟩ ↔
      ∀ event ∈ events, ¬ event.Submits id) := by
  have unknown : ¬ idle.table.Submitted id :=
    JobTable.not_submitted_of_unknown Std.HashMap.getElem?_empty
  have history : ¬ (idle.run planner events).table.Submitted id ↔
      ∀ event ∈ events, ¬ event.Submits id := by
    rw [run_submitted_iff (valid_idle id), or_iff_left unknown]
    push Not
    rfl
  refine ⟨fun e he => ((reachable_run planner events).valid id).sound he, ?_, ?_⟩
  · rw [JobTable.status_eq_error_iff, history]
  · rw [JobTable.find_eq_error_iff, history]

/-- The small job, cancelled twice before anyone submits it, is unknown, though it has an entry;
once it has run, its entry and its status are found. -/
theorem entries_and_queries_pairJob :
    (idle.run pairPlanner [.cancel "pair" ⟨1⟩, .cancel "pair" ⟨2⟩]).table.status "pair" =
      .error ⟨"pair"⟩ ∧
    (idle.run pairPlanner (begun ++ finished)).table.find "pair" ≠ .error ⟨"pair"⟩ ∧
    (pairEntry.finish (.ok pairResponse) ⟨7⟩).Sound := by
  obtain ⟨-, refused, -⟩ :=
    entries_and_queries pairPlanner [.cancel "pair" ⟨1⟩, .cancel "pair" ⟨2⟩] "pair"
  obtain ⟨sound, -, found⟩ := entries_and_queries pairPlanner (begun ++ finished) "pair"
  refine ⟨refused.mpr ?_, fun h => ?_, sound _ getElem?_run_finished⟩
  · intro event hevent
    simp only [List.mem_cons, List.not_mem_nil, or_false] at hevent
    rcases hevent with rfl | rfl <;> exact id
  · exact found.mp h (.submit "" pairJob ⟨1⟩) (List.mem_append_left _ (List.mem_cons_self ..)) rfl

end Service

end DeliveryRouting
