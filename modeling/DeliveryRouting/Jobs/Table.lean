import DeliveryRouting.Jobs.Entry
import Std.Data.HashMap

/-! # Jobs: the table

The table holds an entry for every id that was submitted or cancelled. Each function here is one
look at the table or one change of it, during which nothing else happens to it. -/

namespace DeliveryRouting

/-- A job that is not known. -/
structure UnknownJob where
  id : String
  deriving Repr, DecidableEq

/-- The wording of the complaint. -/
def UnknownJob.message (e : UnknownJob) : String := s!"job {e.id} not found"

/-- The entries of jobs by their ids. -/
abbrev JobTable := Std.HashMap String JobEntry

namespace JobTable

variable (t : JobTable) (id : String)

/-- The status that keeps a submission from starting a job. -/
def obstacle? : Option JobStatus :=
  (t[id]?).bind fun e =>
    if e.status.isActive ∨ e.status = .cancelled then some e.status else none

/-- The table after a submission: a job that is active stays as it is, a cancelled one is discarded
with a note, and any other one waits for its worker. -/
def submit (now : Timestamp) : JobTable :=
  match t[id]? with
  | none => t.insert id (.pending now)
  | some e =>
    if e.status.isActive then t
    else if e.status = .cancelled then t.insert id (e.noteSubmission now)
    else t.insert id (.pending now)

/-- The table after a cancellation: an unknown job leaves a tombstone, an active one is cancelled,
and one that has come to its end stays as it is. -/
def cancel (now : Timestamp) : JobTable :=
  match t[id]? with
  | none => t.insert id (.tombstone now)
  | some e => if e.status.isActive then t.insert id (e.cancel now) else t

/-- How a cancellation is answered. -/
def cancelStatus : JobStatus :=
  match t[id]? with
  | none => .cancelled
  | some e => if e.status.isActive then .cancelled else e.status

/-- The entry of a job, if someone has submitted it. -/
def find : Except UnknownJob JobEntry :=
  match t[id]? with
  | some e => if e.submitted then .ok e else .error ⟨id⟩
  | none => .error ⟨id⟩

theorem find_eq_ok_iff {e : JobEntry} :
    find t id = .ok e ↔ t[id]? = some e ∧ e.submitted = true := by
  unfold find
  grind

/-- How a job stands. -/
def status : Except UnknownJob JobStatus := JobEntry.status <$> t.find id

/-- What a worker is told about its job: to stop when it is cancelled or gone. -/
def stopsWorker : Bool :=
  match t[id]? with
  | some e => e.cancelRequested
  | none => true

/-- What one who solves a request without a worker is told about its id. -/
def isCancelled : Bool :=
  match t[id]? with
  | some e => e.status = .cancelled
  | none => false

/-- The table after a worker has begun, and whether it goes on. -/
def start (now : Timestamp) : JobTable × Bool :=
  match t[id]? with
  | none => (t, false)
  | some e =>
    if e.cancelRequested then (t.insert id (e.cancel now), false)
    else (t.insert id (e.start now), true)

/-- The table after a worker is done. The result of a cancelled job is discarded. -/
def finish (result : PlanResult) (now : Timestamp) : JobTable :=
  match t[id]? with
  | none => t
  | some e =>
    if e.cancelRequested then t.insert id (e.cancel now) else t.insert id (e.finish result now)

/-! ### Jobs by their status -/

section Statuses

variable {t id} {e : JobEntry}

theorem obstacle?_eq_none_iff :
    obstacle? t id = none ↔ ∀ e, t[id]? = some e → e.status = .completed ∨ e.status = .failed := by
  unfold obstacle?
  cases t[id]? with
  | none => simp
  | some e => cases h : e.status <;> simp [JobStatus.isActive, h]

theorem obstacle?_eq_some_iff {status : JobStatus} :
    obstacle? t id = some status ↔ ∃ e, t[id]? = some e ∧
      (e.status.isActive = true ∨ e.status = .cancelled) ∧ e.status = status := by
  unfold obstacle?
  cases t[id]? with
  | none => simp
  | some e => simp

theorem submit_of_free (h : obstacle? t id = none) (now : Timestamp) :
    submit t id now = t.insert id (.pending now) := by
  unfold submit
  split
  · rfl
  · next e he =>
    have ended := obstacle?_eq_none_iff.mp h e he
    rcases ended with ended | ended <;> simp [ended, JobStatus.isActive]

theorem submit_of_active (he : t[id]? = some e) (h : e.status.isActive = true) (now : Timestamp) :
    submit t id now = t := by
  simp only [submit, he, h, if_true]

theorem submit_of_cancelled (he : t[id]? = some e) (h : e.status = .cancelled) (now : Timestamp) :
    submit t id now = t.insert id (e.noteSubmission now) := by
  simp [submit, he, h, JobStatus.isActive]

theorem cancel_of_unknown (he : t[id]? = none) (now : Timestamp) :
    cancel t id now = t.insert id (.tombstone now) := by
  simp only [cancel, he]

theorem cancel_of_active (he : t[id]? = some e) (h : e.status.isActive = true) (now : Timestamp) :
    cancel t id now = t.insert id (e.cancel now) := by
  simp only [cancel, he, h, if_true]

theorem cancel_of_not_active (he : t[id]? = some e) (h : e.status.isActive = false)
    (now : Timestamp) : cancel t id now = t := by
  simp only [cancel, he, h, Bool.false_eq_true, if_false]

theorem cancelStatus_of_unknown (he : t[id]? = none) : cancelStatus t id = .cancelled := by
  simp only [cancelStatus, he]

theorem cancelStatus_of_known (he : t[id]? = some e) :
    cancelStatus t id = if e.status.isActive then .cancelled else e.status := by
  simp only [cancelStatus, he]

theorem stopsWorker_of_known (he : t[id]? = some e) : stopsWorker t id = e.cancelRequested := by
  simp only [stopsWorker, he]

theorem start_of_calm (he : t[id]? = some e) (h : e.cancelRequested = false) (now : Timestamp) :
    start t id now = (t.insert id (e.start now), true) := by
  simp only [start, he, h, Bool.false_eq_true, if_false]

theorem start_of_cancelled (he : t[id]? = some e) (h : e.cancelRequested = true)
    (now : Timestamp) : start t id now = (t.insert id (e.cancel now), false) := by
  simp only [start, he, h, if_true]

theorem finish_of_calm (he : t[id]? = some e) (h : e.cancelRequested = false) (result : PlanResult)
    (now : Timestamp) : finish t id result now = t.insert id (e.finish result now) := by
  simp only [finish, he, h, Bool.false_eq_true, if_false]

theorem finish_of_cancelled (he : t[id]? = some e) (h : e.cancelRequested = true)
    (result : PlanResult) (now : Timestamp) :
    finish t id result now = t.insert id (e.cancel now) := by
  simp only [finish, he, h, if_true]

end Statuses

/-! ### Other jobs -/

section OtherJobs

variable {t id} {other : String} {now : Timestamp}

theorem getElem?_submit_of_ne (h : id ≠ other) : (submit t id now)[other]? = t[other]? := by
  unfold submit
  split
  · simp [Std.HashMap.getElem?_insert, h]
  · split
    · rfl
    · split <;> simp [Std.HashMap.getElem?_insert, h]

theorem getElem?_cancel_of_ne (h : id ≠ other) : (cancel t id now)[other]? = t[other]? := by
  unfold cancel
  split
  · simp [Std.HashMap.getElem?_insert, h]
  · split <;> simp [Std.HashMap.getElem?_insert, h]

theorem getElem?_start_of_ne (h : id ≠ other) : (start t id now).1[other]? = t[other]? := by
  unfold start
  split
  · rfl
  · split <;> simp [Std.HashMap.getElem?_insert, h]

theorem getElem?_finish_of_ne (h : id ≠ other) (result : PlanResult) :
    (finish t id result now)[other]? = t[other]? := by
  unfold finish
  split
  · rfl
  · split <;> simp [Std.HashMap.getElem?_insert, h]

end OtherJobs

end JobTable

end DeliveryRouting
