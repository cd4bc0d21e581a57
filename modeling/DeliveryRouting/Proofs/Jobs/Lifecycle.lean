import DeliveryRouting.Jobs.Service

/-! # Jobs: the life of one

What a service holds of a job is its entry, if there is one, and its crew, the workers that run it.
`Job.Step` lists all that can happen to the two: an accepted submission, the changes of the entry
that a submission or a cancellation makes, and what a worker does. The guards are those of the
service, so that facts about jobs are read off the list and not off the service.

`Job.Valid` is the invariant: the fields of the entry suit its status, an active job has one worker
in the stage that goes with the status, a cancelled one may still have one, and any other job has
none. -/

namespace DeliveryRouting

/-! ### Entries -/

namespace JobEntry

/-- The fields of an entry suit its status. -/
structure Sound (e : JobEntry) : Prop where
  cancelRequested_iff : e.cancelRequested = true ↔ e.status = .cancelled
  response_iff : e.response.isSome = true ↔ e.status = .completed
  error_iff : e.error.isSome = true ↔ e.status = .failed
  finishedAt_iff : e.finishedAt.isSome = true ↔ e.status.isTerminal = true
  submittedAt_iff : e.submittedAt.isSome = true ↔ e.submitted = true
  startedAt_of_pending : e.status = .pending → e.startedAt = none
  startedAt_of_started : e.status = .running ∨ e.status = .completed ∨ e.status = .failed →
    e.startedAt.isSome = true
  of_unsubmitted : e.submitted = false → e.status = .cancelled ∧ e.startedAt = none

variable {e : JobEntry} {now : Timestamp}

theorem sound_pending (now : Timestamp) : (pending now).Sound := by
  constructor <;> simp [pending, JobStatus.isTerminal, JobStatus.isActive]

theorem sound_tombstone (now : Timestamp) : (tombstone now).Sound := by
  constructor <;> simp [tombstone, JobStatus.isTerminal, JobStatus.isActive]

namespace Sound

variable (h : e.Sound)
include h

theorem cancelRequested_eq_false (calm : e.status ≠ .cancelled) : e.cancelRequested = false :=
  Bool.eq_false_iff.mpr fun requested => calm (h.cancelRequested_iff.mp requested)

theorem ne_cancelled (calm : e.cancelRequested = false) : e.status ≠ .cancelled := by
  intro cancelled
  have requested : e.cancelRequested = true := h.cancelRequested_iff.mpr cancelled
  exact absurd (calm.symm.trans requested) (by decide)

theorem response_eq_none (ongoing : e.status ≠ .completed) : e.response = none :=
  Option.not_isSome_iff_eq_none.mp fun some => ongoing (h.response_iff.mp some)

theorem error_eq_none (unfailed : e.status ≠ .failed) : e.error = none :=
  Option.not_isSome_iff_eq_none.mp fun some => unfailed (h.error_iff.mp some)

theorem cancel (unfinished : e.status ≠ .completed ∧ e.status ≠ .failed) :
    (e.cancel now).Sound where
  cancelRequested_iff := by simp [JobEntry.cancel]
  response_iff := by simp [JobEntry.cancel, h.response_eq_none unfinished.1]
  error_iff := by simp [JobEntry.cancel, h.error_eq_none unfinished.2]
  finishedAt_iff := by simp [JobEntry.cancel, JobStatus.isTerminal, JobStatus.isActive]
  submittedAt_iff := h.submittedAt_iff
  startedAt_of_pending := by simp [JobEntry.cancel]
  startedAt_of_started := by simp [JobEntry.cancel]
  of_unsubmitted unsubmitted := ⟨rfl, (h.of_unsubmitted unsubmitted).2⟩

theorem noteSubmission (cancelled : e.status = .cancelled) : (e.noteSubmission now).Sound where
  cancelRequested_iff := h.cancelRequested_iff
  response_iff := h.response_iff
  error_iff := h.error_iff
  finishedAt_iff := h.finishedAt_iff
  submittedAt_iff := by simp [JobEntry.noteSubmission]
  startedAt_of_pending pending := nomatch cancelled.symm.trans pending
  startedAt_of_started := h.startedAt_of_started
  of_unsubmitted := by simp [JobEntry.noteSubmission]

theorem submitted_of_ne (calm : e.status ≠ .cancelled) : e.submitted = true :=
  eq_true_of_ne_false fun unsubmitted => calm (h.of_unsubmitted unsubmitted).1

theorem start (waiting : e.status = .pending) : (e.start now).Sound where
  cancelRequested_iff := by
    simp [JobEntry.start, h.cancelRequested_eq_false (by simp [waiting])]
  response_iff := by simp [JobEntry.start, h.response_eq_none (by simp [waiting])]
  error_iff := by simp [JobEntry.start, h.error_eq_none (by simp [waiting])]
  finishedAt_iff := by
    have unfinished := h.finishedAt_iff
    rw [waiting] at unfinished
    exact unfinished
  submittedAt_iff := h.submittedAt_iff
  startedAt_of_pending := by simp [JobEntry.start]
  startedAt_of_started := by simp [JobEntry.start]
  of_unsubmitted unsubmitted := by
    have submitted := h.submitted_of_ne (by simp [waiting])
    exact absurd (submitted.symm.trans unsubmitted) (by decide)

theorem finish (running : e.status = .running) (result : PlanResult) :
    (e.finish result now).Sound := by
  have calm := h.cancelRequested_eq_false (by simp [running])
  have unanswered := h.response_eq_none (by simp [running])
  have unfailed := h.error_eq_none (by simp [running])
  have started := h.startedAt_of_started (.inl running)
  have submitted := h.submitted_of_ne (by simp [running])
  have noted := h.submittedAt_iff.mpr submitted
  cases result with
  | ok response =>
    constructor <;> simp [JobEntry.finish, JobStatus.isTerminal, JobStatus.isActive, *]
  | error fault =>
    constructor <;> simp [JobEntry.finish, JobStatus.isTerminal, JobStatus.isActive, *]

end Sound

end JobEntry

theorem JobStatus.isActive_iff {status : JobStatus} :
    status.isActive = true ↔ status = .pending ∨ status = .running := by
  cases status <;> simp [JobStatus.isActive]

/-! ### Jobs -/

/-- What a service holds of a job: its entry, and the workers that run it. -/
structure Job where
  entry? : Option JobEntry
  crew : List Worker

namespace Job

variable {planner : Planner} {id : String} {new : Option Request} {j j' : Job}

/-- What can happen to a job, perhaps with the request of an accepted submission. -/
inductive Step (planner : Planner) (id : String) : Option Request → Job → Job → Prop
  /-- nothing, or something to another job, or a look at this one -/
  | stay (j : Job) : Step planner id none j j
  | accept (j : Job) (free : ∀ e ∈ j.entry?, e.status = .completed ∨ e.status = .failed)
      (fresh : String) (r : Request) (now : Timestamp) :
      Step planner id (some r) j
        ⟨some (.pending now), j.crew ++ [⟨id, Service.named fresh r, .waiting⟩]⟩
  | note {e : JobEntry} (cancelled : e.status = .cancelled) (crew : List Worker)
      (now : Timestamp) : Step planner id none ⟨some e, crew⟩ ⟨some (e.noteSubmission now), crew⟩
  | bury (crew : List Worker) (now : Timestamp) :
      Step planner id none ⟨none, crew⟩ ⟨some (.tombstone now), crew⟩
  | cancel {e : JobEntry} (active : e.status.isActive = true) (crew : List Worker)
      (now : Timestamp) : Step planner id none ⟨some e, crew⟩ ⟨some (e.cancel now), crew⟩
  | start {e : JobEntry} (calm : e.cancelRequested = false) (r : Request) (now : Timestamp) :
      Step planner id none ⟨some e, [⟨id, r, .waiting⟩]⟩
        ⟨some (e.start now), [⟨id, r, .planning (planner r)⟩]⟩
  /-- the worker finds its job cancelled before it begins -/
  | forgo {e : JobEntry} (cancelled : e.cancelRequested = true) (r : Request) (now : Timestamp) :
      Step planner id none ⟨some e, [⟨id, r, .waiting⟩]⟩ ⟨some (e.cancel now), []⟩
  | ask (e : JobEntry) (r : Request) (next : Poll → Polling PlanResult) (elapsed : Int) :
      Step planner id none ⟨some e, [⟨id, r, .planning (.ask next)⟩]⟩
        ⟨some e, [⟨id, r, .planning (next ⟨e.cancelRequested, elapsed⟩)⟩]⟩
  | finish {e : JobEntry} (calm : e.cancelRequested = false) (r : Request) (result : PlanResult)
      (now : Timestamp) :
      Step planner id none ⟨some e, [⟨id, r, .planning (.done result)⟩]⟩
        ⟨some (e.finish result now), []⟩
  /-- the worker finds its job cancelled when it is done -/
  | discard {e : JobEntry} (cancelled : e.cancelRequested = true) (r : Request)
      (result : PlanResult) (now : Timestamp) :
      Step planner id none ⟨some e, [⟨id, r, .planning (.done result)⟩]⟩ ⟨some (e.cancel now), []⟩

/-- Entry and crew suit each other. -/
inductive Valid : Job → Prop
  | unknown : Valid ⟨none, []⟩
  | waiting {e : JobEntry} (sound : e.Sound) (status : e.status = .pending) (id : String)
      (r : Request) : Valid ⟨some e, [⟨id, r, .waiting⟩]⟩
  | running {e : JobEntry} (sound : e.Sound) (status : e.status = .running) (id : String)
      (r : Request) (rest : Polling PlanResult) : Valid ⟨some e, [⟨id, r, .planning rest⟩]⟩
  /-- the worker has not yet found out that the job is cancelled -/
  | unheard {e : JobEntry} (sound : e.Sound) (status : e.status = .cancelled) (w : Worker) :
      Valid ⟨some e, [w]⟩
  | ended {e : JobEntry} (sound : e.Sound) (status : e.status.isTerminal = true) :
      Valid ⟨some e, []⟩

theorem valid_of_cancelled {e : JobEntry} {crew : List Worker} (sound : e.Sound)
    (status : e.status = .cancelled) (few : crew.length ≤ 1) : Valid ⟨some e, crew⟩ := by
  match crew with
  | [] => exact .ended sound (by rw [status]; rfl)
  | [w] => exact .unheard sound status w
  | _ :: _ :: _ => simp at few

namespace Valid

variable {e : JobEntry}

section Consequences

variable (h : j.Valid)
include h

theorem length_crew_le : j.crew.length ≤ 1 := by
  cases h <;> simp

theorem sound (he : j.entry? = some e) : e.Sound := by
  cases h with
  | unknown => cases he
  | waiting sound | running sound | unheard sound | ended sound => cases he; exact sound

theorem crew_of_pending (he : j.entry? = some e) (status : e.status = .pending) :
    ∃ w, j.crew = [w] ∧ w.stage = .waiting := by
  cases h with
  | unknown => cases he
  | waiting _ _ id r => exact ⟨_, rfl, rfl⟩
  | running _ other | unheard _ other => cases he; exact nomatch other.symm.trans status
  | ended _ other => cases he; rw [status] at other; cases other

theorem crew_of_running (he : j.entry? = some e) (status : e.status = .running) :
    ∃ w rest, j.crew = [w] ∧ w.stage = .planning rest := by
  cases h with
  | unknown => cases he
  | running _ _ id r rest => exact ⟨_, rest, rfl, rfl⟩
  | waiting _ other | unheard _ other => cases he; exact nomatch other.symm.trans status
  | ended _ other => cases he; rw [status] at other; cases other

theorem isTerminal_of_crew (he : j.entry? = some e) (left : j.crew = []) :
    e.status.isTerminal = true := by
  cases h with
  | unknown => cases he
  | ended _ status => cases he; exact status
  | waiting | running | unheard => cases left

theorem crew_eq_nil (free : ∀ e ∈ j.entry?, e.status = .completed ∨ e.status = .failed) :
    j.crew = [] := by
  cases h with
  | unknown | ended => rfl
  | waiting _ status | running _ status | unheard _ status =>
    rcases free _ rfl with other | other <;> exact nomatch status.symm.trans other

theorem exists_entry {w : Worker} (hw : w ∈ j.crew) : ∃ e, j.entry? = some e := by
  cases h with
  | unknown => cases hw
  | waiting | running | unheard | ended => exact ⟨_, rfl⟩

end Consequences

/-- **What happens to a job keeps entry and crew suited to each other.** -/
theorem step (hj : j.Valid) (h : Step planner id new j j') : j'.Valid := by
  cases h with
  | stay => exact hj
  | accept _ free fresh r now =>
    rw [hj.crew_eq_nil free]
    exact .waiting (JobEntry.sound_pending now) rfl id _
  | note cancelled crew now =>
    exact valid_of_cancelled ((hj.sound rfl).noteSubmission cancelled) cancelled hj.length_crew_le
  | bury crew now =>
    exact valid_of_cancelled (JobEntry.sound_tombstone now) rfl hj.length_crew_le
  | cancel active crew now =>
    refine valid_of_cancelled ((hj.sound rfl).cancel ?_) rfl hj.length_crew_le
    rcases JobStatus.isActive_iff.mp active with status | status <;> simp [status]
  | start calm r now =>
    cases hj with
    | waiting sound status => exact .running (sound.start status) rfl id r _
    | unheard sound status => exact absurd status (sound.ne_cancelled calm)
  | ask e r next elapsed =>
    cases hj with
    | running sound status => exact .running sound status id r _
    | unheard sound status => exact .unheard sound status _
  | finish calm r result now =>
    cases hj with
    | running sound status => exact .ended (sound.finish status result) (by cases result <;> rfl)
    | unheard sound status => exact absurd status (sound.ne_cancelled calm)
  | forgo cancelled | discard cancelled =>
    have status := (hj.sound rfl).cancelRequested_iff.mp cancelled
    exact valid_of_cancelled ((hj.sound rfl).cancel (by simp [status])) rfl (Nat.zero_le 1)

end Valid

end Job

end DeliveryRouting
