import DeliveryRouting.Dispatch.Plan
import DeliveryRouting.Jobs.Status
import DeliveryRouting.Time.Timestamp

/-! # Jobs: what is known of one

An entry records how a job stands, when it came there and what it has brought. An id that is
cancelled before anyone has submitted it has an entry too, the tombstone, which keeps a later
submission from starting anything. -/

namespace DeliveryRouting

open Json (Value)

/-- What planning a request comes to. -/
abbrev PlanResult := Except PlanFault Response

/-- What is known of a job. -/
structure JobEntry where
  status : JobStatus
  cancelRequested : Bool := false
  /-- someone has submitted the job -/
  submitted : Bool
  submittedAt : Option Timestamp := none
  startedAt : Option Timestamp := none
  finishedAt : Option Timestamp := none
  response : Option Response := none
  error : Option String := none
  deriving Inhabited

namespace JobEntry

/-- A job that waits for its worker. -/
def pending (now : Timestamp) : JobEntry where
  status := .pending
  submitted := true
  submittedAt := some now

/-- A job that is cancelled before anyone has submitted it. -/
def tombstone (now : Timestamp) : JobEntry where
  status := .cancelled
  cancelRequested := true
  submitted := false
  finishedAt := some now

/-- The entry of a cancelled job; what has ended before keeps its end. -/
def cancel (e : JobEntry) (now : Timestamp) : JobEntry :=
  { e with cancelRequested := true, status := .cancelled, finishedAt := e.finishedAt.or now }

/-- The entry after a submission that starts nothing. -/
def noteSubmission (e : JobEntry) (now : Timestamp) : JobEntry :=
  { e with submitted := true, submittedAt := e.submittedAt.or now }

/-- The entry of a job whose worker has begun. -/
def start (e : JobEntry) (now : Timestamp) : JobEntry :=
  { e with status := .running, startedAt := some now }

/-- The entry of a job whose worker is done. -/
def finish (e : JobEntry) (result : PlanResult) (now : Timestamp) : JobEntry :=
  match result with
  | .ok response =>
    { e with status := .completed, finishedAt := some now, response := some response }
  | .error fault =>
    { e with status := .failed, finishedAt := some now, error := some fault.message }

/-- The value that tells all about a job. -/
def report (e : JobEntry) (id : String) : Value :=
  let time := Value.ofOption fun (t : Timestamp) => .text t.write
  .record [
    ("job_id", .text id),
    ("status", JobStatus.codec.toValue e.status),
    ("response", .ofOption Response.toValue e.response),
    ("error", .ofOption .text e.error),
    ("submitted_at", time e.submittedAt),
    ("started_at", time e.startedAt),
    ("finished_at", time e.finishedAt)]

end JobEntry

end DeliveryRouting
