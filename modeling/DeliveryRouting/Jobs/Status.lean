import DeliveryRouting.Json.Codec

/-! # Jobs: how they stand

A job waits for its worker, runs, and ends in one of three ways. The end of a job is its last
status, unless it is submitted anew. -/

namespace DeliveryRouting

open Json (Value)

/-- How a job stands. -/
inductive JobStatus where
  | pending
  | running
  | completed
  | cancelled
  | failed
  deriving Repr, DecidableEq, Inhabited

namespace JobStatus

/-- The job has a worker. -/
def isActive : JobStatus → Bool
  | pending | running => true
  | completed | cancelled | failed => false

/-- The job has come to its end. -/
def isTerminal (s : JobStatus) : Bool := !s.isActive

/-- All of them, in the order of a job's life. -/
def all : List JobStatus := [pending, running, completed, cancelled, failed]

/-- The name of a status. -/
def name : JobStatus → String
  | pending => "PENDING"
  | running => "RUNNING"
  | completed => "COMPLETED"
  | cancelled => "CANCELLED"
  | failed => "FAILED"

/-- The status with a name. -/
def ofName (s : String) : JobStatus := (all.find? fun status => status.name == s).getD default

/-- How they are written. -/
def codec : Json.Codec JobStatus where
  form := .oneOf "JobStatus" (all.map fun status => (status.name, none))
  ofValue v := ofName v.asText
  toValue status := .text status.name

end JobStatus

/-- The answer to a submission. -/
structure Accepted where
  id : String
  status : JobStatus
  deriving Repr, DecidableEq, Inhabited

namespace Accepted

/-- The fields of an answer. -/
def record : Json.Record where
  name := "SolveAccepted"
  closed := false
  fields := [{ name := "job_id", form := .text }, { name := "status", form := JobStatus.codec.form }]

/-- How answers are written. -/
def codec : Json.Codec Accepted where
  form := .record record
  ofValue v := ⟨(v.member "job_id").asText, JobStatus.codec.ofValue (v.member "status")⟩
  toValue a := .record [("job_id", .text a.id), ("status", JobStatus.codec.toValue a.status)]

end Accepted

end DeliveryRouting
