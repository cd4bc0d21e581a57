import DeliveryRouting.Jobs.Table

/-! # Jobs: the service

The service runs each submitted job with a worker of its own. A worker begins, plans the request of
its job, looking up before each step whether the job is cancelled, and enters the result. Between
any two steps of a worker anything may happen: submissions, cancellations and steps of other
workers.

A worker can always be started. What a service does when none can be, which is to let a job that is
still active fail with a message of its own, is not described here.

`solveAtOnce` plans a request without a worker and without an entry. It heeds the entry that the id
of the request may have: if that is cancelled, nothing is served. -/

namespace DeliveryRouting

/-- How a request is planned. -/
abbrev Planner := Request → Polling PlanResult

/-- How far a worker is. -/
inductive Stage where
  | waiting
  | planning (rest : Polling PlanResult)

/-- One who runs a job. -/
structure Worker where
  id : String
  request : Request
  stage : Stage

/-- The jobs and those who run them. -/
structure Service where
  table : JobTable
  workers : List Worker

namespace Service

/-- Nothing has happened. -/
def idle : Service := ⟨∅, []⟩

variable (s : Service)

/-- The request with the id that its job goes by: its own or a fresh one. -/
def named (fresh : String) (r : Request) : Request := { r with jobId := some (r.jobId.getD fresh) }

/-- The service after a submission, which starts a worker unless the job is active or cancelled,
and the answer. The worker is taken to start: that this might fail is left out. -/
def submit (fresh : String) (r : Request) (now : Timestamp) : Service × Accepted :=
  let id := r.jobId.getD fresh
  let table := s.table.submit id now
  match s.table.obstacle? id with
  | some status => ({ s with table }, ⟨id, status⟩)
  | none => (⟨table, s.workers ++ [⟨id, named fresh r, .waiting⟩]⟩, ⟨id, .pending⟩)

/-- The service after a cancellation. -/
def cancel (id : String) (now : Timestamp) : Service := { s with table := s.table.cancel id now }

/-- What a worker does next, while the table stands as it does: the table after it, and the worker
unless it has ended. The moment is told by the point in time and the time since the search began. -/
def act (planner : Planner) (table : JobTable) (w : Worker) (now : Timestamp) (elapsed : Int) :
    JobTable × Option Worker :=
  match w.stage with
  | .waiting =>
    let (table, goesOn) := table.start w.id now
    (table, if goesOn then some { w with stage := .planning (planner w.request) } else none)
  | .planning (.ask next) =>
    (table, some { w with stage := .planning (next ⟨table.stopsWorker w.id, elapsed⟩) })
  | .planning (.done result) => (table.finish w.id result now, none)

/-- The service after the next step of its `i`-th worker. -/
def advance (planner : Planner) (i : Nat) (now : Timestamp) (elapsed : Int) : Service :=
  match s.workers[i]? with
  | none => s
  | some w =>
    let (table, rest) := act planner s.table w now elapsed
    ⟨table, match rest with
      | some w => s.workers.set i w
      | none => s.workers.eraseIdx i⟩

/-- The worker with all its questions answered, while the table stands as it does. -/
def hurried (table : JobTable) (w : Worker) : Worker :=
  match w.stage with
  | .waiting => w
  | .planning rest =>
    let result := rest.answer fun _ => ⟨table.stopsWorker w.id, 0⟩
    { w with stage := .planning (.done result) }

/-- The service after its `i`-th worker has planned and entered the result, while nothing else
happens and no time passes. -/
def complete (planner : Planner) (i : Nat) (now : Timestamp) : Service :=
  let hurried : Service := { s with workers := s.workers.modify i (hurried s.table) }
  hurried.advance planner i now 0

end Service

/-- The computation with all cancellations unheard. -/
def Polling.uncancelled {α : Type} : Polling α → Polling α
  | done a => done a
  | ask next => ask fun poll => (next { poll with cancelled := false }).uncancelled

/-- Plan a request without a worker. One with an id is asked about once more at the end, and
nothing is served if it is cancelled by then. -/
def solveAtOnce (planner : Planner) (r : Request) : Polling PlanResult :=
  match r.jobId with
  | none => (planner r).uncancelled
  | some _ => (planner r).bind fun
    | .error fault => .done (.error fault)
    | .ok response => .ask fun poll =>
      .done (.ok (if poll.cancelled then Response.allUnserved r else response))

end DeliveryRouting
