import DeliveryRouting.Search.Descent
import DeliveryRouting.Search.Outcome
import DeliveryRouting.Search.Params
import DeliveryRouting.Trip.Construction

/-! # Search: solving

A problem is solved by building a solution greedily and improving it by guided local search: each
iteration descends to a local optimum of the augmented cost and then penalises the arcs that seem
worst there. The best solution on the true objective is kept. The search asks how things stand
before each iteration and before each move, and ends when it is cancelled or a limit is reached,
or when a local optimum travels no arc.

A cancelled solve drops everything, whatever it has found: it asks once before the problem is
looked at and once after the search. -/

namespace DeliveryRouting

/-- Where a search stands between two iterations. -/
structure Search where
  current : Solution
  best : Solution
  bestCost : Int
  guidance : Guidance
  neighbourhoods : Neighbourhoods
  /-- number of iterations made -/
  iterations : Nat
  /-- iterations since the last better solution -/
  stalled : Nat

namespace Search

/-- The search before its first iteration, from a given solution. -/
def start (m : Model) (p : Params) (s : Solution) : Search where
  current := s
  best := s
  bestCost := s.totalCost m
  guidance := Guidance.start p.coefficient
  neighbourhoods := Neighbourhoods.start p.seed
  iterations := 0
  stalled := 0

/-- The search ends here. -/
def stops (p : Params) (t : Search) (poll : Poll) : Bool :=
  poll.cancelled || p.exhausted poll.elapsed t.iterations t.stalled

/-- The search after the descent of an iteration: the best solution is replaced by a better one. -/
def settle (m : Model) (t : Search) (d : Descent) : Search :=
  let cost := d.solution.totalCost m
  let t := { t with
    current := d.solution
    neighbourhoods := d.neighbourhoods
    iterations := t.iterations + 1 }
  if cost < t.bestCost then { t with best := d.solution, bestCost := cost, stalled := 0 }
  else { t with stalled := t.stalled + 1 }

/-- The search with the penalties for the current solution, and whether there were arcs to
penalise. -/
def penalize (m : Model) (t : Search) : Search × Bool :=
  let (guidance, found) := (t.guidance.calibrate t.current m.width).penalize m t.current
  ({ t with guidance }, found)

/-- The descent of an iteration. -/
def descent (t : Search) : Descent := ⟨t.current, t.neighbourhoods, 0⟩

/-- Iterate until the search ends, and give it as it stands then; nothing if `steps` iterations, or
as many moves in one of them, do not suffice. -/
def iterate (m : Model) (p : Params) : (steps : Nat) → Search → Polling (Option Search)
  | 0, _ => .done none
  | steps + 1, t => .ask fun poll =>
    if t.stops p poll then .done (some t)
    else (descend m t.guidance (t.stops p) steps t.descent).bind fun (ending, d) =>
      if ending = .outOfSteps then .done none
      else
        let (next, found) := (t.settle m d).penalize m
        if found then iterate m p steps next else .done (some next)

/-- The search from the greedy solution to its end. -/
def run (m : Model) (p : Params) (steps : Nat) : Polling (Option Search) :=
  iterate m p steps (start m p (Solution.construct m))

end Search

/-- Why a problem is not solved. -/
inductive SolveFault where
  | model (fault : ModelFault)
  | outOfSteps
  deriving Repr, DecidableEq

/-- Solve a problem, with at most `steps` iterations and as many moves in each. A problem without
deliveries has the empty outcome. -/
def solve (p : Params) (steps : Nat) (problem : Problem) : Polling (Except SolveFault Outcome) :=
  let n := problem.durations.length
  if n ≤ 1 then .done (.ok Outcome.empty)
  else .ask fun before =>
    if before.cancelled then .done (.ok (Outcome.allDropped n))
    else match Model.build problem p.trips p.service p.width with
      | .error fault => .done (.error (.model fault))
      | .ok m => (Search.run m p steps).bind fun
        | none => .done (.error .outOfSteps)
        | some ended => .ask fun after =>
          if after.cancelled then .done (.ok (Outcome.allDropped n))
          else .done (.ok (Outcome.ofSolution m ended.best))

/-- More iterations than any machine can make. -/
def ampleSteps : Nat := 0x4000000000000000

end DeliveryRouting
