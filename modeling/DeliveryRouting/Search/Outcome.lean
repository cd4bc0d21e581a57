import DeliveryRouting.Trip.Solution

/-! # Search: outcomes

The outcome of a search names the trips that leave the depot, in the order of their vehicles, and
the deliveries that are dropped, in ascending order. A trip starts as late as its first arrival
allows. -/

namespace DeliveryRouting

/-- A stop and the time of arrival there. -/
structure OutcomeStop where
  node : Nat
  arrival : Int
  deriving Repr, DecidableEq, Inhabited

/-- A trip that leaves the depot. -/
structure OutcomeRoute where
  vehicle : Nat
  stops : List OutcomeStop
  /-- the latest time to leave the depot that keeps the first arrival -/
  start : Int
  /-- the time back at the depot -/
  finish : Int
  deriving Repr, DecidableEq, Inhabited

/-- The trips and the dropped deliveries. -/
structure Outcome where
  routes : List OutcomeRoute
  dropped : List Nat
  deriving Repr, DecidableEq, Inhabited

namespace Outcome

/-- Nothing to serve and nothing dropped. -/
def empty : Outcome := ⟨[], []⟩

/-- All deliveries among `n` nodes dropped. -/
def allDropped (n : Nat) : Outcome := ⟨[], (List.range n).tail⟩

/-- The stops of a trip with their arrivals. -/
def stopsOf (t : Trip) : List OutcomeStop := t.nodes.zipWith OutcomeStop.mk t.schedule.arrivals

/-- The latest time to leave the depot for the first of the stops. -/
def latestStart (m : Model) (stops : List OutcomeStop) : Int :=
  match stops with
  | [] => 0
  | first :: _ => max (m.keep (first.arrival - m.transit depot first.node)) 0

/-- The route of a vehicle. -/
def routeOf (m : Model) (s : Solution) (vehicle : Nat) : OutcomeRoute where
  vehicle
  stops := stopsOf (s.trip vehicle)
  start := latestStart m (stopsOf (s.trip vehicle))
  finish := (s.trip vehicle).schedule.finish

/-- The outcome that a solution stands for. -/
def ofSolution (m : Model) (s : Solution) : Outcome :=
  ⟨s.usedVehicles.map (routeOf m s), s.dropped⟩

/-- Number of deliveries that are served. -/
def served (o : Outcome) : Nat := (o.routes.map fun r => r.stops.length).sum

end Outcome

end DeliveryRouting
