import DeliveryRouting.Trip.Schedule

/-! # Trips: solutions

A solution gives every vehicle a trip, perhaps without stops. Beside the stops it keeps what the
search asks for all the time: the schedule and the cost of each trip, and for each node the vehicle
that serves it. Deliveries that no vehicle serves are dropped and pay their penalty.

Solutions change only by giving a vehicle another trip. A move between two trips is two such
changes, and between them a node may stand on both trips: taking a trip away therefore releases
only the nodes that are still its own. -/

namespace DeliveryRouting

/-- The list `xs` with `ys` put in before index `i`. -/
def splice {α : Type} (xs : List α) (i : Nat) (ys : List α) : List α :=
  xs.take i ++ ys ++ xs.drop i

theorem splice_perm {α : Type} {xs ys : List α} {i : Nat} : (splice xs i ys).Perm (ys ++ xs) := by
  unfold splice
  rw [List.append_assoc]
  exact .trans (List.perm_append_comm_assoc ..) (by rw [List.take_append_drop])

theorem length_splice {α : Type} {xs ys : List α} {i : Nat} :
    (splice xs i ys).length = ys.length + xs.length := by
  rw [splice_perm.length_eq, List.length_append]

/-- The stops of a vehicle with their schedule and cost. -/
structure Trip where
  nodes : List Nat
  schedule : Schedule
  cost : Int
  deriving Repr, DecidableEq, Inhabited

namespace Trip

/-- The trip of a vehicle that stays at the depot. -/
def empty : Trip := ⟨[], Schedule.empty, 0⟩

/-- The load of the trip. -/
def load (t : Trip) : Int := t.schedule.load

/-- Number of stops. -/
def length (t : Trip) : Nat := t.nodes.length

/-- The vehicle stays at the depot. -/
def isEmpty (t : Trip) : Bool := t.nodes.isEmpty

end Trip

/-- The trip of every vehicle, and for every node the vehicle that serves it. -/
structure Solution where
  trips : List Trip
  servedBy : List (Option Nat)
  deriving Repr, DecidableEq, Inhabited

namespace Solution

/-- The solution in which no vehicle moves. -/
def empty (m : Model) : Solution :=
  ⟨List.replicate m.numVehicles Trip.empty, List.replicate m.numNodes none⟩

/-- The trip of a vehicle. -/
def trip (s : Solution) (vehicle : Nat) : Trip := s.trips.getD vehicle Trip.empty

/-- The stops of a vehicle. -/
def nodes (s : Solution) (vehicle : Nat) : List Nat := (s.trip vehicle).nodes

/-- The vehicles in order. -/
def vehicles (s : Solution) : List Nat := List.range s.trips.length

/-- The vehicles that leave the depot, in order. -/
def usedVehicles (s : Solution) : List Nat := s.vehicles.filter fun v => !(s.trip v).isEmpty

/-- The vehicle that serves a node. -/
def vehicleOf (s : Solution) (node : Nat) : Option Nat := s.servedBy.getD node none

/-- The dropped deliveries in ascending order. -/
def dropped (s : Solution) : List Nat :=
  (List.range s.servedBy.length).filter fun node => node ≠ depot ∧ s.vehicleOf node = none

theorem mem_dropped {s : Solution} {node : Nat} :
    node ∈ s.dropped ↔ node < s.servedBy.length ∧ node ≠ depot ∧ s.vehicleOf node = none := by
  simp [dropped]

/-- The transit of all trips. -/
def transportCost (s : Solution) (width : Width := .word) : Int :=
  width.keep (s.trips.map Trip.cost).sum

/-- The penalties of all dropped deliveries. -/
def dropPenalties (m : Model) (s : Solution) : Int := m.keep (s.dropped.map m.dropPenalty).sum

/-- The objective: the transit of all trips and the penalties of all dropped deliveries. -/
def totalCost (m : Model) (s : Solution) : Int :=
  m.keep (s.transportCost m.width + s.dropPenalties m)

/-- Number of arcs travelled, depot legs among them. -/
def numArcs (s : Solution) : Nat :=
  ((s.trips.filter fun t => !t.isEmpty).map fun t => t.length + 1).sum

/-- Release the nodes that are still served by `vehicle`. -/
def release (vehicle : Nat) (servedBy : List (Option Nat)) (nodes : List Nat) :
    List (Option Nat) :=
  nodes.foldl (fun served node =>
    if served.getD node none = some vehicle then served.set node none else served) servedBy

/-- Let `vehicle` serve the nodes. -/
def claim (vehicle : Nat) (servedBy : List (Option Nat)) (nodes : List Nat) :
    List (Option Nat) :=
  nodes.foldl (fun served node => served.set node (some vehicle)) servedBy

@[simp] theorem length_release (vehicle : Nat) (servedBy : List (Option Nat)) (nodes : List Nat) :
    (release vehicle servedBy nodes).length = servedBy.length := by
  unfold release
  induction nodes generalizing servedBy with
  | nil => rfl
  | cons node nodes ih => rw [List.foldl_cons, ih]; split <;> simp

@[simp] theorem length_claim (vehicle : Nat) (servedBy : List (Option Nat)) (nodes : List Nat) :
    (claim vehicle servedBy nodes).length = servedBy.length := by
  unfold claim
  induction nodes generalizing servedBy with
  | nil => rfl
  | cons node nodes ih => rw [List.foldl_cons, ih, List.length_set]

/-- Give `vehicle` the trip through `nodes`, whose schedule is `schedule`. -/
def replaceTrip (m : Model) (s : Solution) (vehicle : Nat) (nodes : List Nat)
    (schedule : Schedule) : Solution where
  trips := s.trips.set vehicle ⟨nodes, schedule, tripCost m nodes⟩
  servedBy := claim vehicle (release vehicle s.servedBy (s.nodes vehicle)) nodes

section Replaced

variable {m : Model} {s : Solution} {vehicle other : Nat} {nodes : List Nat} {schedule : Schedule}

@[simp] theorem length_trips_replaceTrip :
    (s.replaceTrip m vehicle nodes schedule).trips.length = s.trips.length := by
  simp [replaceTrip]

@[simp] theorem length_servedBy_replaceTrip :
    (s.replaceTrip m vehicle nodes schedule).servedBy.length = s.servedBy.length := by
  simp [replaceTrip]

theorem trip_replaceTrip (h : vehicle < s.trips.length) :
    (s.replaceTrip m vehicle nodes schedule).trip vehicle = ⟨nodes, schedule, tripCost m nodes⟩ := by
  simp [replaceTrip, trip, h]

theorem trip_replaceTrip_of_ne (h : vehicle ≠ other) :
    (s.replaceTrip m vehicle nodes schedule).trip other = s.trip other := by
  simp [replaceTrip, trip, List.getD_eq_getElem?_getD, List.getElem?_set_ne h]

end Replaced

/-- Give `vehicle` the trip through `nodes`, if it can run it. -/
def reroute (m : Model) (s : Solution) (vehicle : Nat) (nodes : List Nat) :
    Except Obstacle Solution :=
  if s.trips.length ≤ vehicle then .error .unknownVehicle
  else match Schedule.compute m vehicle nodes with
    | .ok schedule => .ok (s.replaceTrip m vehicle nodes schedule)
    | .error e => .error e

/-- Put `node` on the trip of `vehicle` before the stop at `position`, if the vehicle can run the
longer trip. -/
def insert (m : Model) (s : Solution) (node vehicle position : Nat) : Except Obstacle Solution :=
  if s.trips.length ≤ vehicle then .error .unknownVehicle
  else if (s.nodes vehicle).length < position then .error .positionOutOfRange
  else s.reroute m vehicle (splice (s.nodes vehicle) position [node])

end Solution

end DeliveryRouting
