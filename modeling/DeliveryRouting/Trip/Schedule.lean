import DeliveryRouting.Model.Basic

/-! # Trips: the schedule

A trip leaves the depot at time zero, visits its stops in order and returns. At each stop it takes
up the demand of the stop and arrives when the transit from the stop before is over, or when the
window opens if that is later. The schedule of a trip holds these earliest arrivals. A trip has one
unless its load exceeds the vehicle's capacity, it arrives after a window has closed or the shift
has ended, or it is back only after the end of the shift; the first such obstacle along the way is
named. What is tested is what the integers of the model keep of times and loads. -/

namespace DeliveryRouting

/-- Why a trip cannot be run, or not even be looked at. -/
inductive Obstacle where
  | unknownVehicle
  | unknownNode
  | positionOutOfRange
  | overloaded
  | arrivesLate
  | returnsLate
  deriving Repr, DecidableEq

/-- The obstacle lies in the question: it speaks of something that does not exist. -/
def Obstacle.isBadReference : Obstacle → Bool
  | .unknownVehicle | .unknownNode | .positionOutOfRange => true
  | .overloaded | .arrivesLate | .returnsLate => false

/-- Earliest arrivals at the stops of a trip, the time back at the depot and the load. -/
structure Schedule where
  arrivals : List Int
  finish : Int
  load : Int
  deriving Repr, DecidableEq, Inhabited

namespace Schedule

/-- The schedule of a vehicle that stays at the depot. -/
def empty : Schedule := ⟨[], 0, 0⟩

/-- Earliest arrival at `node` when `last` was reached at `time`. -/
def arrival (m : Model) (last : Nat) (time : Int) (node : Nat) : Int :=
  (m.window node).serviceStart (m.keep (time + m.transit last node))

/-- The schedule of the rest of a trip that reached `last` at `time` with `load` aboard. -/
def walk (m : Model) (capacity : Int) (last : Nat) (time load : Int) :
    List Nat → Except Obstacle Schedule
  | [] =>
    let finish := m.keep (time + m.transit last depot)
    if finish > m.shiftLength then .error .returnsLate else .ok ⟨[], finish, load⟩
  | node :: rest =>
    if m.numNodes ≤ node then .error .unknownNode
    else if m.keep (load + m.demand node) > capacity then .error .overloaded
    else
      let time := arrival m last time node
      if time > (m.window node).closes ∨ time > m.shiftLength then .error .arrivesLate
      else match walk m capacity node time (m.keep (load + m.demand node)) rest with
        | .ok s => .ok { s with arrivals := time :: s.arrivals }
        | .error e => .error e

/-- The schedule of `vehicle` visiting `nodes` in order. -/
def compute (m : Model) (vehicle : Nat) (nodes : List Nat) : Except Obstacle Schedule :=
  if nodes = [] then .ok empty
  else if m.numVehicles ≤ vehicle then .error .unknownVehicle
  else walk m (m.capacity vehicle) depot 0 0 nodes

/-- A vehicle without stops has a schedule, whether it exists or not. -/
@[simp] theorem compute_nil (m : Model) (vehicle : Nat) : compute m vehicle [] = .ok empty :=
  if_pos rfl

theorem length_arrivals_of_walk {m : Model} {capacity time load : Int} {last : Nat}
    {nodes : List Nat} {s : Schedule} (h : walk m capacity last time load nodes = .ok s) :
    s.arrivals.length = nodes.length := by
  induction nodes generalizing last time load s with
  | nil =>
    simp only [walk] at h
    split at h
    · cases h
    · cases h; rfl
  | cons node rest ih =>
    simp only [walk] at h
    split at h <;> try cases h
    split at h <;> try cases h
    split at h <;> try cases h
    split at h
    · next h' => cases h; simp [ih h']
    · cases h

/-- A schedule has one arrival for each stop. -/
theorem length_arrivals {m : Model} {vehicle : Nat} {nodes : List Nat} {s : Schedule}
    (h : compute m vehicle nodes = .ok s) : s.arrivals.length = nodes.length := by
  unfold compute at h
  split at h
  · next hn => cases h; simp [hn, empty]
  · split at h
    · cases h
    · exact length_arrivals_of_walk h

end Schedule

/-- Arcs along a walk from `last` through `nodes` back to the depot. -/
def arcsFrom (last : Nat) : List Nat → List (Nat × Nat)
  | [] => [(last, depot)]
  | node :: rest => (last, node) :: arcsFrom node rest

@[simp] theorem length_arcsFrom (last : Nat) (nodes : List Nat) :
    (arcsFrom last nodes).length = nodes.length + 1 := by
  induction nodes generalizing last with
  | nil => rfl
  | cons node rest ih => simp [arcsFrom, ih]

/-- The arcs of a trip, both depot legs among them; a trip without stops has none. -/
def tripArcs (nodes : List Nat) : List (Nat × Nat) :=
  if nodes = [] then [] else arcsFrom depot nodes

/-- The transit along a trip. -/
def tripCost (m : Model) (nodes : List Nat) : Int :=
  m.keep ((tripArcs nodes).map fun (i, j) => m.transit i j).sum

@[simp] theorem tripCost_nil (m : Model) : tripCost m [] = 0 := m.width.keep_zero

/-- The matrix holds a duration for every arc of the trip. -/
def tripKnown (m : Model) (nodes : List Nat) : Bool :=
  (tripArcs nodes).all fun (i, j) => m.hasArc i j

end DeliveryRouting
