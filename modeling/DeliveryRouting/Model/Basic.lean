import DeliveryRouting.Arithmetic
import DeliveryRouting.Arithmetic.Width
import DeliveryRouting.Model.Matrix
import DeliveryRouting.Model.Priority
import DeliveryRouting.Model.Window

/-! # Model: the routing problem

Trips start and end at node 0, the depot; all other nodes are deliveries. Entering a node takes the
travel duration and, at a delivery, the time of service. The same quantity, the transit, is what a
trip costs and what moves its clock. It is kept in the integers of the model, as all sums are.

A `Problem` is the data as it arrives; `Model.build` accepts it when all its lists fit together. A
driver who may run several trips has as many vehicles, one after the other. -/

namespace DeliveryRouting

/-- The node where every trip starts and ends. -/
def depot : Nat := 0

/-- Service time in seconds, unless something else is asked for. -/
def defaultService : Int := 120

/-- Trips of a driver, unless something else is asked for. -/
def defaultTrips : Nat := 1

/-- A routing problem as it arrives. The lists run over the nodes, those of capacities over the
drivers; the window of the depot closes at the end of the shift. -/
structure Problem where
  durations : List (List Int) := []
  demands : List Int := []
  windows : List Window := []
  drivers : Nat := 1
  /-- the capacity of every driver, unless there is a list -/
  capacity : Int := 0
  capacities : Option (List Int) := none
  priorities : Option (List Int) := none
  deriving Repr, DecidableEq, Inhabited

/-- What is known of a node. -/
structure Site where
  demand : Int
  window : Window
  priority : Int
  deriving Repr, DecidableEq, Inhabited

/-- One trip of one driver. -/
structure Vehicle where
  driver : Nat
  slot : Nat
  capacity : Int
  deriving Repr, DecidableEq, Inhabited

/-- A routing problem whose parts fit together. -/
structure Model where
  travel : TravelMatrix
  sites : Array Site
  vehicles : Array Vehicle
  shiftLength : Int
  service : Int
  /-- the integers that sums are kept in -/
  width : Width := .word
  deriving Repr, DecidableEq, Inhabited

namespace Problem

/-- The length of the shift: the end of the depot's window. -/
def shiftLength (p : Problem) : Int := (p.windows.head?.map Window.closes).getD 0

/-- The capacities of the drivers. -/
def driverCapacities (p : Problem) : List Int :=
  p.capacities.getD (List.replicate p.drivers p.capacity)

/-- The first list whose length does not fit `n` nodes or the drivers, in the order demands,
windows, capacities, priorities. -/
def lengthFault? (p : Problem) (n : Nat) : Option ModelFault :=
  if p.demands.length ≠ n then some (.demandsLength n p.demands.length)
  else if p.windows.length ≠ n then some (.windowsLength n p.windows.length)
  else if p.driverCapacities.length ≠ p.drivers then
    some (.capacitiesLength p.drivers p.driverCapacities.length)
  else match p.priorities with
    | some priorities =>
      if priorities.length ≠ n then some (.prioritiesLength n priorities.length) else none
    | none => none

/-- What is known of node `i`. The depot is open for the whole shift. -/
def site (p : Problem) (i : Nat) : Site where
  demand := p.demands.getD i 0
  window := if i = depot then Window.shift p.shiftLength else p.windows.getD i default
  priority := match p.priorities with
    | some priorities => priorities.getD i Priority.ordinary
    | none => Priority.ordinary

/-- The vehicles, those of a driver one after the other. -/
def vehicles (p : Problem) (trips : Nat) : List Vehicle :=
  p.driverCapacities.zipIdx.flatMap fun (capacity, driver) =>
    (List.range trips).map fun slot => ⟨driver, slot, capacity⟩

end Problem

namespace Model

/-- The model of a problem in which a driver runs at most `trips` trips, at least one, and serving
a delivery takes `service`. -/
def build (p : Problem) (trips : Nat) (service : Int) (width : Width := .word) :
    Except ModelFault Model := do
  let travel ← TravelMatrix.ofRows p.durations
  match p.lengthFault? travel.nodes with
  | some fault => .error fault
  | none => .ok {
      travel
      sites := ((List.range travel.nodes).map p.site).toArray
      vehicles := (p.vehicles (max trips 1)).toArray
      shiftLength := p.shiftLength
      service
      width }

variable (m : Model)

/-- Number of nodes, the depot among them. -/
def numNodes : Nat := m.sites.size

/-- Number of vehicles. -/
def numVehicles : Nat := m.vehicles.size

/-- Every node except the depot. -/
def deliveries : List Nat := (List.range m.numNodes).tail

/-- What is known of a node. -/
def site (node : Nat) : Site := m.sites.getD node default

/-- Load taken up when entering a node. -/
def demand (node : Nat) : Int := (m.site node).demand

/-- The window of a node. -/
def window (node : Nat) : Window := (m.site node).window

/-- Cost of leaving a node out. -/
def dropPenalty (node : Nat) : Int := Priority.dropPenalty (m.site node).priority

/-- The capacity of a vehicle. -/
def capacity (vehicle : Nat) : Int := (m.vehicles.getD vehicle default).capacity

/-- Time spent at a node before leaving it. -/
def serviceAt (node : Nat) : Int := if node = depot then 0 else m.service

/-- What is kept of a sum. -/
def keep (n : Int) : Int := m.width.keep n

/-- The time it takes to go from `i` to `j` and serve it. -/
def leg (i j : Nat) : Int := m.travel.duration i j + m.serviceAt j

/-- Time and cost of going from `i` to `j` and serving it, as far as they are kept. -/
def transit (i j : Nat) : Int := m.keep (m.leg i j)

/-- The matrix holds a duration from `i` to `j`. -/
def hasArc (i j : Nat) : Bool := (m.travel.duration? i j).isSome

theorem mem_deliveries {node : Nat} : node ∈ m.deliveries ↔ node ≠ depot ∧ node < m.numNodes := by
  simp only [deliveries, depot, List.tail_range, List.mem_range']
  constructor
  · rintro ⟨i, hi, rfl⟩; omega
  · intro h; exact ⟨node - 1, by omega, by omega⟩

@[simp] theorem serviceAt_depot : m.serviceAt depot = 0 := if_pos rfl

@[simp] theorem leg_self (i : Nat) : m.leg i i = m.serviceAt i := by simp [leg]

end Model

end DeliveryRouting
