import DeliveryRouting.Proofs.Trip.Consistency
import DeliveryRouting.Proofs.Trip.Sums
import Mathlib.Algebra.Order.Group.Int
import Mathlib.Data.List.Perm.Subperm

/-! # Room for all sums

That integers wrap around does not matter as long as they have room for what is added up. How much
room is needed can be told in advance (`Model.Roomy`): for one time, for one load of each vehicle,
and for the costs of all trips and deliveries together. What is tested on the way is bounded however
long a trip is, and a trip that stops nowhere twice has a bounded number of negative numbers to add
up. With integers that have no bound there is room for everything (`Model.roomy_of_unbounded`).

Where there is room, the schedules of such trips are those in integers without a bound
(`Model.Roomy.compute_eq_exact`), a trip with a schedule costs the time along it
(`Model.Roomy.tripCost_eq_transitFrom`), and the objective of a consistent solution is the sum of all
its costs (`Solution.Consistent.totalCost_eq_fullCost`). -/

namespace DeliveryRouting

/-! ### The room that is needed -/

namespace Model

variable {m : Model} {vehicle : Nat} {nodes : List Nat} {s : Schedule}

/-- What a trip costs at most, or takes off the costs. -/
def tripBound (m : Model) : Int := max m.shiftLength 0 + m.rebate * m.numNodes

/-- The costs of all trips and the penalties of all deliveries. -/
def costBound (m : Model) : Int :=
  m.numVehicles * m.tripBound + (m.deliveries.map m.dropPenalty).sum

/-- **The integers of the model have room** for the times and the loads of all trips that stop
nowhere twice, and for the costs of all solutions. -/
structure Roomy (m : Model) : Prop where
  time : m.Holds (m.timeBound + m.rebate * m.numNodes)
  load : ∀ vehicle < m.numVehicles, m.Holds (m.loadBound vehicle + m.relief m.deliveries)
  cost : m.Holds m.costBound

instance (m : Model) : Decidable m.Roomy :=
  decidable_of_iff (m.Holds (m.timeBound + m.rebate * m.numNodes) ∧
    (∀ vehicle < m.numVehicles, m.Holds (m.loadBound vehicle + m.relief m.deliveries)) ∧
      m.Holds m.costBound)
    ⟨fun ⟨time, load, cost⟩ => ⟨time, load, cost⟩, fun h => ⟨h.time, h.load, h.cost⟩⟩

theorem roomy_of_unbounded (h : m.width = .unbounded) : m.Roomy := by
  have all (n : Int) : m.Holds n := by
    rw [Holds, h]
    exact Width.holds_unbounded n
  exact ⟨all _, fun _ _ => all _, all _⟩

theorem dropPenalty_nonneg (m : Model) (node : Nat) : 0 ≤ m.dropPenalty node := by
  unfold dropPenalty Priority.dropPenalty
  split <;> decide

theorem nonneg_of_mem_penalties (m : Model) (nodes : List Nat) :
    ∀ penalty ∈ nodes.map m.dropPenalty, 0 ≤ penalty :=
  List.forall_mem_map.mpr fun node _ => m.dropPenalty_nonneg node

theorem sum_penalties_nonneg (m : Model) (nodes : List Nat) : 0 ≤ (nodes.map m.dropPenalty).sum :=
  List.sum_nonneg (m.nonneg_of_mem_penalties nodes)

theorem dropPenalty_le_sum {node : Nat} (delivery : node ∈ m.deliveries) :
    m.dropPenalty node ≤ (m.deliveries.map m.dropPenalty).sum :=
  List.single_le_sum (m.nonneg_of_mem_penalties m.deliveries) _ (List.mem_map_of_mem delivery)

/-- What all deliveries take off, if serving them takes a negative time. -/
theorem rebate_mul_numNodes_nonneg (m : Model) : 0 ≤ m.rebate * m.numNodes :=
  Int.mul_nonneg m.rebate_nonneg (Int.natCast_nonneg m.numNodes)

theorem tripBound_nonneg (m : Model) : 0 ≤ m.tripBound :=
  Int.add_nonneg (Int.le_max_right _ _) m.rebate_mul_numNodes_nonneg

theorem Roomy.holds_time {n : Int} (room : m.Roomy) (low : -(m.rebate * m.numNodes) ≤ n)
    (high : n ≤ m.timeBound) : m.Holds n := by
  have ahead := m.shiftLength_le_timeBound
  have off := m.rebate_mul_numNodes_nonneg
  exact room.time.within (by omega) (by omega)

/-! ### Trips that stop nowhere twice -/

section Distinct

variable (deliveries : ∀ node ∈ nodes, node ∈ m.deliveries) (nodup : nodes.Nodup)
include deliveries nodup

theorem length_le_numNodes : nodes.length ≤ m.numNodes := by
  have fewer := (nodup.subperm deliveries).length_le
  rw [Model.deliveries, List.tail_range, List.length_range'] at fewer
  omega

theorem rebate_mul_length_le : m.rebate * nodes.length ≤ m.rebate * m.numNodes :=
  Int.mul_le_mul_of_nonneg_left (Int.ofNat_le.mpr (length_le_numNodes deliveries nodup))
    m.rebate_nonneg

theorem relief_le : m.relief nodes ≤ m.relief m.deliveries := by
  obtain ⟨same, perm, fewer⟩ := nodup.subperm deliveries
  have equal : m.relief same = m.relief nodes := (perm.map _).sum_eq
  rw [← equal]
  refine (fewer.map _).sum_le_sum fun n hn => ?_
  obtain ⟨node, -, rfl⟩ := List.mem_map.mp hn
  exact Int.le_max_right _ _

variable (room : m.Roomy) (forward : ∀ i j, 0 ≤ m.travel.duration i j)
include room forward

/-- **Where there is room, schedules are those in integers without a bound.** -/
theorem Roomy.compute_eq_exact :
    Schedule.compute m vehicle nodes = Schedule.compute m.exact vehicle nodes := by
  by_cases none : nodes = []
  · rw [none, Schedule.compute_nil, Schedule.compute_nil]
  have some : 1 ≤ nodes.length := List.length_pos_iff.mpr none
  have least := rebate_mul_length_le deliveries nodup
  have lightest := relief_le deliveries nodup
  refine Schedule.compute_eq_exact_of_within forward ?single (fun n => room.holds_time) ?loads
    deliveries least lightest
  case single =>
    have once : m.rebate * 1 ≤ m.rebate * nodes.length :=
      Int.mul_le_mul_of_nonneg_left (by omega) m.rebate_nonneg
    omega
  case loads =>
    intro here n low high
    have lighter := m.relief_nonneg m.deliveries
    have holds := m.loadBound_nonneg vehicle
    exact (room.load vehicle here).within (by omega) (by omega)

section Runs

variable (runs : Schedule.compute m vehicle nodes = .ok s)
include runs

theorem Roomy.transitFrom_bounds : -(m.rebate * m.numNodes) ≤ transitFrom m depot nodes ∧
    transitFrom m depot nodes ≤ max m.shiftLength 0 := by
  have least := rebate_mul_length_le deliveries nodup
  have takes := neg_le_transitFrom forward depot nodes
  refine ⟨by omega, ?_⟩
  by_cases none : nodes = []
  · rw [none, transitFrom_nil, leg_self, serviceAt_depot]
    exact Int.le_max_right _ _
  · rw [room.compute_eq_exact deliveries nodup forward] at runs
    exact Int.le_trans (Schedule.transitFrom_le_shiftLength runs none) (Int.le_max_left _ _)

/-- **Where there is room, a trip with a schedule costs the time along it.** -/
theorem Roomy.tripCost_eq_transitFrom : tripCost m nodes = transitFrom m depot nodes := by
  obtain ⟨low, high⟩ := room.transitFrom_bounds deliveries nodup forward runs
  rw [tripCost_eq_keep]
  exact room.holds_time low (Int.le_trans high m.shiftLength_le_timeBound)

end Runs

end Distinct

end Model

/-! ### Solutions -/

namespace Solution

/-- All costs added up, with nothing lost. -/
def fullCost (m : Model) (s : Solution) : Int :=
  (s.trips.map Trip.cost).sum + (s.dropped.map m.dropPenalty).sum

theorem totalCost_eq_keep (m : Model) (s : Solution) : s.totalCost m = m.keep (s.fullCost m) := by
  simp only [totalCost, transportCost, dropPenalties, Model.keep, Width.keep_keep_add,
    Width.keep_add_keep, fullCost]

namespace Consistent

variable {m : Model} {s : Solution} (hs : s.Consistent m) (room : m.Roomy)
  (forward : ∀ i j, 0 ≤ m.travel.duration i j)
include hs room forward

theorem compute_exact (vehicle : Nat) :
    Schedule.compute m.exact vehicle (s.nodes vehicle) = .ok (s.trip vehicle).schedule := by
  rw [← hs.compute_nodes vehicle, room.compute_eq_exact (fun _ => hs.mem_deliveries_of_mem_nodes)
    (hs.nodup_nodes vehicle) forward]

theorem cost_eq_transitFrom (vehicle : Nat) :
    (s.trip vehicle).cost = transitFrom m depot (s.nodes vehicle) := by
  rw [hs.cost_trip, room.tripCost_eq_transitFrom (fun _ => hs.mem_deliveries_of_mem_nodes)
    (hs.nodup_nodes vehicle) forward (hs.compute_nodes vehicle)]

theorem cost_bounds (vehicle : Nat) : -(m.rebate * m.numNodes) ≤ (s.trip vehicle).cost ∧
    (s.trip vehicle).cost ≤ max m.shiftLength 0 := by
  rw [hs.cost_eq_transitFrom room forward]
  exact room.transitFrom_bounds (fun _ => hs.mem_deliveries_of_mem_nodes)
    (hs.nodup_nodes vehicle) forward (hs.compute_nodes vehicle)

theorem fullCost_bounds : -m.costBound ≤ s.fullCost m ∧ s.fullCost m ≤ m.costBound := by
  have each : ∀ cost ∈ s.trips.map Trip.cost, -m.tripBound ≤ cost ∧ cost ≤ m.tripBound := by
    intro cost hcost
    obtain ⟨trip, htrip, rfl⟩ := List.mem_map.mp hcost
    rw [← map_trip_vehicles s] at htrip
    obtain ⟨vehicle, -, rfl⟩ := List.mem_map.mp htrip
    have bounds := hs.cost_bounds room forward vehicle
    have off := m.rebate_mul_numNodes_nonneg
    unfold Model.tripBound
    omega
  have low := List.card_nsmul_le_sum _ _ fun cost hcost => (each cost hcost).1
  have high := List.sum_le_card_nsmul _ _ fun cost hcost => (each cost hcost).2
  rw [List.length_map, hs.length_trips, Int.nsmul_eq_mul, Int.mul_neg] at low
  rw [List.length_map, hs.length_trips, Int.nsmul_eq_mul] at high
  have penalties := m.sum_penalties_nonneg s.dropped
  have all : (s.dropped.map m.dropPenalty).sum ≤ (m.deliveries.map m.dropPenalty).sum := by
    rw [hs.dropped_eq]
    exact (List.filter_sublist.map _).sum_le_sum (m.nonneg_of_mem_penalties m.deliveries)
  unfold fullCost Model.costBound
  constructor
  · refine Int.le_trans ?_ (Int.add_le_add low penalties)
    have more := m.sum_penalties_nonneg m.deliveries
    omega
  · exact Int.add_le_add high all

/-- **Where there is room, the objective is the sum of all costs.** -/
theorem totalCost_eq_fullCost : s.totalCost m = s.fullCost m := by
  obtain ⟨low, high⟩ := hs.fullCost_bounds room forward
  rw [totalCost_eq_keep]
  exact room.cost.within low high

end Consistent

end Solution

end DeliveryRouting
