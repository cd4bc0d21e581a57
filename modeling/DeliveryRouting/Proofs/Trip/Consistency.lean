import DeliveryRouting.Proofs.Trip.Timing
import DeliveryRouting.Trip.Solution
import Mathlib.Data.List.GetD
import Mathlib.Data.List.Nodup

/-! # Consistent solutions

Beside the stops of its trips a solution keeps three things that could be computed from them: the
schedule and the cost of each trip, and for each node the vehicle that serves it. In a *consistent*
solution all three are right, no delivery is served twice, and nobody stops at the depot.

* `nodup_flatMap_nodes`: the stops of different vehicles are all different.
* `dropped_eq`: the dropped deliveries are those on no trip.
* `totalCost_eq`: the objective is the one that the stops alone determine.
* `eq_of_nodes`: so is all the rest.
* `vehicleOf_replaceTrip`: what a new trip does to the vehicles of the nodes. -/

namespace DeliveryRouting

attribute [ext] Trip Solution

/-- The objective that the stops of all trips determine: the transit along the trips and the
penalties of the deliveries on none of them. -/
def objective (m : Model) (trips : List (List Nat)) : Int :=
  m.keep ((trips.map (tripCost m)).sum +
    ((m.deliveries.filter fun node => ∀ nodes ∈ trips, node ∉ nodes).map m.dropPenalty).sum)

namespace Solution

/-- The stops of all trips, vehicle by vehicle. -/
def stops (s : Solution) : List Nat := s.trips.flatMap Trip.nodes

/-- **The representation invariant**: what a solution keeps beside the stops agrees with them. -/
structure Consistent (m : Model) (s : Solution) : Prop where
  length_trips : s.trips.length = m.numVehicles
  length_servedBy : s.servedBy.length = m.numNodes
  compute_nodes : ∀ v, Schedule.compute m v (s.nodes v) = .ok (s.trip v).schedule
  cost_trip : ∀ v, (s.trip v).cost = tripCost m (s.nodes v)
  nodup_nodes : ∀ v, (s.nodes v).Nodup
  depot_notMem : ∀ v, depot ∉ s.nodes v
  vehicleOf_eq_some_iff : ∀ node v, s.vehicleOf node = some v ↔ node ∈ s.nodes v

variable {m : Model} {s : Solution} {vehicle other node : Nat} {nodes : List Nat}
  {servedBy : List (Option Nat)} {schedule : Schedule}

/-! ### Trips by their vehicles -/

theorem trip_of_le (h : s.trips.length ≤ vehicle) : s.trip vehicle = Trip.empty :=
  List.getD_eq_default _ _ h

theorem lt_length_of_mem_nodes (h : node ∈ s.nodes vehicle) : vehicle < s.trips.length := by
  by_contra hle
  rw [nodes, trip_of_le (not_lt.mp hle)] at h
  simp [Trip.empty] at h

theorem map_trip_vehicles (s : Solution) : s.vehicles.map s.trip = s.trips := by
  refine List.ext_getElem (by simp [vehicles]) fun v hv hv' => ?_
  simp [vehicles, trip, hv']

theorem stops_eq_flatMap_vehicles (s : Solution) : s.stops = s.vehicles.flatMap s.nodes := by
  rw [stops, ← map_trip_vehicles s, List.flatMap_map]
  rfl

theorem mem_stops : node ∈ s.stops ↔ ∃ v, node ∈ s.nodes v := by
  rw [stops_eq_flatMap_vehicles, List.mem_flatMap]
  constructor
  · rintro ⟨v, -, h⟩; exact ⟨v, h⟩
  · rintro ⟨v, h⟩; exact ⟨v, List.mem_range.mpr (lt_length_of_mem_nodes h), h⟩

theorem mem_usedVehicles : vehicle ∈ s.usedVehicles ↔ s.nodes vehicle ≠ [] := by
  simp only [usedVehicles, List.mem_filter, vehicles, List.mem_range, Trip.isEmpty, nodes,
    Bool.not_eq_true', List.isEmpty_eq_false_iff, and_iff_right_iff_imp]
  intro h
  obtain ⟨node, hnode⟩ := List.exists_mem_of_ne_nil _ h
  exact lt_length_of_mem_nodes hnode

/-! ### The vehicles of the nodes -/

theorem getD_set (x : Nat) (o : Option Nat) : (servedBy.set x o).getD node none =
    if x = node ∧ node < servedBy.length then o else servedBy.getD node none := by
  simp only [List.getD_eq_getElem?_getD, List.getElem?_set]
  by_cases h : x = node
  · subst h
    by_cases hx : x < servedBy.length <;> simp [hx]
  · simp [h]

theorem getD_release : (release vehicle servedBy nodes).getD node none =
    if node ∈ nodes ∧ servedBy.getD node none = some vehicle then none
    else servedBy.getD node none := by
  induction nodes generalizing servedBy with
  | nil => simp [release]
  | cons x nodes ih =>
    have step : release vehicle servedBy (x :: nodes) = release vehicle
      (if servedBy.getD x none = some vehicle then servedBy.set x none else servedBy) nodes := rfl
    rw [step, ih]
    split
    · next h => rw [getD_set]; grind
    · next h => grind

theorem getD_claim : (claim vehicle servedBy nodes).getD node none =
    if node ∈ nodes ∧ node < servedBy.length then some vehicle else servedBy.getD node none := by
  induction nodes generalizing servedBy with
  | nil => simp [claim]
  | cons x nodes ih =>
    have step : claim vehicle servedBy (x :: nodes) =
      claim vehicle (servedBy.set x (some vehicle)) nodes := rfl
    rw [step, ih, getD_set, List.length_set]
    grind

/-- The vehicles of the nodes after a vehicle has got another trip. Its own nodes have to be known
as such, which is all that is asked of a solution in the middle of a move. -/
theorem vehicleOf_replaceTrip (own : ∀ node, s.vehicleOf node = some vehicle → node ∈ s.nodes vehicle)
    (known : ∀ node ∈ nodes, node < s.servedBy.length) :
    (s.replaceTrip m vehicle nodes schedule).vehicleOf node = some other ↔
      other = vehicle ∧ node ∈ nodes ∨
        other ≠ vehicle ∧ node ∉ nodes ∧ s.vehicleOf node = some other := by
  have hown := own node
  have hknown := known node
  simp only [vehicleOf, replaceTrip] at hown ⊢
  rw [getD_claim, length_release, getD_release]
  grind

/-! ### Consequences -/

theorem pairwise_dropped (s : Solution) : s.dropped.Pairwise (· < ·) :=
  List.pairwise_lt_range.filter _

namespace Consistent

variable (hs : s.Consistent m)
include hs

theorem lt_numNodes_of_mem (h : node ∈ s.nodes vehicle) : node < m.numNodes :=
  Schedule.lt_numNodes_of_compute (hs.compute_nodes vehicle) node h

theorem load_trip (vehicle : Nat) :
    (s.trip vehicle).load = m.keep ((s.nodes vehicle).map m.demand).sum :=
  Schedule.load_of_compute (hs.compute_nodes vehicle)

theorem eq_of_mem_nodes (h : node ∈ s.nodes vehicle) (h' : node ∈ s.nodes other) :
    vehicle = other := by
  have hv := (hs.vehicleOf_eq_some_iff node vehicle).mpr h
  have ho := (hs.vehicleOf_eq_some_iff node other).mpr h'
  exact Option.some.inj (hv.symm.trans ho)

theorem notMem_nodes_of_ne (apart : vehicle ≠ other) (h : node ∈ s.nodes vehicle) :
    node ∉ s.nodes other :=
  fun h' => apart (hs.eq_of_mem_nodes h h')

/-- **The stops of different vehicles are all different.** -/
theorem nodup_flatMap_nodes {vs : List Nat} (hvs : vs.Nodup) : (vs.flatMap s.nodes).Nodup := by
  refine List.nodup_flatMap.mpr ⟨fun v _ => hs.nodup_nodes v, ?_⟩
  refine hvs.imp fun {v w} hne node hv hw => hne ?_
  exact hs.eq_of_mem_nodes hv hw

theorem nodup_stops : s.stops.Nodup := by
  rw [stops_eq_flatMap_vehicles]
  exact hs.nodup_flatMap_nodes List.nodup_range

theorem depot_notMem_flatMap (vs : List Nat) : depot ∉ vs.flatMap s.nodes := by
  rw [List.mem_flatMap]
  rintro ⟨v, -, h⟩
  exact hs.depot_notMem v h

theorem mem_deliveries_of_mem_nodes (h : node ∈ s.nodes vehicle) : node ∈ m.deliveries := by
  refine m.mem_deliveries.mpr ⟨fun hd => ?_, hs.lt_numNodes_of_mem h⟩
  exact hs.depot_notMem vehicle (hd ▸ h)

theorem mem_deliveries_of_mem_stops (h : node ∈ s.stops) : node ∈ m.deliveries := by
  obtain ⟨v, hv⟩ := mem_stops.mp h
  exact hs.mem_deliveries_of_mem_nodes hv

theorem mem_dropped_iff : node ∈ s.dropped ↔ node ∈ m.deliveries ∧ node ∉ s.stops := by
  rw [mem_dropped, hs.length_servedBy, m.mem_deliveries, mem_stops]
  have unserved : s.vehicleOf node = none ↔ ¬ ∃ v, node ∈ s.nodes v := by
    simp only [← hs.vehicleOf_eq_some_iff, Option.eq_none_iff_forall_ne_some, not_exists, ne_eq]
  rw [unserved]
  tauto

theorem mem_deliveries_of_mem_dropped (h : node ∈ s.dropped) : node ∈ m.deliveries :=
  (hs.mem_dropped_iff.mp h).1

theorem notMem_nodes_of_mem_dropped (h : node ∈ s.dropped) (vehicle : Nat) :
    node ∉ s.nodes vehicle :=
  fun h' => (hs.mem_dropped_iff.mp h).2 (mem_stops.mpr ⟨vehicle, h'⟩)

theorem dropped_eq :
    s.dropped = m.deliveries.filter fun node => node ∉ s.stops := by
  have ascending : (m.deliveries.filter fun node => node ∉ s.stops).Pairwise (· < ·) := by
    refine List.Pairwise.filter _ ?_
    rw [Model.deliveries, List.tail_range]
    exact List.pairwise_lt_range'
  have asymm : ∀ a b : Nat, a < b → b < a → a = b := fun a b hab hba => absurd hab (lt_asymm hba)
  refine List.Perm.eq_of_pairwise (fun a b _ _ => asymm a b) (pairwise_dropped s) ascending ?_
  refine (List.perm_ext_iff_of_nodup ((pairwise_dropped s).imp ne_of_lt)
    (ascending.imp ne_of_lt)).mpr fun node => ?_
  rw [hs.mem_dropped_iff, List.mem_filter]
  simp

theorem map_cost_trips : s.trips.map Trip.cost = (s.trips.map Trip.nodes).map (tripCost m) := by
  rw [List.map_map, ← map_trip_vehicles s, List.map_map, List.map_map]
  exact List.map_congr_left fun v _ => hs.cost_trip v

/-- **The objective is the one that the stops alone determine.** -/
theorem totalCost_eq : s.totalCost m = objective m (s.trips.map Trip.nodes) := by
  have served : ∀ node, (∀ nodes ∈ s.trips.map Trip.nodes, node ∉ nodes) ↔ node ∉ s.stops := by
    simp [stops]
  rw [totalCost, dropPenalties, transportCost, hs.map_cost_trips, hs.dropped_eq, objective]
  simp only [served, Model.keep, Width.keep_keep_add, Width.keep_add_keep]

/-- **A consistent solution is determined by the stops of its trips.** -/
theorem eq_of_nodes {t : Solution} (ht : t.Consistent m) (same : ∀ v, s.nodes v = t.nodes v) :
    s = t := by
  have trips : ∀ v, s.trip v = t.trip v := by
    intro v
    have schedules := (same v ▸ hs.compute_nodes v).symm.trans (ht.compute_nodes v)
    have costs := (hs.cost_trip v).trans (same v ▸ (ht.cost_trip v).symm)
    exact Trip.ext (same v) (Except.ok.inj schedules) costs
  have served : ∀ node, s.vehicleOf node = t.vehicleOf node := by
    intro node
    ext v
    rw [hs.vehicleOf_eq_some_iff, ht.vehicleOf_eq_some_iff, same]
  have length : s.servedBy.length = t.servedBy.length := by
    rw [hs.length_servedBy, ht.length_servedBy]
  refine Solution.ext ?_ (List.ext_getElem length fun node h h' => ?_)
  · rw [← map_trip_vehicles s, ← map_trip_vehicles t, vehicles, vehicles, hs.length_trips,
      ht.length_trips]
    exact List.map_congr_left fun v _ => trips v
  · have entry := served node
    rwa [vehicleOf, vehicleOf, List.getD_eq_getElem _ _ h, List.getD_eq_getElem _ _ h'] at entry

end Consistent

theorem consistent_empty (m : Model) : (empty m).Consistent m := by
  have htrip : ∀ v, (empty m).trip v = Trip.empty := by
    intro v
    by_cases hv : v < m.numVehicles <;> simp [trip, empty, List.getD_eq_getElem?_getD, hv]
  have hnodes : ∀ v, (empty m).nodes v = [] := fun v => by rw [nodes, htrip]; rfl
  have hvehicle : ∀ node, (empty m).vehicleOf node = none := by
    intro node
    by_cases hn : node < m.numNodes <;>
      simp [vehicleOf, empty, List.getD_eq_getElem?_getD, hn]
  refine ⟨by simp [empty], by simp [empty], fun v => ?_, fun v => ?_, fun v => ?_, fun v => ?_,
    fun node v => ?_⟩
  · rw [hnodes, htrip]; exact Schedule.compute_nil m v
  · rw [hnodes, htrip]; exact (tripCost_nil m).symm
  · rw [hnodes]; exact List.nodup_nil
  · rw [hnodes]; exact List.not_mem_nil
  · rw [hnodes, hvehicle]; simp

end Solution

end DeliveryRouting
