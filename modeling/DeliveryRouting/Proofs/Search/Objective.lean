import DeliveryRouting.Proofs.Search.Conservation
import DeliveryRouting.Proofs.Search.Partition
import DeliveryRouting.Proofs.Trip.Room
import Mathlib.Algebra.BigOperators.Group.List.Basic

/-! # The objective

A delivery pays its penalty unless it is served, so the penalties of the stops and those of the
dropped deliveries are together those of all deliveries (`sum_penalties`). A new trip exchanges
the stops and the cost of the old one for its own (`stops_replaceTrip_perm`,
`sum_costs_replaceTrip`). An insertion therefore changes the costs by what its trip gets longer by,
less the penalty it saves (`fullCost_insert`). Without trips the costs are the penalties of all
deliveries (`fullCost_empty`).

What an outcome costs can be told without the model, by the numbers of the problem
(`Outcome.objective`). The solution that it stands for costs what is kept of that
(`keep_objective_ofSolution`), and just that where there is room (`objective_ofSolution`). -/

namespace DeliveryRouting

namespace Solution

variable {m : Model} {s s' : Solution} {node vehicle position : Nat} {nodes : List Nat}
  {schedule : Schedule} {i : Insertion}

/-! ### A new trip -/

theorem trips_replaceTrip_perm (hv : vehicle < s.trips.length) :
    (s.trip vehicle :: (s.replaceTrip m vehicle nodes schedule).trips).Perm
      (⟨nodes, schedule, tripCost m nodes⟩ :: s.trips) := by
  have old : s.trip vehicle = s.trips[vehicle] := List.getD_eq_getElem _ _ hv
  rw [old]
  exact cons_set_perm hv _

theorem sum_costs_replaceTrip (hv : vehicle < s.trips.length) :
    (s.trip vehicle).cost + ((s.replaceTrip m vehicle nodes schedule).trips.map Trip.cost).sum =
      tripCost m nodes + (s.trips.map Trip.cost).sum := by
  have same : ((s.trip vehicle :: (s.replaceTrip m vehicle nodes schedule).trips).map
      Trip.cost).sum = _ := ((trips_replaceTrip_perm hv).map Trip.cost).sum_eq
  rwa [List.map_cons, List.sum_cons, List.map_cons, List.sum_cons] at same

theorem stops_replaceTrip_perm (hv : vehicle < s.trips.length) :
    (s.nodes vehicle ++ (s.replaceTrip m vehicle nodes schedule).stops).Perm
      (nodes ++ s.stops) :=
  (trips_replaceTrip_perm hv).flatMap_right Trip.nodes

/-! ### Insertions -/

theorem Consistent.sum_penalties (hs : s.Consistent m) :
    (s.stops.map m.dropPenalty).sum + (s.dropped.map m.dropPenalty).sum =
      (m.deliveries.map m.dropPenalty).sum := by
  rw [← (hs.perm_deliveries.map m.dropPenalty).sum_eq, List.map_append, List.sum_append]

theorem stops_insert_perm (h : s.insert m node vehicle position = .ok s') :
    s'.stops.Perm (node :: s.stops) := by
  obtain ⟨hv, -, schedule, -, rfl⟩ := insert_eq_ok_iff.mp h
  refine (List.perm_append_left_iff (s.nodes vehicle)).mp ?_
  refine (stops_replaceTrip_perm hv).trans ?_
  calc (splice (s.nodes vehicle) position [node] ++ s.stops).Perm
        (node :: s.nodes vehicle ++ s.stops) := splice_perm.append_right _
    _ |>.Perm (s.nodes vehicle ++ node :: s.stops) := List.perm_middle.symm

/-- **An insertion changes the costs by what its trip gets longer by, less the penalty it saves.** -/
theorem Consistent.fullCost_insert (hs : s.Consistent m) (free : node ∈ s.dropped)
    (h : s.insert m node vehicle position = .ok s') :
    s'.fullCost m = s.fullCost m + (tripCost m (splice (s.nodes vehicle) position [node]) -
      (s.trip vehicle).cost) - m.dropPenalty node := by
  have hs' : s'.Consistent m := tryInsert_of_insert h ▸ hs.tryInsert free
  have penalties := ((stops_insert_perm h).map m.dropPenalty).sum_eq
  rw [List.map_cons, List.sum_cons] at penalties
  have before := hs.sum_penalties
  have after := hs'.sum_penalties
  obtain ⟨hv, -, schedule, -, rfl⟩ := insert_eq_ok_iff.mp h
  set longer := splice (s.nodes vehicle) position [node]
  have transit : _ + ((s.replaceTrip m vehicle longer schedule).trips.map Trip.cost).sum = _ :=
    sum_costs_replaceTrip hv
  rw [fullCost, fullCost]
  omega

theorem sum_costs (s : Solution) :
    (s.trips.map Trip.cost).sum = (s.vehicles.map fun v => (s.trip v).cost).sum := by
  rw [← map_trip_vehicles s, List.map_map]
  rfl

theorem fullCost_empty (m : Model) :
    (empty m).fullCost m = (m.deliveries.map m.dropPenalty).sum := by
  have noStops : (empty m).stops = [] := by simp [stops, empty, Trip.empty]
  have noCosts : ((empty m).trips.map Trip.cost).sum = 0 := by simp [empty, Trip.empty]
  have all := (consistent_empty m).sum_penalties
  rw [noStops, List.map_nil, List.sum_nil, Int.zero_add] at all
  rw [fullCost, noCosts, all, Int.zero_add]

end Solution

/-! ### What an outcome costs -/

namespace Problem

/-- Cost of leaving a delivery out. -/
def dropPenalty (p : Problem) (node : Nat) : Int := Priority.dropPenalty (p.site node).priority

/-- The transit along a trip, read off the rows. -/
def tripCost (p : Problem) (service : Int) (nodes : List Nat) : Int :=
  ((tripArcs nodes).map fun (i, j) => p.transit service i j).sum

end Problem

/-- The transit of all trips and the penalties of all dropped deliveries. -/
def Outcome.objective (p : Problem) (service : Int) (o : Outcome) : Int :=
  (o.routes.map fun r => p.tripCost service r.nodes).sum + (o.dropped.map p.dropPenalty).sum

namespace Model

variable {p : Problem} {trips : Nat} {service : Int} {width : Width} {m : Model}
  (h : Model.build p trips service width = .ok m)
include h

theorem transitFrom_of_build {nodes : List Nat} (known : ∀ node ∈ nodes, node < m.numNodes) :
    transitFrom m depot nodes = p.tripCost service nodes := by
  rw [← tripCost_exact, DeliveryRouting.tripCost, Problem.tripCost, keep_exact]
  refine congrArg List.sum (List.map_congr_left fun arc harc => ?_)
  obtain ⟨hi, hj⟩ := lt_of_mem_tripArcs known harc
  exact leg_of_build h hi hj

theorem dropPenalty_of_build {node : Nat} (hn : node < m.numNodes) :
    m.dropPenalty node = p.dropPenalty node := by
  rw [dropPenalty, site_of_build h hn]
  rfl

theorem sum_penalties_of_build : (m.deliveries.map m.dropPenalty).sum =
    ((List.range' 1 (p.durations.length - 1)).map p.dropPenalty).sum := by
  have same : m.deliveries = List.range' 1 (p.durations.length - 1) := by
    rw [deliveries, List.tail_range, numNodes_of_build h]
  rw [← same]
  refine congrArg List.sum (List.map_congr_left fun node hnode => ?_)
  exact dropPenalty_of_build h (m.mem_deliveries.mp hnode).2

end Model

namespace Solution.Consistent

variable {p : Problem} {trips : Nat} {service : Int} {width : Width} {m : Model} {s : Solution}
  (hs : s.Consistent m) (h : Model.build p trips service width = .ok m)
include hs h

theorem objective_eq_sum : (Outcome.ofSolution m s).objective p service =
    (s.vehicles.map fun v => transitFrom m depot (s.nodes v)).sum +
      (s.dropped.map m.dropPenalty).sum := by
  have transit : ((Outcome.ofSolution m s).routes.map fun r => p.tripCost service r.nodes) =
      s.usedVehicles.map fun v => transitFrom m depot (s.nodes v) := by
    rw [Outcome.ofSolution, List.map_map]
    refine List.map_congr_left fun v _ => ?_
    show p.tripCost service (Outcome.routeOf m s v).nodes = _
    rw [hs.nodes_routeOf, Model.transitFrom_of_build h fun node => hs.lt_numNodes_of_mem]
  -- the vehicles that stay at the depot have no transit
  have used : (s.usedVehicles.map fun v => transitFrom m depot (s.nodes v)).sum =
      (s.vehicles.map fun v => transitFrom m depot (s.nodes v)).sum := by
    rw [usedVehicles]
    induction s.vehicles with
    | nil => rfl
    | cons v vs ih =>
      rw [List.filter_cons, List.map_cons, List.sum_cons, ← ih]
      split
      · rw [List.map_cons, List.sum_cons]
      · next stays =>
        have none : s.nodes v = [] := by simpa [Trip.isEmpty, nodes] using stays
        rw [none, transitFrom_nil, Model.leg_self, Model.serviceAt_depot, Int.zero_add]
  have penalties : s.dropped.map p.dropPenalty = s.dropped.map m.dropPenalty := by
    refine List.map_congr_left fun node hnode => ?_
    have delivery := (hs.mem_dropped_iff.mp hnode).1
    exact (Model.dropPenalty_of_build h (m.mem_deliveries.mp delivery).2).symm
  show _ + (s.dropped.map p.dropPenalty).sum = _
  rw [transit, used, penalties]

/-- A solution costs what is kept of the costs of its outcome. -/
theorem keep_objective_ofSolution :
    m.keep ((Outcome.ofSolution m s).objective p service) = s.totalCost m := by
  have costs : s.vehicles.map (fun v => (s.trip v).cost) =
      s.vehicles.map fun v => m.keep (transitFrom m depot (s.nodes v)) :=
    List.map_congr_left fun v _ => (hs.cost_trip v).trans (tripCost_eq_keep m (s.nodes v))
  have kept : m.keep (s.vehicles.map fun v => m.keep (transitFrom m depot (s.nodes v))).sum =
      m.keep (s.vehicles.map fun v => transitFrom m depot (s.nodes v)).sum :=
    Width.keep_sum_map (fun v => transitFrom m depot (s.nodes v)) s.vehicles
  rw [hs.objective_eq_sum h, totalCost_eq_keep, fullCost, sum_costs, costs, ← Model.keep_keep_add,
    ← kept, Model.keep_keep_add]

/-- **Where there is room, an outcome costs what its solution costs.** -/
theorem objective_ofSolution (room : m.Roomy) :
    (Outcome.ofSolution m s).objective p service = s.totalCost m := by
  have forward := Model.duration_nonneg_of_build h
  have costs : s.vehicles.map (fun v => (s.trip v).cost) =
      s.vehicles.map fun v => transitFrom m depot (s.nodes v) :=
    List.map_congr_left fun v _ => hs.cost_eq_transitFrom room forward v
  rw [hs.objective_eq_sum h, hs.totalCost_eq_fullCost room forward, fullCost, sum_costs, costs]

end Solution.Consistent

end DeliveryRouting
