import DeliveryRouting.Proofs.Search.Attained

/-! # Outcomes: what becomes of the deliveries

Every delivery is either a stop of one route or dropped. The routes are those of the vehicles that
leave the depot, so none of them is without stops, and their vehicles and the dropped deliveries
ascend. This is what a consistent solution says (`Solution.Consistent.accounts`), and a cancelled
solve, which drops everything, says it as well. -/

namespace DeliveryRouting

/-- The nodes where a route stops. -/
def OutcomeRoute.nodes (r : OutcomeRoute) : List Nat := r.stops.map OutcomeStop.node

/-- An outcome accounts for all deliveries among `n` nodes, with so many vehicles. -/
structure Outcome.Accounts (n vehicles : Nat) (o : Outcome) : Prop where
  perm : (o.routes.flatMap OutcomeRoute.nodes ++ o.dropped).Perm (List.range' 1 (n - 1))
  dropped_ascending : o.dropped.Pairwise (· < ·)
  stops_ne_nil : ∀ r ∈ o.routes, r.stops ≠ []
  vehicles_ascending : (o.routes.map OutcomeRoute.vehicle).Pairwise (· < ·)
  vehicle_lt : ∀ r ∈ o.routes, r.vehicle < vehicles

namespace Outcome

theorem Accounts.delivery_of_mem {n vehicles node : Nat} {o : Outcome} (h : o.Accounts n vehicles)
    (hnode : node ∈ o.routes.flatMap OutcomeRoute.nodes ++ o.dropped) : 1 ≤ node ∧ node < n := by
  have known := h.perm.subset hnode
  rw [List.mem_range'_1] at known
  omega

theorem accounts_allDropped (n vehicles : Nat) : (allDropped n).Accounts n vehicles where
  perm := by rw [allDropped, List.flatMap_nil, List.nil_append, List.tail_range]
  dropped_ascending := by
    rw [allDropped, List.tail_range]
    exact List.pairwise_lt_range'
  stops_ne_nil := fun _ h => nomatch h
  vehicles_ascending := List.Pairwise.nil
  vehicle_lt := fun _ h => nomatch h

theorem accounts_empty {n : Nat} (few : n ≤ 1) (vehicles : Nat) : empty.Accounts n vehicles := by
  have none : n - 1 = 0 := by omega
  have same : allDropped n = empty := by rw [allDropped, List.tail_range, none]; rfl
  exact same ▸ accounts_allDropped n vehicles

end Outcome

namespace Solution

variable {m : Model} {s : Solution} {vehicle : Nat}

theorem map_vehicle_ofSolution (m : Model) (s : Solution) :
    (Outcome.ofSolution m s).routes.map OutcomeRoute.vehicle = s.usedVehicles := by
  rw [Outcome.ofSolution, List.map_map]
  exact List.map_id _

theorem pairwise_usedVehicles (s : Solution) : s.usedVehicles.Pairwise (· < ·) :=
  List.pairwise_lt_range.filter _

theorem flatMap_usedVehicles (s : Solution) : s.usedVehicles.flatMap s.nodes = s.stops := by
  rw [stops_eq_flatMap_vehicles, usedVehicles]
  induction s.vehicles with
  | nil => rfl
  | cons v vs ih =>
    rw [List.filter_cons, List.flatMap_cons, ← ih]
    split
    · rw [List.flatMap_cons]
    · next h =>
      have stays : s.nodes v = [] := by simpa [Trip.isEmpty, nodes] using h
      rw [stays, List.nil_append]

namespace Consistent

variable (hs : s.Consistent m)
include hs

theorem nodes_routeOf (vehicle : Nat) :
    (Outcome.routeOf m s vehicle).nodes = s.nodes vehicle := by
  have same := Schedule.length_arrivals (hs.compute_nodes vehicle)
  show ((s.trip vehicle).nodes.zipWith OutcomeStop.mk (s.trip vehicle).schedule.arrivals).map
    OutcomeStop.node = s.nodes vehicle
  rw [List.map_zipWith]
  show List.zipWith (fun node _ => node) _ _ = _
  rw [← List.map_fst_zip (le_of_eq same.symm), List.zip, List.map_zipWith]
  rfl

theorem stops_routeOf_ne_nil (leaves : s.nodes vehicle ≠ []) :
    (Outcome.routeOf m s vehicle).stops ≠ [] := by
  intro hnil
  have nodes := hs.nodes_routeOf vehicle
  rw [OutcomeRoute.nodes, hnil] at nodes
  exact leaves nodes.symm

theorem flatMap_nodes_ofSolution :
    (Outcome.ofSolution m s).routes.flatMap OutcomeRoute.nodes = s.stops := by
  rw [← flatMap_usedVehicles, Outcome.ofSolution, List.flatMap_map]
  congr 1
  funext v
  exact hs.nodes_routeOf v

theorem perm_deliveries : (s.stops ++ s.dropped).Perm m.deliveries := by
  have ascending : m.deliveries.Pairwise (· < ·) := by
    rw [Model.deliveries, List.tail_range]
    exact List.pairwise_lt_range'
  have nodup : (s.stops ++ s.dropped).Nodup :=
    List.nodup_append'.mpr ⟨hs.nodup_stops, (pairwise_dropped s).imp ne_of_lt,
      fun _ hstop hdropped => (hs.mem_dropped_iff.mp hdropped).2 hstop⟩
  refine (List.perm_ext_iff_of_nodup nodup (ascending.imp ne_of_lt)).mpr fun node => ?_
  rw [List.mem_append, hs.mem_dropped_iff]
  constructor
  · rintro (h | h)
    · exact hs.mem_deliveries_of_mem_stops h
    · exact h.1
  · intro h
    by_cases hstop : node ∈ s.stops
    · exact .inl hstop
    · exact .inr ⟨h, hstop⟩

/-- The outcome of a consistent solution accounts for all deliveries. -/
theorem accounts : (Outcome.ofSolution m s).Accounts m.numNodes m.numVehicles where
  perm := by
    rw [hs.flatMap_nodes_ofSolution, ← List.tail_range]
    exact hs.perm_deliveries
  dropped_ascending := pairwise_dropped s
  stops_ne_nil := by
    intro r hr
    obtain ⟨v, hv, rfl⟩ := List.mem_map.mp hr
    exact hs.stops_routeOf_ne_nil (mem_usedVehicles.mp hv)
  vehicles_ascending := by
    rw [map_vehicle_ofSolution]
    exact pairwise_usedVehicles s
  vehicle_lt := by
    intro r hr
    have hv : r.vehicle ∈ s.usedVehicles :=
      map_vehicle_ofSolution m s ▸ List.mem_map_of_mem hr
    rw [← hs.length_trips]
    exact List.mem_range.mp (List.mem_of_mem_filter hv)

end Consistent

end Solution

open Solution

theorem Solution.Reachable.accounts {problem : Problem} {trips : Nat} {service : Int} {width : Width}
    {m : Model} {s : Solution} (fits : Model.build problem trips service width = .ok m)
    (h : Reachable m s) :
    (Outcome.ofSolution m s).Accounts problem.durations.length
      (problem.drivers * max trips 1) := by
  have accounts := h.consistent.accounts
  rwa [Model.numNodes_of_build fits, Model.numVehicles_of_build fits] at accounts

theorem Outcome.Attainable.accounts {p : Params} {problem : Problem} {o : Outcome}
    (h : o.Attainable p problem) :
    o.Accounts problem.durations.length (problem.drivers * max p.trips 1) := by
  cases h with
  | nothing few => exact accounts_empty few _
  | cancelled several => exact accounts_allDropped _ _
  | found several fits reachable => exact reachable.accounts fits

/-- **No delivery is lost or served twice**: whenever a solve has an outcome, its stops and its
dropped deliveries together are each delivery once. What the comparisons of prices decide on the way
does not matter, as the same holds of the outcome of any reachable solution. -/
theorem solve_accounts (p : Params) (steps : Nat) (problem : Problem) :
    (∀ (signal : Nat → Poll) (outcome : Outcome),
      (solve p steps problem).answer signal = .ok outcome →
        outcome.Accounts problem.durations.length (problem.drivers * max p.trips 1)) ∧
    ∀ (m : Model) (s : Solution), Model.build problem p.trips p.service p.width = .ok m →
      Reachable m s → (Outcome.ofSolution m s).Accounts problem.durations.length
        (problem.drivers * max p.trips 1) := by
  refine ⟨fun signal outcome h => ?_, fun m s fits reachable => reachable.accounts fits⟩
  exact ((solve_attains p steps problem).answer signal outcome h).accounts

/-- The outcome of the small problem. -/
def pairOutcome : Outcome := ⟨[⟨0, [⟨2, 100⟩, ⟨1, 115⟩], 70, 125⟩], []⟩

/-- A solve that is given no time to improve what it builds greedily. -/
def greedyParams : Params where
  limits := [.iterations 0]
  trips := 2
  service := 10
  coefficient := 0.1
  threads := 1
  seed := 0

theorem solve_pairProblem : (solve greedyParams 5 pairProblem).answer undisturbed = .ok pairOutcome :=
  rfl

theorem solve_accounts_pairProblem :
    (solve greedyParams 5 pairProblem).answer undisturbed = .ok pairOutcome ∧
      pairOutcome.Accounts 3 2 ∧ (Outcome.ofSolution pairModel pairTour).Accounts 3 2 :=
  ⟨solve_pairProblem,
    (solve_accounts greedyParams 5 pairProblem).1 undisturbed pairOutcome solve_pairProblem,
    (solve_accounts greedyParams 5 pairProblem).2 pairModel pairTour build_pairProblem
      reachable_pairTour⟩

end DeliveryRouting
