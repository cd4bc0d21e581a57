import DeliveryRouting.Proofs.Search.Partition
import DeliveryRouting.Proofs.Trip.Room

/-! # Outcomes: routes that can be run

A route of an outcome can be run by its driver: the vehicle holds the demands of all stops, each
stop is reached from the one before, inside its window and the shift, and the depot before the shift
ends. All of this is said by the numbers of the problem as they arrive (`OutcomeRoute.Runs`), so
that neither the model nor the schedules that a solution keeps have to be trusted.

It takes integers that lose nothing (`Params.Exact`). The tests that a route has passed are told by
the problem as well, and they have been passed whatever its sums have been cut down to
(`OutcomeRoute.Passes`). -/

namespace DeliveryRouting

/-- A stop as its node and its time. -/
def OutcomeStop.toPair (s : OutcomeStop) : Nat × Int := (s.node, s.arrival)

/-- A route can be run when a driver runs at most `trips` trips, at least one, and serving a
delivery takes `service`. -/
structure OutcomeRoute.Runs (problem : Problem) (trips : Nat) (service : Int) (r : OutcomeRoute) :
    Prop where
  stops_ne_nil : r.stops ≠ []
  capacity : ∃ capacity, problem.driverCapacities[r.vehicle / max trips 1]? = some capacity ∧
    (r.nodes.map fun node => problem.demands.getD node 0).sum ≤ capacity
  window : ∀ s ∈ r.stops, ∃ w, problem.windows[s.node]? = some w ∧
    w.opens ≤ s.arrival ∧ s.arrival ≤ w.closes
  start_nonneg : 0 ≤ r.start
  arrival_first : ∀ s ∈ r.stops.head?,
    r.start + problem.transit service depot s.node = s.arrival
  arrival_next : r.stops.IsChain fun a b =>
    a.arrival + problem.transit service a.node b.node ≤ b.arrival
  finish_eq : ∀ s ∈ r.stops.getLast?,
    r.finish = s.arrival + problem.transit service s.node depot
  shift : ∃ w, problem.windows[depot]? = some w ∧ (∀ s ∈ r.stops, s.arrival ≤ w.closes) ∧
    r.finish ≤ w.closes

/-- A route has passed the tests of its windows and of the shift, and of what is kept of its load. -/
structure OutcomeRoute.Passes (problem : Problem) (trips : Nat) (width : Width) (r : OutcomeRoute) :
    Prop where
  capacity : ∃ capacity, problem.driverCapacities[r.vehicle / max trips 1]? = some capacity ∧
    width.keep (r.nodes.map fun node => problem.demands.getD node 0).sum ≤ capacity
  window : ∀ s ∈ r.stops, ∃ w, problem.windows[s.node]? = some w ∧
    w.opens ≤ s.arrival ∧ s.arrival ≤ w.closes
  shift : ∃ w, problem.windows[depot]? = some w ∧ (∀ s ∈ r.stops, s.arrival ≤ w.closes) ∧
    r.finish ≤ w.closes

/-- Nothing that a solve adds up is lost: its integers have no bound, or they have room for all sums of
the model. -/
def Params.Exact (p : Params) (problem : Problem) : Prop :=
  p.width = .unbounded ∨
    ∀ m, Model.build problem p.trips p.service p.width = .ok m → m.Roomy

theorem Params.Exact.roomy {p : Params} {problem : Problem} {m : Model} (exact : p.Exact problem)
    (fits : Model.build problem p.trips p.service p.width = .ok m) : m.Roomy := by
  rcases exact with unbounded | room
  · exact Model.roomy_of_unbounded ((Model.width_of_build fits).trans unbounded)
  · exact room m fits

theorem Outcome.map_toPair_stopsOf (t : Trip) :
    (Outcome.stopsOf t).map OutcomeStop.toPair = t.nodes.zip t.schedule.arrivals := by
  rw [Outcome.stopsOf, List.map_zipWith]
  rfl

namespace Solution.Consistent

variable {problem : Problem} {trips : Nat} {service : Int} {width : Width} {m : Model} {s : Solution}
  {vehicle : Nat} {stop : OutcomeStop}

/-! ### Stops of a trip -/

section Stops

variable (hs : s.Consistent m)
include hs

theorem mem_nodes_of_mem_stopsOf (h : stop ∈ Outcome.stopsOf (s.trip vehicle)) :
    stop.node ∈ s.nodes vehicle := by
  rw [← hs.nodes_routeOf]
  exact List.mem_map_of_mem h

theorem lt_numNodes_of_mem_stopsOf (h : stop ∈ Outcome.stopsOf (s.trip vehicle)) :
    stop.node < m.numNodes :=
  hs.lt_numNodes_of_mem (hs.mem_nodes_of_mem_stopsOf h)

theorem lt_length_of_leaves (leaves : s.nodes vehicle ≠ []) : vehicle < m.numVehicles := by
  obtain ⟨node, hnode⟩ := List.exists_mem_of_ne_nil _ leaves
  exact hs.length_trips ▸ lt_length_of_mem_nodes hnode

theorem depot_lt_of_leaves (leaves : s.nodes vehicle ≠ []) : depot < m.numNodes := by
  obtain ⟨node, hnode⟩ := List.exists_mem_of_ne_nil _ leaves
  exact Nat.lt_of_le_of_lt (Nat.zero_le node) (hs.lt_numNodes_of_mem hnode)

theorem admits_of_mem_stopsOf (h : stop ∈ Outcome.stopsOf (s.trip vehicle)) :
    (m.window stop.node).admits stop.arrival = true ∧ stop.arrival ≤ m.shiftLength := by
  have pair : stop.toPair ∈ (s.trip vehicle).nodes.zip (s.trip vehicle).schedule.arrivals := by
    rw [← Outcome.map_toPair_stopsOf]
    exact List.mem_map_of_mem h
  exact Schedule.admits_of_compute (hs.compute_nodes vehicle) pair

end Stops

/-! ### Stops of a trip whose sums have room -/

section Room

variable (hs : s.Consistent m) (room : m.Roomy) (forward : ∀ i j, 0 ≤ m.travel.duration i j)
  (leaves : s.nodes vehicle ≠ [])
include hs room forward leaves

theorem demand_le_capacity : ((s.nodes vehicle).map m.demand).sum ≤ m.capacity vehicle := by
  have computed := hs.compute_exact room forward vehicle
  have load : (s.trip vehicle).schedule.load = ((s.nodes vehicle).map m.demand).sum :=
    Schedule.load_of_compute computed
  rw [← load]
  exact Schedule.load_le_of_compute (m := m.exact) computed leaves

theorem timing_stopsOf :
    Schedule.Timing m depot 0 ((Outcome.stopsOf (s.trip vehicle)).map OutcomeStop.toPair) := by
  rw [Outcome.map_toPair_stopsOf]
  exact Schedule.timing_of_compute (hs.compute_exact room forward vehicle) leaves

theorem isChain_stopsOf : (Outcome.stopsOf (s.trip vehicle)).IsChain fun a b =>
    a.arrival + m.leg a.node b.node ≤ b.arrival := by
  have chain := (hs.timing_stopsOf room forward leaves).isChain.tail
  rw [List.tail_cons, List.isChain_map] at chain
  exact chain

theorem finish_of_getLast? (h : (Outcome.stopsOf (s.trip vehicle)).getLast? = some stop) :
    (s.trip vehicle).schedule.finish = stop.arrival + m.leg stop.node depot := by
  have last : ((Outcome.stopsOf (s.trip vehicle)).map OutcomeStop.toPair).getLast? =
      some stop.toPair := by rw [List.getLast?_map, h]; rfl
  rw [Outcome.map_toPair_stopsOf] at last
  rw [Schedule.finish_of_compute (hs.compute_exact room forward vehicle) leaves]
  exact Schedule.returnTime_of_getLast? last

theorem latestStart_of_head? (h : (Outcome.stopsOf (s.trip vehicle)).head? = some stop) :
    Outcome.latestStart m (Outcome.stopsOf (s.trip vehicle)) + m.leg depot stop.node =
      stop.arrival := by
  have timing := hs.timing_stopsOf room forward leaves
  obtain ⟨rest, hrest⟩ := List.head?_eq_some_iff.mp h
  rw [hrest, List.map_cons] at timing
  have reached : 0 + m.leg depot stop.node ≤ stop.arrival := timing.1
  have inShift : stop.arrival ≤ m.shiftLength := timing.2.2.1
  have hlast := Model.neg_rebate_le_leg forward depot stop.node
  have once : m.rebate * 1 ≤ m.rebate * m.numNodes :=
    Int.mul_le_mul_of_nonneg_left (Int.ofNat_le.mpr (hs.depot_lt_of_leaves leaves)) m.rebate_nonneg
  have bound := m.shiftLength_le_timeBound
  have kept : m.keep (stop.arrival - m.transit depot stop.node) =
      stop.arrival - m.leg depot stop.node := by
    rw [Model.transit, Model.keep_sub_keep]
    exact room.time.within (by omega) (by omega)
  rw [hrest, Outcome.latestStart, kept]
  omega

end Room

/-! ### Routes of a problem -/

section Routes

variable (hs : s.Consistent m) (fits : Model.build problem trips service width = .ok m)
  (leaves : s.nodes vehicle ≠ [])
include hs fits

theorem map_demand_routeOf :
    (Outcome.routeOf m s vehicle).nodes.map (fun node => problem.demands.getD node 0) =
      (s.nodes vehicle).map m.demand := by
  rw [hs.nodes_routeOf]
  exact List.map_congr_left fun node h =>
    (Model.demand_of_build fits (hs.lt_numNodes_of_mem h)).symm

include leaves

/-- **The route of a vehicle of a consistent solution has passed the tests.** -/
theorem passes_routeOf : (Outcome.routeOf m s vehicle).Passes problem trips width := by
  refine ⟨?capacity, fun stop hstop => ?window, ?shift⟩
  case capacity =>
    refine ⟨m.capacity vehicle, Model.capacity_of_build fits (hs.lt_length_of_leaves leaves), ?_⟩
    have held := Schedule.load_le_of_compute (hs.compute_nodes vehicle) leaves
    rw [Schedule.load_of_compute (hs.compute_nodes vehicle), Model.keep, Model.width_of_build fits]
      at held
    rwa [hs.map_demand_routeOf fits]
  case window =>
    have hnode := hs.mem_nodes_of_mem_stopsOf hstop
    have delivery : stop.node ≠ depot := fun hd => hs.depot_notMem vehicle (hd ▸ hnode)
    exact ⟨m.window stop.node, Model.window_of_build fits (hs.lt_numNodes_of_mem hnode) delivery,
      Window.admits_iff.mp (hs.admits_of_mem_stopsOf hstop).1⟩
  case shift =>
    obtain ⟨w, hw, length⟩ := Model.shift_of_build fits (hs.depot_lt_of_leaves leaves)
    exact ⟨w, hw, fun stop hstop => length ▸ (hs.admits_of_mem_stopsOf hstop).2,
      length ▸ Schedule.finish_le_shiftLength (hs.compute_nodes vehicle) leaves⟩

/-- **The route of a vehicle of a consistent solution can be run**, if there is room for its sums. -/
theorem runs_routeOf (room : m.Roomy) :
    (Outcome.routeOf m s vehicle).Runs problem trips service := by
  have forward := Model.duration_nonneg_of_build fits
  have passes := hs.passes_routeOf fits leaves
  have knownDepot := hs.depot_lt_of_leaves leaves
  have known {stop : OutcomeStop} (h : stop ∈ Outcome.stopsOf (s.trip vehicle)) :
      stop.node < m.numNodes := hs.lt_numNodes_of_mem_stopsOf h
  refine ⟨hs.stops_routeOf_ne_nil leaves, ?capacity, passes.window, ?start, fun stop hfirst => ?first,
    ?next, fun stop hlast => ?finish, passes.shift⟩
  case capacity =>
    refine ⟨m.capacity vehicle, Model.capacity_of_build fits (hs.lt_length_of_leaves leaves), ?_⟩
    rw [hs.map_demand_routeOf fits]
    exact hs.demand_le_capacity room forward leaves
  case start =>
    show 0 ≤ Outcome.latestStart m _
    unfold Outcome.latestStart
    split <;> omega
  case first =>
    rw [← Model.leg_of_build fits knownDepot (known (List.mem_of_head? hfirst))]
    exact hs.latestStart_of_head? room forward leaves hfirst
  case next =>
    refine (hs.isChain_stopsOf room forward leaves).imp_of_mem_imp fun a b ha hb hab => ?_
    rwa [← Model.leg_of_build fits (known ha) (known hb)]
  case finish =>
    rw [← Model.leg_of_build fits (known (List.mem_of_getLast? hlast)) knownDepot]
    exact hs.finish_of_getLast? room forward leaves hlast

end Routes

end Solution.Consistent

section Attainable

variable {p : Params} {problem : Problem} {o : Outcome} (h : o.Attainable p problem)
include h

theorem Outcome.Attainable.passes : ∀ r ∈ o.routes, r.Passes problem p.trips p.width := by
  cases h with
  | nothing few => exact fun r hr => nomatch hr
  | cancelled several => exact fun r hr => nomatch hr
  | found several fits reachable =>
    intro r hr
    obtain ⟨v, hv, rfl⟩ := List.mem_map.mp hr
    exact reachable.consistent.passes_routeOf fits (Solution.mem_usedVehicles.mp hv)

theorem Outcome.Attainable.runs (exact : p.Exact problem) :
    ∀ r ∈ o.routes, r.Runs problem p.trips p.service := by
  cases h with
  | nothing few => exact fun r hr => nomatch hr
  | cancelled several => exact fun r hr => nomatch hr
  | found several fits reachable =>
    intro r hr
    obtain ⟨v, hv, rfl⟩ := List.mem_map.mp hr
    exact reachable.consistent.runs_routeOf fits (Solution.mem_usedVehicles.mp hv) (exact.roomy fits)

end Attainable

/-- **Every route of an outcome can be run by its driver**, unless something is lost of a sum. -/
theorem solve_runs (p : Params) (steps : Nat) (problem : Problem) (exact : p.Exact problem)
    (signal : Nat → Poll) (outcome : Outcome)
    (h : (solve p steps problem).answer signal = .ok outcome) :
    ∀ r ∈ outcome.routes, r.Runs problem p.trips p.service :=
  ((solve_attains p steps problem).answer signal outcome h).runs exact

theorem exact_pairProblem : greedyParams.Exact pairProblem := by
  refine .inr fun m fits => ?_
  cases build_pairProblem.symm.trans fits
  decide

theorem solve_runs_pairProblem :
    greedyParams.Exact pairProblem ∧
      (solve greedyParams 5 pairProblem).answer undisturbed = .ok pairOutcome ∧
      ∀ r ∈ pairOutcome.routes, r.Runs pairProblem 2 10 :=
  ⟨exact_pairProblem, solve_pairProblem, solve_runs greedyParams 5 pairProblem exact_pairProblem
    undisturbed pairOutcome solve_pairProblem⟩

end DeliveryRouting
