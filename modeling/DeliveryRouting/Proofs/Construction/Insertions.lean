import DeliveryRouting.Proofs.Search.Objective
import DeliveryRouting.Proofs.Search.Pruning

/-! # Insertions and their detours

An insertion takes a trip on its way between two stops over one node more. Its detour is computed
from the transit of the two whole trips, but only the two legs around the node and the one they take
the place of differ (`keep_tripCost_splice`). That holds of a trip without stops too, as staying at
the depot takes no time.

The insertions of a dropped delivery on a trip are listed by their places, and are those that would
be accepted: the look at the load in front refuses none of them, since the load of the longer trip
is among those that its schedule checks (`Consistent.mem_insertions_iff`). The best one is the first
of the smallest detour, by vehicle and then by place (`Consistent.bestInsertion_eq_some_iff`).

Where there is room for all sums, a detour is what the longer trip costs more, and nothing is lost
either when the penalty is taken off (`Consistent.detour_eq_sub`, `Consistent.gain_eq`). -/

namespace DeliveryRouting

/-- The stop before a place of a trip. Before the first place it is the depot. -/
def stopBefore (nodes : List Nat) (position : Nat) : Nat := (depot :: nodes).getD position depot

/-- The stop at a place of a trip. Behind the last stop it is the depot. -/
def stopAt (nodes : List Nat) (position : Nat) : Nat := nodes.getD position depot

/-- What is added to the way from `i` to `j` by going over `node`, as far as it is kept. -/
def Model.detour (m : Model) (i node j : Nat) : Int :=
  m.keep (m.transit i node + m.transit node j - m.transit i j)

section Detours

variable {m : Model} {last node position : Nat} {nodes : List Nat}

/-! ### Detours -/

theorem Model.detour_eq_keep (m : Model) (i node j : Nat) :
    m.detour i node j = m.keep (m.leg i node + m.leg node j - m.leg i j) := by
  rw [detour, transit, transit, transit, keep_sub_keep, ← keep_keep_sub, keep_keep_add, keep_keep_sub,
    Int.add_comm, ← keep_keep_sub, keep_keep_add, keep_keep_sub, Int.add_comm]

theorem transitFrom_splice (h : position ≤ nodes.length) :
    transitFrom m last (splice nodes position [node]) = transitFrom m last nodes +
      (m.leg ((last :: nodes).getD position depot) node + m.leg node (stopAt nodes position) -
        m.leg ((last :: nodes).getD position depot) (stopAt nodes position)) := by
  induction nodes generalizing last position with
  | nil =>
    obtain rfl : position = 0 := Nat.le_zero.mp h
    show transitFrom m last [node] =
      transitFrom m last [] + (m.leg last node + m.leg node depot - m.leg last depot)
    rw [transitFrom_cons, transitFrom_nil, transitFrom_nil]
    omega
  | cons x nodes ih =>
    cases position with
    | zero =>
      show transitFrom m last (node :: x :: nodes) =
        transitFrom m last (x :: nodes) + (m.leg last node + m.leg node x - m.leg last x)
      rw [transitFrom_cons, transitFrom_cons, transitFrom_cons]
      omega
    | succ position =>
      have rest : transitFrom m x (splice nodes position [node]) = _ := ih (Nat.le_of_succ_le_succ h)
      show transitFrom m last (x :: splice nodes position [node]) = transitFrom m last (x :: nodes) +
        (m.leg ((x :: nodes).getD position depot) node + m.leg node (stopAt nodes position) -
          m.leg ((x :: nodes).getD position depot) (stopAt nodes position))
      rw [transitFrom_cons, transitFrom_cons, rest, Int.add_assoc]

/-- **What a longer trip costs more is the detour over its new stop.** -/
theorem keep_tripCost_splice (h : position ≤ nodes.length) :
    m.keep (tripCost m (splice nodes position [node]) - tripCost m nodes) =
      m.detour (stopBefore nodes position) node (stopAt nodes position) := by
  rw [tripCost_eq_keep, tripCost_eq_keep, Model.keep_sub_keep, Model.keep_keep_sub,
    transitFrom_splice h, add_sub_cancel_left, Model.detour_eq_keep]
  rfl

end Detours

/-- The place of an insertion comes before that of another one, by vehicle and then by position. -/
def Insertion.Before (i j : Insertion) : Prop :=
  i.vehicle < j.vehicle ∨ i.vehicle = j.vehicle ∧ i.position < j.position

namespace Solution

/-- The insertion would be accepted, and it says by how much its two legs are longer than the one
they take the place of. -/
structure Feasible (m : Model) (s : Solution) (i : Insertion) : Prop where
  accepted : ∃ s', s.insert m i.node i.vehicle i.position = .ok s'
  detour_eq : i.detour = m.detour (stopBefore (s.nodes i.vehicle) i.position) i.node
    (stopAt (s.nodes i.vehicle) i.position)

/-- The insertion is the first of the smallest detour among the feasible ones of its node. -/
structure Best (m : Model) (s : Solution) (i : Insertion) : Prop where
  feasible : s.Feasible m i
  le : ∀ j, s.Feasible m j → j.node = i.node → i.detour ≤ j.detour
  first : ∀ j, s.Feasible m j → j.node = i.node → j.detour = i.detour → i = j ∨ i.Before j

variable {m : Model} {s : Solution} {i j : Insertion} {node vehicle position : Nat}

/-! ### Feasible insertions -/

theorem Feasible.vehicle_lt (h : s.Feasible m i) : i.vehicle < s.trips.length := by
  obtain ⟨s', accepted⟩ := h.accepted
  exact (insert_eq_ok_iff.mp accepted).1

theorem feasible_of_insert {s' : Solution} (h : s.insert m node vehicle position = .ok s') :
    s.Feasible m ⟨node, vehicle, position, m.detour (stopBefore (s.nodes vehicle) position) node
      (stopAt (s.nodes vehicle) position)⟩ :=
  ⟨⟨s', h⟩, rfl⟩

theorem Consistent.mem_insertions_iff (hs : s.Consistent m) :
    i ∈ s.insertions m node vehicle ↔ s.Feasible m i ∧ i.node = node ∧ i.vehicle = vehicle := by
  have detour {position : Nat} (place : position ≤ (s.nodes vehicle).length) :
      m.keep (tripCost m (splice (s.nodes vehicle) position [node]) - (s.trip vehicle).cost) =
        m.detour (stopBefore (s.nodes vehicle) position) node
          (stopAt (s.nodes vehicle) position) := by
    rw [hs.cost_trip, keep_tripCost_splice place]
  rw [mem_insertions]
  constructor
  · rintro ⟨-, position, place, ⟨schedule, runs⟩, rfl⟩
    have known : vehicle < s.trips.length := by
      rw [hs.length_trips]
      refine ((Schedule.compute_eq_ok_iff ?_).mp runs).1
      exact List.ne_nil_of_mem (splice_perm.mem_iff.mpr (List.mem_cons_self (a := node)))
    exact ⟨⟨⟨_, insert_eq_ok_iff.mpr ⟨known, place, schedule, runs, rfl⟩⟩, detour place⟩, rfl, rfl⟩
  · rintro ⟨⟨⟨s', accepted⟩, detour_eq⟩, rfl, rfl⟩
    obtain ⟨-, place, schedule, runs, -⟩ := insert_eq_ok_iff.mp accepted
    refine ⟨?room, i.position, place, ⟨schedule, runs⟩, ?same⟩
    case room =>
      -- the whole load of the longer trip is what the look in front adds up
      have load := Schedule.load_of_compute runs
      have held := Schedule.load_le_of_compute runs
        (List.ne_nil_of_mem (splice_perm.mem_iff.mpr List.mem_cons_self))
      rw [sum_map_splice, List.map_singleton, List.sum_singleton, Int.add_comm] at load
      rwa [hs.load_trip, Model.keep_keep_add, ← load]
    case same =>
      rw [detour place, ← detour_eq]

theorem pairwise_insertions (m : Model) (s : Solution) (node vehicle : Nat) :
    (s.insertions m node vehicle).Pairwise fun i j => i.position < j.position := by
  unfold insertions
  split
  · exact List.Pairwise.nil
  · refine List.pairwise_lt_range.filterMap _ fun p q before i hi j hj => ?_
    obtain ⟨-, rfl⟩ := insertionAt?_eq_some_iff.mp hi
    obtain ⟨-, rfl⟩ := insertionAt?_eq_some_iff.mp hj
    exact before

/-! ### The best insertion -/

theorem Best.eq (hi : s.Best m i) (hj : s.Best m j) (same : i.node = j.node) : i = j := by
  have le := hi.le j hj.feasible same.symm
  have ge := hj.le i hi.feasible same
  have equal : i.detour = j.detour := by omega
  rcases hi.first j hj.feasible same.symm equal.symm with rfl | before
  · rfl
  · rcases hj.first i hi.feasible same equal with rfl | after
    · rfl
    · unfold Insertion.Before at before after
      omega

section Best

variable (hs : s.Consistent m)
include hs

theorem Consistent.mem_flatMap_insertions_iff :
    i ∈ s.vehicles.flatMap (s.insertions m node) ↔ s.Feasible m i ∧ i.node = node := by
  simp only [List.mem_flatMap, hs.mem_insertions_iff, vehicles, List.mem_range]
  constructor
  · rintro ⟨vehicle, -, feasible, hnode, -⟩
    exact ⟨feasible, hnode⟩
  · rintro ⟨feasible, hnode⟩
    exact ⟨i.vehicle, feasible.vehicle_lt, feasible, hnode, rfl⟩

theorem Consistent.pairwise_flatMap_insertions :
    (s.vehicles.flatMap (s.insertions m node)).Pairwise Insertion.Before := by
  refine List.pairwise_flatMap.mpr ⟨fun vehicle _ => ?_, ?_⟩
  · refine (pairwise_insertions m s node vehicle).imp_of_mem fun {i j} hi hj before => ?_
    obtain ⟨-, -, rfl⟩ := hs.mem_insertions_iff.mp hi
    obtain ⟨-, -, same⟩ := hs.mem_insertions_iff.mp hj
    exact .inr ⟨same.symm, before⟩
  · refine List.pairwise_lt_range.imp fun before i hi j hj => ?_
    obtain ⟨-, -, rfl⟩ := hs.mem_insertions_iff.mp hi
    obtain ⟨-, -, rfl⟩ := hs.mem_insertions_iff.mp hj
    exact .inl before

theorem Consistent.bestInsertion_eq_none_iff : s.bestInsertion m node = none ↔
    ∀ i, s.Feasible m i → i.node ≠ node := by
  rw [bestInsertion, firstMin_eq_none_iff, List.eq_nil_iff_forall_not_mem]
  simp only [hs.mem_flatMap_insertions_iff, not_and, ne_eq]

theorem Consistent.best_of_bestInsertion (h : s.bestInsertion m node = some i) :
    i.node = node ∧ s.Best m i := by
  -- what stands in front of the first of the smallest detour makes a longer one
  obtain ⟨l, r, split, before, after⟩ := split_of_firstMin h
  have listed {j : Insertion} : j ∈ l ++ i :: r ↔ s.Feasible m j ∧ j.node = node :=
    split ▸ hs.mem_flatMap_insertions_iff
  have order : (s.vehicles.flatMap (s.insertions m node)).Pairwise Insertion.Before :=
    hs.pairwise_flatMap_insertions
  rw [split, List.pairwise_append, List.pairwise_cons] at order
  obtain ⟨feasible, rfl⟩ := listed.mp (List.mem_append_right l List.mem_cons_self)
  refine ⟨rfl, feasible, fun j hj same => ?le, fun j hj same equal => ?first⟩
  case le => exact (mem_and_le_of_firstMin h).2 j (split ▸ listed.mpr ⟨hj, same⟩)
  case first =>
    rcases List.mem_append.mp (listed.mpr ⟨hj, same⟩) with hl | hr
    · have := before j hl
      omega
    · rcases List.mem_cons.mp hr with rfl | hr
      · exact .inl rfl
      · exact .inr (order.2.1.1 j hr)

/-- **The best insertion of a node is the first of the smallest detour.** -/
theorem Consistent.bestInsertion_eq_some_iff : s.bestInsertion m node = some i ↔
    i.node = node ∧ s.Best m i := by
  refine ⟨hs.best_of_bestInsertion, ?_⟩
  rintro ⟨rfl, best⟩
  cases found : s.bestInsertion m i.node with
  | none => exact absurd rfl (hs.bestInsertion_eq_none_iff.mp found i best.feasible)
  | some j =>
    obtain ⟨same, best'⟩ := hs.best_of_bestInsertion found
    rw [best'.eq best same]

end Best

/-! ### Room for detours -/

section Room

variable (hs : s.Consistent m) (room : m.Roomy) (forward : ∀ i j, 0 ≤ m.travel.duration i j)
  (feasible : s.Feasible m i) (dropped : i.node ∈ s.dropped)
include hs room forward feasible dropped

/-- What a longer trip takes more, and what is left of it when a penalty is saved, is within what
there is room for. -/
theorem Consistent.added_bounds :
    (-m.tripBound ≤ tripCost m (splice (s.nodes i.vehicle) i.position [i.node]) -
        tripCost m (s.nodes i.vehicle) ∧
      tripCost m (splice (s.nodes i.vehicle) i.position [i.node]) -
        tripCost m (s.nodes i.vehicle) ≤ m.tripBound) ∧
    m.tripBound + m.dropPenalty i.node ≤ m.costBound := by
  obtain ⟨s', accepted⟩ := feasible.accepted
  have hs' : s'.Consistent m := tryInsert_of_insert accepted ▸ hs.tryInsert dropped
  have old := hs.cost_bounds room forward i.vehicle
  have new := hs'.cost_bounds room forward i.vehicle
  obtain ⟨hv, -, schedule, -, rfl⟩ := insert_eq_ok_iff.mp accepted
  rw [trip_replaceTrip hv] at new
  rw [hs.cost_trip] at old
  have penalty := m.dropPenalty_le_sum (hs.mem_deliveries_of_mem_dropped dropped)
  have one : 1 * m.tripBound ≤ m.numVehicles * m.tripBound := by
    rw [hs.length_trips] at hv
    exact Int.mul_le_mul_of_nonneg_right (by omega) m.tripBound_nonneg
  dsimp only at new
  unfold Model.costBound
  refine ⟨?_, by omega⟩
  unfold Model.tripBound
  omega

/-- **Where there is room, a detour is what the longer trip costs more.** -/
theorem Consistent.detour_eq_sub :
    i.detour = tripCost m (splice (s.nodes i.vehicle) i.position [i.node]) -
      tripCost m (s.nodes i.vehicle) := by
  obtain ⟨⟨low, high⟩, room'⟩ := hs.added_bounds room forward feasible dropped
  obtain ⟨s', accepted⟩ := feasible.accepted
  have penalty := m.dropPenalty_nonneg i.node
  rw [feasible.detour_eq, ← keep_tripCost_splice (insert_eq_ok_iff.mp accepted).2.1]
  exact room.cost.within (by omega) (by omega)

theorem Consistent.detour_bounds : -m.tripBound ≤ i.detour ∧ i.detour ≤ m.tripBound := by
  rw [hs.detour_eq_sub room forward feasible dropped]
  exact (hs.added_bounds room forward feasible dropped).1

/-- **Where there is room, an insertion gains its detour less the penalty it saves.** -/
theorem Consistent.gain_eq : gain m i = i.detour - m.dropPenalty i.node := by
  have bounds := hs.detour_bounds room forward feasible dropped
  have enough := (hs.added_bounds room forward feasible dropped).2
  have penalty := m.dropPenalty_nonneg i.node
  exact room.cost.within (by omega) (by omega)

end Room

/-- **Nothing is overlooked where a dropped delivery might go.** Its insertions on a trip are listed
by their places, which are those where an attempt to insert it is accepted; each tells by how much
the way between the two neighbours of its place gets longer, the depot standing in for a neighbour
that is missing. There is a best insertion unless it is accepted nowhere, and that is the first of
the smallest detour, by vehicle and then by position. -/
theorem Consistent.insertions_exhaustive (hs : s.Consistent m) (dropped : node ∈ s.dropped) :
    (∀ vehicle < s.trips.length,
      s.insertionsOf m node vehicle = .ok (s.insertions m node vehicle) ∧
      ((s.insertions m node vehicle).map Insertion.position).Pairwise (· < ·) ∧
      (∀ position, position ∈ (s.insertions m node vehicle).map Insertion.position ↔
        ∃ s', s.insert m node vehicle position = .ok s') ∧
      ∀ i ∈ s.insertions m node vehicle, i.node = node ∧ i.vehicle = vehicle ∧
        i.detour = m.keep (m.transit (stopBefore (s.nodes vehicle) i.position) node +
          m.transit node (stopAt (s.nodes vehicle) i.position) -
          m.transit (stopBefore (s.nodes vehicle) i.position)
            (stopAt (s.nodes vehicle) i.position))) ∧
    s.bestInsertionOf m node = .ok (s.bestInsertion m node) ∧
    (s.bestInsertion m node = none ↔
      ∀ vehicle position s', s.insert m node vehicle position ≠ .ok s') ∧
    ∀ i, s.bestInsertion m node = some i ↔ i.node = node ∧ s.Best m i := by
  have known : node < m.numNodes :=
    (m.mem_deliveries.mp (hs.mem_deliveries_of_mem_dropped dropped)).2
  refine ⟨fun vehicle hv => ⟨?told, ?ascending, fun position => ?places, fun i hi => ?detour⟩,
    ?asked, ?nowhere, fun i => hs.bestInsertion_eq_some_iff⟩
  case told => rw [insertionsOf, if_neg (by omega), if_neg (by omega)]
  case ascending => exact List.pairwise_map.mpr (pairwise_insertions m s node vehicle)
  case places =>
    rw [List.mem_map]
    constructor
    · rintro ⟨i, hi, rfl⟩
      obtain ⟨feasible, rfl, rfl⟩ := hs.mem_insertions_iff.mp hi
      exact feasible.accepted
    · rintro ⟨s', accepted⟩
      exact ⟨_, hs.mem_insertions_iff.mpr ⟨feasible_of_insert accepted, rfl, rfl⟩, rfl⟩
  case detour =>
    obtain ⟨feasible, rfl, rfl⟩ := hs.mem_insertions_iff.mp hi
    exact ⟨rfl, rfl, feasible.detour_eq⟩
  case asked =>
    rw [bestInsertionOf, if_neg (by omega : ¬ m.numNodes ≤ node)]
    split
    · next idle =>
      -- without vehicles there is nothing to choose from
      have none : s.vehicles = [] := by rw [vehicles, List.isEmpty_iff.mp idle]; rfl
      rw [bestInsertion, none]
      rfl
    · rfl
  case nowhere =>
    rw [hs.bestInsertion_eq_none_iff]
    constructor
    · intro none vehicle position s' accepted
      exact none _ (feasible_of_insert accepted) rfl
    · rintro refused i feasible rfl
      obtain ⟨s', accepted⟩ := feasible.accepted
      exact refused _ _ _ accepted

/-- The first delivery of the small problem is served, and the second one is not. -/
def pairBegun : Solution :=
  ⟨[⟨[1], ⟨[20], 30, 1⟩, 30⟩, Trip.empty], [none, some 0, none]⟩

theorem reachable_pairBegun : Reachable pairModel pairBegun :=
  .step .empty (@Step.insert pairModel _ 1 0 0 (by decide))

/-- Before and behind the first delivery the second one makes the same detour, which is smaller than
that of a trip of its own, and so the place in front is the best one. -/
theorem insertions_exhaustive_pairBegun : pairBegun.Consistent pairModel ∧ 2 ∈ pairBegun.dropped ∧
    pairBegun.insertionsOf pairModel 2 0 = .ok [⟨2, 0, 0, 25⟩, ⟨2, 0, 1, 25⟩] ∧
    pairBegun.insertionsOf pairModel 2 1 = .ok [⟨2, 1, 0, 50⟩] ∧
    (∃ s', pairBegun.insert pairModel 2 0 1 = .ok s') ∧
    25 = pairModel.keep (pairModel.transit 1 2 + pairModel.transit 2 depot -
      pairModel.transit 1 depot) ∧
    pairBegun.bestInsertionOf pairModel 2 = .ok (some ⟨2, 0, 0, 25⟩) ∧
    pairBegun.Best pairModel ⟨2, 0, 0, 25⟩ := by
  have hs := reachable_pairBegun.consistent
  have dropped : 2 ∈ pairBegun.dropped := by decide
  obtain ⟨trips, asked, -, best⟩ := hs.insertions_exhaustive dropped
  obtain ⟨told, -, places, detours⟩ := trips 0 (by decide)
  obtain ⟨told', -⟩ := trips 1 (by decide)
  have behind : ⟨2, 0, 1, 25⟩ ∈ pairBegun.insertions pairModel 2 0 := by decide
  exact ⟨hs, dropped, told, told', (places 1).mp (List.mem_map_of_mem behind),
    (detours _ behind).2.2, asked, ((best _).mp rfl).2⟩

end Solution

end DeliveryRouting
