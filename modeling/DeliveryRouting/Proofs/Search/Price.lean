import DeliveryRouting.Proofs.Arithmetic.Doubles
import DeliveryRouting.Proofs.Search.Objective
import DeliveryRouting.Proofs.Search.Replacement

/-! # The price of a move

A move is priced by the old solution, before it is made: by the new and the old trips of its
vehicles, the stop it drops and the delivery it takes in. What it changes is told by the new
solution, whose costs and dropped deliveries are what its trips have left behind one after the
other. Both are the same (`Solution.Consistent.price_is_change`), because a move drops and takes in
just what it says. Where whole numbers wrap around they are the same as far as they are kept.

The price is summed up in doubles, and the objective in whole numbers. As long as no arc carries a
penalty the sum is the same one (`Move.delta_eq`), and it is exact if all its terms together stay
below `2 ^ 53` (`Move.priceBy_exact`). -/

namespace DeliveryRouting

namespace Move

section Arithmetic

variable {R : Type} [Add R] [Sub R] (zero : R) (transit : Nat → Nat → R) (penalty : Nat → R)

/-- The transit along a trip. -/
def tripBy (nodes : List Nat) : R :=
  (tripArcs nodes).foldl (fun sum arc => sum + transit arc.1 arc.2) zero

/-- What the new trips of a move have more than the old ones. -/
def tripsBy (s : Solution) (move : Move) : R :=
  (move.changes s).foldl (fun sum change => sum +
    (tripBy zero transit change.nodes - tripBy zero transit (s.nodes change.vehicle))) zero

/-- The price of a move, in an arithmetic where `transit` is that of an arc and `penalty` the one of
a delivery that is dropped. -/
def priceBy (s : Solution) (move : Move) : R :=
  let trips := move.tripsBy zero transit s
  let dropping := match move.removed? s with
    | some node => trips + penalty node
    | none => trips
  match move.inserted? with
  | some node => dropping - penalty node
  | none => dropping

end Arithmetic

variable {m : Model} {s : Solution} {move : Move} {g : Guidance}

theorem delta_eq_priceBy : move.delta m g s =
    move.priceBy 0.0 (g.arcCost m) (fun node => Float.ofInt (m.dropPenalty node)) s := rfl

theorem arcCost_of_quiet (quiet : ∀ i j, g.count i j = 0) (finite : g.lambda.isFinite = true)
    (i j : Nat) : g.arcCost m i j = Float.ofInt (m.transit i j) := by
  simp only [Guidance.arcCost, quiet]
  split
  · rfl
  · exact Doubles.ofInt_add_mul_zero finite _

/-- **Where no arc carries a penalty, a move is priced by transits and penalties alone.** -/
theorem delta_eq (quiet : ∀ i j, g.count i j = 0) (finite : g.lambda.isFinite = true) :
    move.delta m g s = move.priceBy 0.0 (fun i j => Float.ofInt (m.transit i j))
      (fun node => Float.ofInt (m.dropPenalty node)) s := by
  have same : g.arcCost m = fun i j => Float.ofInt (m.transit i j) := by
    funext i j
    exact arcCost_of_quiet quiet finite i j
  rw [delta_eq_priceBy, same]

/-! ### Exact prices -/

/-- The sizes of all terms of the price of a move together. -/
def size (m : Model) (s : Solution) (move : Move) : Nat :=
  let trip nodes := tripBy 0 (fun i j => (m.transit i j).natAbs) nodes
  (move.changes s).foldl (fun sum change =>
      sum + (trip change.nodes + trip (s.nodes change.vehicle))) 0 +
    ((move.removed? s).toList.map fun node => (m.dropPenalty node).natAbs).sum +
    (move.inserted?.toList.map fun node => (m.dropPenalty node).natAbs).sum

theorem tripBy_exact (m : Model) (nodes : List Nat) :
    Doubles.Exact (tripBy 0.0 (fun i j => Float.ofInt (m.transit i j)) nodes)
      (tripBy 0 m.transit nodes) (tripBy 0 (fun i j => (m.transit i j).natAbs) nodes) := by
  have sum := Doubles.Exact.foldl (fun arc : Nat × Nat => .ofInt (m.transit arc.1 arc.2)) .zero
    (tripArcs nodes)
  unfold tripBy
  exact sum

/-- **The price is exact**, as long as its terms are small. -/
theorem priceBy_exact (m : Model) (s : Solution) (move : Move) :
    Doubles.Exact (move.priceBy 0.0 (fun i j => Float.ofInt (m.transit i j))
        (fun node => Float.ofInt (m.dropPenalty node)) s)
      (move.priceBy 0 m.transit m.dropPenalty s) (move.size m s) := by
  have trips := Doubles.Exact.foldl (fun change : Change => (tripBy_exact m change.nodes).sub
    (tripBy_exact m (s.nodes change.vehicle))) .zero (move.changes s)
  unfold priceBy size tripsBy
  cases move.removed? s <;> cases move.inserted?
  · exact trips
  · exact trips.sub (.ofInt _)
  · exact trips.add (.ofInt _)
  · exact (trips.add (.ofInt _)).sub (.ofInt _)

/-! ### Prices in whole numbers -/

/-- The transit that a move adds to its trips, with the penalty that it incurs and less the one that
it saves. -/
def price (m : Model) (s : Solution) (move : Move) : Int :=
  ((move.changes s).map fun change =>
      tripCost m change.nodes - tripCost m (s.nodes change.vehicle)).sum +
    ((move.removed? s).toList.map m.dropPenalty).sum -
    (move.inserted?.toList.map m.dropPenalty).sum

theorem foldl_add_eq {α : Type} (f : α → Int) (xs : List α) (start : Int) :
    xs.foldl (fun sum x => sum + f x) start = start + (xs.map f).sum := by
  induction xs generalizing start with
  | nil => simp
  | cons x xs ih => rw [List.foldl_cons, ih, List.map_cons, List.sum_cons, Int.add_assoc]

theorem keep_tripBy (m : Model) (nodes : List Nat) :
    m.keep (tripBy 0 m.transit nodes) = tripCost m nodes := by
  have sum := foldl_add_eq (fun arc : Nat × Nat => m.transit arc.1 arc.2) (tripArcs nodes) 0
  rw [Int.zero_add] at sum
  exact congrArg m.keep sum

theorem priceBy_eq_sum : move.priceBy 0 m.transit m.dropPenalty s =
    ((move.changes s).map fun change =>
        tripBy 0 m.transit change.nodes - tripBy 0 m.transit (s.nodes change.vehicle)).sum +
      ((move.removed? s).toList.map m.dropPenalty).sum -
      (move.inserted?.toList.map m.dropPenalty).sum := by
  simp only [priceBy, tripsBy, foldl_add_eq, Int.zero_add]
  cases move.removed? s <;> cases move.inserted? <;> simp

theorem keep_price (m : Model) (s : Solution) (move : Move) :
    m.keep (move.price m s) = m.keep (move.priceBy 0 m.transit m.dropPenalty s) := by
  have change (c : Change) :
      m.keep (tripCost m c.nodes - tripCost m (s.nodes c.vehicle)) =
        m.keep (tripBy 0 m.transit c.nodes - tripBy 0 m.transit (s.nodes c.vehicle)) := by
    rw [← keep_tripBy, ← keep_tripBy, Model.keep_sub_keep, Model.keep_keep_sub]
  have trips : m.keep ((move.changes s).map fun c =>
        tripCost m c.nodes - tripCost m (s.nodes c.vehicle)).sum =
      m.keep ((move.changes s).map fun c =>
        tripBy 0 m.transit c.nodes - tripBy 0 m.transit (s.nodes c.vehicle)).sum :=
    calc m.keep ((move.changes s).map fun c =>
          tripCost m c.nodes - tripCost m (s.nodes c.vehicle)).sum
        = m.keep ((move.changes s).map fun c =>
            m.keep (tripCost m c.nodes - tripCost m (s.nodes c.vehicle))).sum :=
          (Width.keep_sum_map (fun c : Change => _) (move.changes s)).symm
      _ = m.keep ((move.changes s).map fun c =>
            m.keep (tripBy 0 m.transit c.nodes - tripBy 0 m.transit (s.nodes c.vehicle))).sum := by
          rw [List.map_congr_left fun c _ => change c]
      _ = _ := Width.keep_sum_map (fun c : Change => _) (move.changes s)
  rw [price, priceBy_eq_sum, Int.add_sub_assoc, Int.add_sub_assoc, ← Model.keep_keep_add, trips,
    Model.keep_keep_add]

theorem le_foldl_add {α : Type} (f : α → Nat) {xs : List α} {x : α} (hx : x ∈ xs) (start : Nat) :
    f x ≤ xs.foldl (fun sum x => sum + f x) start := by
  have mono (xs : List α) (start : Nat) : start ≤ xs.foldl (fun sum x => sum + f x) start := by
    induction xs generalizing start with
    | nil => exact Nat.le_refl _
    | cons y ys ih => exact Nat.le_trans (Nat.le_add_right _ _) (ih _)
  induction xs generalizing start with
  | nil => cases hx
  | cons y ys ih =>
    rcases List.mem_cons.mp hx with rfl | hx
    · exact Nat.le_trans (Nat.le_add_left _ _) (mono ys _)
    · exact ih hx _

theorem tripCost_eq_tripBy {nodes : List Nat}
    (small : tripBy 0 (fun i j => (m.transit i j).natAbs) nodes < 2 ^ 53) :
    tripCost m nodes = tripBy 0 m.transit nodes := by
  have bound := (tripBy_exact m nodes).bound
  rw [← keep_tripBy]
  exact Width.holds_of_natAbs_lt (by omega)

theorem price_eq_priceBy (small : move.size m s < 2 ^ 53) :
    move.price m s = move.priceBy 0 m.transit m.dropPenalty s := by
  have same : (move.changes s).map (fun c => tripCost m c.nodes - tripCost m (s.nodes c.vehicle)) =
      (move.changes s).map fun c =>
        tripBy 0 m.transit c.nodes - tripBy 0 m.transit (s.nodes c.vehicle) := by
    refine List.map_congr_left fun c hc => ?_
    have both := le_foldl_add (fun c : Change => tripBy 0 (fun i j => (m.transit i j).natAbs) c.nodes +
      tripBy 0 (fun i j => (m.transit i j).natAbs) (s.nodes c.vehicle)) hc 0
    unfold size at small
    dsimp only at small both
    rw [tripCost_eq_tripBy (by omega), tripCost_eq_tripBy (by omega)]
  rw [price, priceBy_eq_sum, same]

/-- Where no arc carries a penalty and all terms together are small, the price is the whole number
that they sum up to. -/
theorem delta_eq_ofInt (quiet : ∀ i j, g.count i j = 0) (finite : g.lambda.isFinite = true)
    (small : move.size m s < 2 ^ 53) : move.delta m g s = Float.ofInt (move.price m s) := by
  rw [delta_eq quiet finite, (priceBy_exact m s move).eq_ofInt small, price_eq_priceBy small]

end Move

/-! ### The change of the objective -/

namespace Solution

variable {m : Model} {s : Solution} {move : Move} {operator : Operator}
  {changes : List (Change × Schedule)}

theorem trips_install_perm (distinct : (changes.map (·.1.vehicle)).Nodup)
    (exist : ∀ c ∈ changes, c.1.vehicle < s.trips.length) :
    ((changes.map fun c => s.trip c.1.vehicle) ++ (s.install m changes).trips).Perm
      ((changes.map fun c => ⟨c.1.nodes, c.2, tripCost m c.1.nodes⟩) ++ s.trips) := by
  induction changes generalizing s with
  | nil => exact .refl _
  | cons c changes ih =>
    rw [List.map_cons, List.nodup_cons] at distinct
    rw [List.forall_mem_cons] at exist
    have others : (changes.map fun d => (s.replaceTrip m c.1.vehicle c.1.nodes c.2).trip
        d.1.vehicle) = changes.map fun d => s.trip d.1.vehicle :=
      List.map_congr_left fun d hd => trip_replaceTrip_of_ne fun h =>
        distinct.1 (h ▸ List.mem_map_of_mem hd)
    have rest := ih (s := s.replaceTrip m c.1.vehicle c.1.nodes c.2) distinct.2 fun d hd => by
      rw [length_trips_replaceTrip]
      exact exist.2 d hd
    rw [others] at rest
    rw [install_cons, List.map_cons, List.map_cons]
    calc (s.trip c.1.vehicle :: ((changes.map fun d => s.trip d.1.vehicle) ++ _)).Perm
          (s.trip c.1.vehicle :: (_ ++ (s.replaceTrip m c.1.vehicle c.1.nodes c.2).trips)) :=
          .cons _ rest
      _ |>.Perm (_ ++ s.trip c.1.vehicle :: (s.replaceTrip m c.1.vehicle c.1.nodes c.2).trips) :=
          List.perm_middle.symm
      _ |>.Perm (_ ++ ⟨c.1.nodes, c.2, tripCost m c.1.nodes⟩ :: s.trips) :=
          (trips_replaceTrip_perm exist.1).append_left _
      _ |>.Perm (⟨c.1.nodes, c.2, tripCost m c.1.nodes⟩ :: (_ ++ s.trips)) := List.perm_middle

theorem sum_map_sub {α : Type} (f f' : α → Int) (xs : List α) :
    (xs.map fun x => f x - f' x).sum = (xs.map f).sum - (xs.map f').sum := by
  induction xs with
  | nil => rfl
  | cons x xs ih =>
    simp only [List.map_cons, List.sum_cons, ih]
    omega

section Moves

variable (hs : s.Consistent m) (generated : move ∈ operator.moves m s)
  (runs : move.schedules? m s = some changes)
include hs generated runs

theorem Consistent.sum_costs_install : ((s.install m changes).trips.map Trip.cost).sum =
    (s.trips.map Trip.cost).sum + ((move.changes s).map fun change =>
      tripCost m change.nodes - tripCost m (s.nodes change.vehicle)).sum := by
  have h := hs.redistributes generated runs
  have old : (changes.map fun c => s.trip c.1.vehicle).map Trip.cost =
      changes.map fun c => tripCost m (s.nodes c.1.vehicle) := by
    rw [List.map_map]
    exact List.map_congr_left fun c _ => hs.cost_trip c.1.vehicle
  have costs : (changes.map fun c => tripCost m (s.nodes c.1.vehicle)).sum +
      ((s.install m changes).trips.map Trip.cost).sum =
        (changes.map fun c => tripCost m c.1.nodes).sum + (s.trips.map Trip.cost).sum := by
    have trips := ((trips_install_perm (m := m) h.distinct h.exist).map Trip.cost).sum_eq
    rw [List.map_append, List.sum_append, old, List.map_append, List.sum_append,
      List.map_map] at trips
    exact trips
  have added : ((move.changes s).map fun change =>
      tripCost m change.nodes - tripCost m (s.nodes change.vehicle)).sum =
        (changes.map fun c => tripCost m c.1.nodes).sum -
          (changes.map fun c => tripCost m (s.nodes c.1.vehicle)).sum := by
    rw [← (Move.schedules?_eq_some_iff.mp runs).1, List.map_map]
    exact sum_map_sub _ _ changes
  rw [added]
  omega

theorem Consistent.stops_install_perm :
    ((s.install m changes).stops ++ (move.removed? s).toList).Perm
      (s.stops ++ move.inserted?.toList) := by
  have h := hs.redistributes generated runs
  have conserved := (Operator.candidate_of_mem_moves generated).changes_perm hs
  have moved : (move.updated.flatMap s.nodes ++ (s.install m changes).stops).Perm
      ((move.changes s).flatMap Change.nodes ++ s.stops) := by
    have trips := (trips_install_perm (m := m) h.distinct h.exist).flatMap_right Trip.nodes
    rw [List.flatMap_append, List.flatMap_append, List.flatMap_map, List.flatMap_map] at trips
    rw [← map_vehicle_of_schedules? runs, ← flatMap_nodes_of_schedules? runs, List.flatMap_map]
    exact trips
  refine (List.perm_append_left_iff (move.updated.flatMap s.nodes)).mp ?_
  calc (move.updated.flatMap s.nodes ++ ((s.install m changes).stops ++ _)).Perm
        (((move.changes s).flatMap Change.nodes ++ s.stops) ++ (move.removed? s).toList) := by
        rw [← List.append_assoc]; exact moved.append_right _
    _ |>.Perm (s.stops ++ ((move.changes s).flatMap Change.nodes ++ (move.removed? s).toList)) := by
        rw [List.append_assoc]; exact List.perm_append_comm_assoc _ _ _
    _ |>.Perm (s.stops ++ (move.updated.flatMap s.nodes ++ move.inserted?.toList)) :=
        conserved.append_left _
    _ |>.Perm (move.updated.flatMap s.nodes ++ (s.stops ++ move.inserted?.toList)) :=
        List.perm_append_comm_assoc _ _ _

theorem Consistent.sum_penalties_install : ((s.install m changes).dropped.map m.dropPenalty).sum =
    (s.dropped.map m.dropPenalty).sum + ((move.removed? s).toList.map m.dropPenalty).sum -
      (move.inserted?.toList.map m.dropPenalty).sum := by
  have stops := ((hs.stops_install_perm generated runs).map m.dropPenalty).sum_eq
  rw [List.map_append, List.sum_append, List.map_append, List.sum_append] at stops
  have before := hs.sum_penalties
  have after := (hs.install (hs.redistributes generated runs)).sum_penalties
  omega

theorem Consistent.totalCost_install :
    (s.install m changes).totalCost m = m.keep (s.totalCost m + move.price m s) := by
  have changed : (s.install m changes).fullCost m = s.fullCost m + move.price m s := by
    rw [fullCost, fullCost, hs.sum_costs_install generated runs,
      hs.sum_penalties_install generated runs, Move.price]
    omega
  rw [totalCost_eq_keep, totalCost_eq_keep, changed, Model.keep_keep_add]

end Moves

/-- **The price of a move is what it changes the objective by**, as far as costs are kept. The costs of
its new trips less those of the old ones, with the penalty of the stop that it drops and less the one
of the delivery that it takes in, are what the objective grows by when it is made; and where no arc
carries a penalty their terms are what the search sums up in doubles, exactly if they are small. All
other trips stay as they are, and so does the vehicle of every node that neither stood on a changed
trip nor is taken in. -/
theorem Consistent.price_is_change (hs : s.Consistent m)
    (generated : move ∈ operator.moves m s) (runs : move.schedules? m s = some changes)
    (delta : Float) {s' : Solution} (after : EvaluatedMove.apply m s ⟨changes, delta⟩ = s') :
    s'.totalCost m = m.keep (s.totalCost m + move.price m s) ∧
    m.keep (move.price m s) = m.keep (move.priceBy 0 m.transit m.dropPenalty s) ∧
    (∀ g : Guidance, (∀ i j, g.count i j = 0) → g.lambda.isFinite = true →
      move.delta m g s = move.priceBy 0.0 (fun i j => Float.ofInt (m.transit i j))
        (fun node => Float.ofInt (m.dropPenalty node)) s ∧
      (move.size m s < 2 ^ 53 → move.delta m g s = Float.ofInt (move.price m s))) ∧
    (∀ vehicle, vehicle ∉ move.updated → s'.trip vehicle = s.trip vehicle) ∧
    ∀ node, node ∉ move.updated.flatMap s.nodes → node ∉ move.inserted? →
      s'.vehicleOf node = s.vehicleOf node := by
  have h := hs.redistributes generated runs
  have vehicles := map_vehicle_of_schedules? runs
  subst after
  rw [apply_eq_install]
  refine ⟨hs.totalCost_install generated runs, Move.keep_price m s move,
    fun g quiet finite => ⟨Move.delta_eq quiet finite, Move.delta_eq_ofInt quiet finite⟩,
    fun vehicle other => trip_install_of_notMem (by rwa [vehicles]), fun node old new => ?_⟩
  refine hs.vehicleOf_install_of_notMem h (fun v hv hnode => ?_) fun hnode => ?_
  · exact old (List.mem_flatMap.mpr ⟨v, vehicles ▸ hv, hnode⟩)
  · have conserved := (Operator.candidate_of_mem_moves generated).changes_perm hs
    rw [flatMap_nodes_of_schedules? runs] at hnode
    have origin := conserved.subset (List.mem_append_left _ hnode)
    rcases List.mem_append.mp origin with hold | hnew
    · exact old hold
    · exact new (Option.mem_toList.mp hnew)

/-- One trip less saves the way to the depot and back. -/
theorem price_is_change_pairApart : pairApart.Consistent pairModel ∧
    .relocate 1 0 0 1 ∈ Operator.relocate.moves pairModel pairApart ∧
    (Move.relocate 1 0 0 1).schedules? pairModel pairApart =
      some [(⟨1, []⟩, Schedule.empty), (⟨0, [1, 2]⟩, ⟨[20, 100], 120, 2⟩)] ∧
    pairTour.totalCost pairModel = pairApart.totalCost pairModel - 25 ∧
    (∀ i j, (Guidance.start 0.1).count i j = 0) ∧ (Guidance.start 0.1).lambda.isFinite = true ∧
    (Move.relocate 1 0 0 1).size pairModel pairApart < 2 ^ 53 ∧
    (Move.relocate 1 0 0 1).delta pairModel (Guidance.start 0.1) pairApart = Float.ofInt (-25) ∧
    0 ∉ (Move.relocate 1 0 0 1).updated.flatMap pairApart.nodes ∧
    pairTour.vehicleOf 0 = pairApart.vehicleOf 0 := by
  have hs := reachable_pairApart.consistent
  have generated : .relocate 1 0 0 1 ∈ Operator.relocate.moves pairModel pairApart := by decide
  have runs : (Move.relocate 1 0 0 1).schedules? pairModel pairApart =
      some [(⟨1, []⟩, Schedule.empty), (⟨0, [1, 2]⟩, ⟨[20, 100], 120, 2⟩)] := rfl
  have after : EvaluatedMove.apply pairModel pairApart
      ⟨[(⟨1, []⟩, Schedule.empty), (⟨0, [1, 2]⟩, ⟨[20, 100], 120, 2⟩)], -25⟩ = pairTour := rfl
  obtain ⟨cost, -, summed, -, others⟩ := hs.price_is_change generated runs (-25) after
  have quiet := Guidance.count_start 0.1
  have finite : (Guidance.start 0.1).lambda.isFinite = true := rfl
  have small : (Move.relocate 1 0 0 1).size pairModel pairApart < 2 ^ 53 := by decide
  have untouched : 0 ∉ (Move.relocate 1 0 0 1).updated.flatMap pairApart.nodes := by decide
  exact ⟨hs, generated, runs, cost, quiet, finite, small, (summed _ quiet finite).2 small,
    untouched, others 0 untouched (by simp [Move.inserted?])⟩

end Solution

end DeliveryRouting
