import DeliveryRouting.Proofs.Search.Partition
import DeliveryRouting.Proofs.Trip.Alike
import DeliveryRouting.Proofs.Trip.Room

/-! # Insertions and moves in models that look alike

A consistent solution stops at deliveries only, and so do the trips that an insertion or a generated
move would give it. All that construction and moves ask of a model is therefore the same in models
that look alike: which insertions are feasible and what they cost (`Model.Alike.bestInsertion`),
which moves are generated (`Model.Alike.moves`), what they are priced at and whether they can be
made (`Model.Alike.evaluate`), and what a solution costs (`Model.Alike.totalCost`). -/

namespace DeliveryRouting

theorem firstMin_congr {α : Type} {key key' : α → Int} {xs : List α}
    (same : ∀ x ∈ xs, key x = key' x) : firstMin key xs = firstMin key' xs := by
  cases xs with
  | nil => rfl
  | cons b xs =>
    induction xs generalizing b with
    | nil => rfl
    | cons x xs ih =>
      rw [List.forall_mem_cons, List.forall_mem_cons] at same
      obtain ⟨hb, hx, hxs⟩ := same
      rw [firstMin_cons_cons, firstMin_cons_cons, hb, hx]
      refine ih _ (List.forall_mem_cons.mpr ⟨?_, hxs⟩)
      split
      · exact hx
      · exact hb

/-! ### Deliveries of a consistent solution -/

namespace Solution.Consistent

variable {m : Model} {s : Solution} {node vehicle : Nat} (hs : s.Consistent m)
include hs

theorem deliveries_splice (hnode : node ∈ m.deliveries) (vehicle position : Nat) :
    ∀ x ∈ splice (s.nodes vehicle) position [node], x ∈ m.deliveries := by
  intro x hx
  rcases List.mem_cons.mp (splice_perm.mem_iff.mp hx) with rfl | hx
  · exact hnode
  · exact hs.mem_deliveries_of_mem_nodes hx

end Solution.Consistent

namespace Model

theorem lt_numNodes_of_deliveries {m : Model} {nodes : List Nat}
    (stops : ∀ node ∈ nodes, node ∈ m.deliveries) : ∀ node ∈ nodes, node < m.numNodes :=
  fun node hn => (m.mem_deliveries.mp (stops node hn)).2

namespace Alike

open Solution

variable {m m' : Model} {s : Solution} {node vehicle position : Nat} {nodes : List Nat}
  {g : Guidance} {move : Move} {operator : Operator} (h : m.Alike m') (hs : s.Consistent m)
include h

/-! ### Insertions -/

section Insertions

include hs

theorem insert (hnode : node ∈ m.deliveries) (vehicle position : Nat) :
    s.insert m node vehicle position = s.insert m' node vehicle position := by
  have stops := hs.deliveries_splice hnode vehicle position
  simp only [Solution.insert, reroute, h.compute stops, h.replaceTrip (lt_numNodes_of_deliveries stops)]

theorem insertionAt? (hnode : node ∈ m.deliveries) (vehicle position : Nat) :
    s.insertionAt? m node vehicle position = s.insertionAt? m' node vehicle position := by
  have stops := hs.deliveries_splice hnode vehicle position
  simp only [Solution.insertionAt?, h.compute stops, h.tripCost (lt_numNodes_of_deliveries stops),
    h.keep]

theorem insertions (hnode : node ∈ m.deliveries) (vehicle : Nat) :
    s.insertions m node vehicle = s.insertions m' node vehicle := by
  have places : s.insertionAt? m node vehicle = s.insertionAt? m' node vehicle :=
    funext (h.insertionAt? hs hnode vehicle)
  rw [Solution.insertions, Solution.insertions, h.demand node hnode, h.capacity, h.keep, places]

theorem bestInsertion (hnode : node ∈ m.deliveries) :
    s.bestInsertion m node = s.bestInsertion m' node := by
  have vehicles : s.insertions m node = s.insertions m' node := funext (h.insertions hs hnode)
  rw [Solution.bestInsertion, Solution.bestInsertion, vehicles]

theorem cheapestInsertion (stops : ∀ node ∈ nodes, node ∈ m.deliveries) :
    s.cheapestInsertion m nodes = s.cheapestInsertion m' nodes := by
  have candidates : nodes.filterMap (s.bestInsertion m) = nodes.filterMap (s.bestInsertion m') :=
    List.filterMap_congr fun node hn => h.bestInsertion hs (stops node hn)
  rw [Solution.cheapestInsertion, Solution.cheapestInsertion, ← candidates]
  refine firstMin_congr fun i hi => ?_
  obtain ⟨node, hn, hi⟩ := List.mem_filterMap.mp hi
  rw [gain, gain, node_of_bestInsertion hi, h.dropPenalty node (stops node hn), h.keep]

theorem extend? : s.extend? m = s.extend? m' := by
  have dropped : ∀ node ∈ s.dropped, node ∈ m.deliveries :=
    fun node hn => hs.mem_deliveries_of_mem_dropped hn
  unfold Solution.extend?
  rw [← h.cheapestInsertion hs dropped]
  cases hi : s.cheapestInsertion m s.dropped with
  | none => rfl
  | some i =>
    have hnode := dropped _ (node_mem_of_cheapestInsertion hi)
    have lower : gain m i = gain m' i := by
      rw [gain, gain, h.dropPenalty i.node hnode, h.keep]
    dsimp only
    rw [lower, h.insert hs hnode]

theorem extend (steps : Nat) : Solution.extend m steps s = Solution.extend m' steps s := by
  induction steps generalizing s with
  | zero => rfl
  | succ steps ih =>
    rw [Solution.extend, Solution.extend, ← h.extend? hs]
    cases hs' : s.extend? m with
    | none => rfl
    | some s' => exact ih ((step_of_extend? hs').consistent hs)

end Insertions

theorem construct : Solution.construct m = Solution.construct m' := by
  have start : Solution.empty m = Solution.empty m' := by
    rw [Solution.empty, Solution.empty, h.numVehicles, h.numNodes]
  rw [Solution.construct, Solution.construct, h.extend (consistent_empty m), start, h.numNodes]

/-! ### Generated moves -/

theorem hasRoom (s : Solution) (vehicle : Nat) (extra : Int) :
    Operator.hasRoom m s vehicle extra = Operator.hasRoom m' s vehicle extra := by
  rw [Operator.hasRoom, Operator.hasRoom, h.capacity, h.keep]

section Moves

include hs

theorem targets (origin start length : Nat) :
    Operator.targets m s origin start length = Operator.targets m' s origin start length := by
  have carried : (segment (s.nodes origin) start length).map m.demand =
      (segment (s.nodes origin) start length).map m'.demand := by
    refine List.map_congr_left fun node hn => h.demand node ?_
    exact hs.mem_deliveries_of_mem_nodes (List.mem_of_mem_drop (List.mem_of_mem_take hn))
  simp only [Operator.targets, carried, h.hasRoom]

theorem crossSwaps (first second : Nat) :
    Operator.crossSwaps m s first second = Operator.crossSwaps m' s first second := by
  unfold Operator.crossSwaps
  refine List.flatMap_congr fun (x, position) hx => List.filterMap_congr fun (y, target) hy => ?_
  have here : x ∈ m.deliveries := hs.mem_deliveries_of_mem_nodes (List.fst_mem_of_mem_zipIdx hx)
  have there : y ∈ m.deliveries := hs.mem_deliveries_of_mem_nodes (List.fst_mem_of_mem_zipIdx hy)
  simp only [h.demand x here, h.demand y there, h.hasRoom]

theorem dropInsertions : Operator.insertions m s = Operator.insertions m' s := by
  unfold Operator.insertions
  refine List.flatMap_congr fun node hn => ?_
  simp only [h.demand node (hs.mem_deliveries_of_mem_dropped hn), h.hasRoom]

theorem exchanges : Operator.exchanges m s = Operator.exchanges m' s := by
  unfold Operator.exchanges
  refine List.flatMap_congr fun node hn => List.flatMap_congr fun vehicle _ =>
    List.filterMap_congr fun (served, position) hserved => ?_
  have there : served ∈ m.deliveries :=
    hs.mem_deliveries_of_mem_nodes (List.fst_mem_of_mem_zipIdx hserved)
  simp only [h.demand node (hs.mem_deliveries_of_mem_dropped hn), h.demand served there, h.hasRoom]

/-- **The same moves are generated.** -/
theorem moves (operator : Operator) : operator.moves m s = operator.moves m' s := by
  cases operator with
  | relocate => simp only [Operator.moves, Operator.relocations, h.targets hs]
  | orOpt => simp only [Operator.moves, Operator.runRelocations, h.targets hs]
  | swap =>
    have cross : Operator.crossSwaps m s = Operator.crossSwaps m' s :=
      funext fun first => funext (h.crossSwaps hs first)
    simp only [Operator.moves, Operator.swaps, cross]
  | twoOpt => rfl
  | insertDropped => exact h.dropInsertions hs
  | exchangeDropped => exact h.exchanges hs

end Moves

/-! ### Prices -/

theorem guidedCost (g : Guidance) (known : ∀ node ∈ nodes, node < m.numNodes) :
    g.tripCost m nodes = g.tripCost m' nodes := by
  unfold Guidance.tripCost
  refine List.foldl_ext _ _ _ fun sum (i, j) harc => ?_
  obtain ⟨hi, hj⟩ := lt_of_mem_tripArcs known harc
  simp only [Guidance.arcCost, h.transit i j hi hj]

theorem apply {e : EvaluatedMove} (s : Solution)
    (computed : ∀ c ∈ e.changes, Schedule.compute m c.1.vehicle c.1.nodes = .ok c.2) :
    e.apply m s = e.apply m' s := by
  refine List.foldl_ext _ _ _ fun s c hc => ?_
  exact h.replaceTrip (Schedule.lt_numNodes_of_compute (computed c hc)) s c.1.vehicle c.2

section Prices

include hs

theorem delta (g : Guidance) (generated : move ∈ operator.moves m s) :
    move.delta m g s = move.delta m' g s := by
  obtain ⟨changes, removed, inserted⟩ := (Operator.candidate_of_mem_moves generated).deliveries hs
  have trips : (move.changes s).foldl (fun sum change =>
        sum + (g.tripCost m change.nodes - g.tripCost m (s.nodes change.vehicle))) 0.0 =
      (move.changes s).foldl (fun sum change =>
        sum + (g.tripCost m' change.nodes - g.tripCost m' (s.nodes change.vehicle))) 0.0 := by
    refine List.foldl_ext _ _ _ fun sum change hc => ?_
    rw [h.guidedCost g (lt_numNodes_of_deliveries (changes change hc)),
      h.guidedCost g fun node => hs.lt_numNodes_of_mem]
  unfold Move.delta
  rw [trips]
  cases hremoved : move.removed? s <;> cases hinserted : move.inserted? <;> dsimp only
  case none.some node => rw [h.dropPenalty node (inserted node hinserted)]
  case some.none node => rw [h.dropPenalty node (removed node hremoved)]
  case some.some out into =>
    rw [h.dropPenalty out (removed out hremoved), h.dropPenalty into (inserted into hinserted)]

theorem schedules? (generated : move ∈ operator.moves m s) :
    move.schedules? m s = move.schedules? m' s := by
  obtain ⟨deliveries, -⟩ := (Operator.candidate_of_mem_moves generated).deliveries hs
  refine Option.ext fun changes => ?_
  rw [Move.schedules?_eq_some_iff, Move.schedules?_eq_some_iff]
  refine and_congr_right fun bare => forall₂_congr fun c hc => ?_
  have hchange : c.1 ∈ move.changes s := bare ▸ List.mem_map_of_mem hc
  rw [h.compute (deliveries c.1 hchange)]

theorem evaluate (g : Guidance) (threshold : Float) (generated : move ∈ operator.moves m s) :
    move.evaluate m g s threshold = move.evaluate m' g s threshold := by
  rw [Move.evaluate, Move.evaluate, h.delta hs g generated, h.schedules? hs generated]

theorem bestMove (g : Guidance) (operator : Operator) :
    DeliveryRouting.bestMove m g s operator = DeliveryRouting.bestMove m' g s operator := by
  unfold DeliveryRouting.bestMove
  rw [← h.moves hs]
  refine List.foldl_ext _ _ _ fun best move generated => ?_
  simp only [betterMove, fun threshold => h.evaluate hs g threshold generated]

theorem improvingMove (g : Guidance) (n : Neighbourhoods) :
    DeliveryRouting.improvingMove m g s n = DeliveryRouting.improvingMove m' g s n := by
  have best : DeliveryRouting.bestMove m g s = DeliveryRouting.bestMove m' g s :=
    funext (h.bestMove hs g)
  rw [DeliveryRouting.improvingMove, DeliveryRouting.improvingMove, best]

theorem totalCost : s.totalCost m = s.totalCost m' := by
  have penalties : s.dropped.map m.dropPenalty = s.dropped.map m'.dropPenalty :=
    List.map_congr_left fun node hn => h.dropPenalty node (hs.mem_deliveries_of_mem_dropped hn)
  rw [totalCost_eq_keep, totalCost_eq_keep, fullCost, fullCost, penalties, h.keep]

end Prices

end Alike

end Model

end DeliveryRouting
