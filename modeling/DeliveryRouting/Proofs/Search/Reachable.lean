import DeliveryRouting.Proofs.Model.Layout
import DeliveryRouting.Proofs.Search.Changes
import DeliveryRouting.Proofs.Search.Generation

/-! # Reachable solutions

The solutions that come about from the one in which no vehicle moves by insertions of dropped
deliveries, accepted or refused, and by generated moves whose trips can be run. What a move costs
plays no part here: `Step.of_evaluate` says that every move accepted at some guidance and threshold
is one of these steps, whatever the comparisons of prices have decided.

One step keeps a solution consistent (`Step.consistent`), so every reachable solution is
(`Reachable.consistent`). -/

namespace DeliveryRouting

namespace Move

variable {m : Model} {s : Solution} {move : Move} {changes : List (Change × Schedule)}

theorem mapM_schedule_eq_some_iff {bare : List Change} :
    (bare.mapM fun change =>
        (Schedule.compute m change.vehicle change.nodes).toOption.map (change, ·)) = some changes ↔
      changes.map Prod.fst = bare ∧
        ∀ c ∈ changes, Schedule.compute m c.1.vehicle c.1.nodes = .ok c.2 := by
  induction bare generalizing changes with
  | nil =>
    simp only [List.mapM_nil, Option.pure_def, Option.some.injEq, List.map_eq_nil_iff]
    constructor
    · rintro rfl; simp
    · rintro ⟨rfl, -⟩; rfl
  | cons change bare ih =>
    simp only [List.mapM_cons, Option.pure_def, Option.bind_eq_bind, Option.bind_eq_some_iff,
      Option.map_eq_some_iff, ih, Option.some.injEq]
    constructor
    · rintro ⟨c, ⟨schedule, hc, rfl⟩, rest, ⟨rfl, hrest⟩, rfl⟩
      refine ⟨rfl, List.forall_mem_cons.mpr ⟨?_, hrest⟩⟩
      cases hcomp : Schedule.compute m change.vehicle change.nodes with
      | ok schedule' => rw [hcomp] at hc; cases hc; rfl
      | error e => rw [hcomp] at hc; cases hc
    · rintro ⟨hmap, hall⟩
      obtain ⟨c, rest, rfl⟩ : ∃ c rest, changes = c :: rest := by
        cases changes with
        | nil => simp at hmap
        | cons c rest => exact ⟨c, rest, rfl⟩
      rw [List.map_cons, List.cons.injEq] at hmap
      obtain ⟨rfl, rfl⟩ := hmap
      rw [List.forall_mem_cons] at hall
      exact ⟨c, ⟨c.2, by rw [hall.1]; rfl, rfl⟩, rest, ⟨rfl, hall.2⟩, rfl⟩

theorem schedules?_eq_some_iff : move.schedules? m s = some changes ↔
    changes.map Prod.fst = move.changes s ∧
      ∀ c ∈ changes, Schedule.compute m c.1.vehicle c.1.nodes = .ok c.2 :=
  mapM_schedule_eq_some_iff

theorem schedules?_of_evaluate {g : Guidance} {threshold : Float} {e : EvaluatedMove}
    (h : move.evaluate m g s threshold = some e) : move.schedules? m s = some e.changes := by
  simp only [evaluate] at h
  split at h
  · cases h
  · obtain ⟨changes, hchanges, rfl⟩ := Option.map_eq_some_iff.mp h
    exact hchanges

end Move

namespace Solution

variable {m : Model} {s s' : Solution} {move : Move} {operator : Operator}
  {changes : List (Change × Schedule)} {node vehicle position : Nat}

/-- The solution after an attempt to insert a node: the one from before, if it is refused. -/
def tryInsert (m : Model) (s : Solution) (node vehicle position : Nat) : Solution :=
  (s.insert m node vehicle position).toOption.getD s

/-- One step on the way to a solution: an attempt to insert a dropped delivery, or a generated move
whose trips can be run. -/
inductive Step (m : Model) : Solution → Solution → Prop
  | insert {s : Solution} {node vehicle position : Nat} (dropped : node ∈ s.dropped) :
      Step m s (s.tryInsert m node vehicle position)
  | move {s : Solution} {operator : Operator} {move : Move} {changes : List (Change × Schedule)}
      (generated : move ∈ operator.moves m s) (runs : move.schedules? m s = some changes)
      (price : Float) : Step m s (EvaluatedMove.apply m s ⟨changes, price⟩)

/-- The solutions on the way from the one in which no vehicle moves. -/
inductive Reachable (m : Model) : Solution → Prop
  | empty : Reachable m (Solution.empty m)
  | step {s s' : Solution} (before : Reachable m s) (step : Step m s s') : Reachable m s'

/-- An accepted move is a step, whatever it was priced by and whatever threshold it had to beat. -/
theorem Step.of_evaluate {g : Guidance} {threshold : Float} {e : EvaluatedMove}
    (generated : move ∈ operator.moves m s) (h : move.evaluate m g s threshold = some e) :
    Step m s (e.apply m s) :=
  .move generated (Move.schedules?_of_evaluate h) e.delta

/-! ### Insertions -/

theorem insert_eq_ok_iff : s.insert m node vehicle position = .ok s' ↔
    vehicle < s.trips.length ∧ position ≤ (s.nodes vehicle).length ∧ ∃ schedule,
      Schedule.compute m vehicle (splice (s.nodes vehicle) position [node]) = .ok schedule ∧
      s' = s.replaceTrip m vehicle (splice (s.nodes vehicle) position [node]) schedule := by
  simp only [insert, reroute]
  by_cases hv : s.trips.length ≤ vehicle
  · rw [if_pos hv]; simp; omega
  rw [if_neg hv]
  by_cases hp : (s.nodes vehicle).length < position
  · rw [if_pos hp]; simp; omega
  rw [if_neg hp, if_neg hv]
  cases Schedule.compute m vehicle (splice (s.nodes vehicle) position [node]) with
  | error e => simp
  | ok schedule =>
    simp only [Except.ok.injEq, exists_eq_left', eq_comm (a := s')]
    exact ⟨fun h => ⟨by omega, by omega, h⟩, fun h => h.2.2⟩

theorem Consistent.tryInsert (hs : s.Consistent m) (hn : node ∈ s.dropped) :
    (s.tryInsert m node vehicle position).Consistent m := by
  unfold Solution.tryInsert
  cases h : s.insert m node vehicle position with
  | error e => exact hs
  | ok s' =>
    obtain ⟨hv, -, schedule, hschedule, rfl⟩ := insert_eq_ok_iff.mp h
    obtain ⟨hdelivery, hfree⟩ := hs.mem_dropped_iff.mp hn
    have longer : (splice (s.nodes vehicle) position [node]).Perm (node :: s.nodes vehicle) :=
      splice_perm
    show (s.install m
      [(⟨vehicle, splice (s.nodes vehicle) position [node]⟩, schedule)]).Consistent m
    refine hs.install ⟨List.nodup_singleton _, ?exist, ?computed, ?nodup, ?free, ?noDepot⟩
    case exist => simpa using hv
    case computed => simpa using hschedule
    case nodup =>
      rw [List.flatMap_singleton, longer.nodup_iff, List.nodup_cons]
      exact ⟨fun h => hfree (mem_stops.mpr ⟨vehicle, h⟩), hs.nodup_nodes vehicle⟩
    case noDepot =>
      rw [List.flatMap_singleton, longer.mem_iff, List.mem_cons, not_or]
      exact ⟨Ne.symm (m.mem_deliveries.mp hdelivery).1, hs.depot_notMem vehicle⟩
    case free =>
      intro x hx v hv
      rw [List.flatMap_singleton, longer.mem_iff, List.mem_cons] at hx
      have hxv := (hs.vehicleOf_eq_some_iff x v).mp hv
      rcases hx with rfl | hx
      · exact absurd (mem_stops.mpr ⟨v, hxv⟩) hfree
      · simpa using hs.eq_of_mem_nodes hxv hx

/-! ### Moves -/

/-- What the trips of a move hold together before it, with what it takes in, are all different
deliveries. -/
theorem Consistent.nodup_updated_append (hs : s.Consistent m)
    (hin : ∀ node ∈ move.inserted?, node ∈ s.dropped) :
    (move.updated.flatMap s.nodes ++ move.inserted?.toList).Nodup := by
  refine List.nodup_append'.mpr ⟨hs.nodup_flatMap_nodes move.nodup_updated,
    by cases move.inserted? <;> simp, fun node hnode hnew => ?_⟩
  obtain ⟨v, -, hv⟩ := List.mem_flatMap.mp hnode
  have hdropped := hin node (Option.mem_toList.mp hnew)
  exact (hs.mem_dropped_iff.mp hdropped).2 (mem_stops.mpr ⟨v, hv⟩)

theorem map_vehicle_of_schedules? (runs : move.schedules? m s = some changes) :
    changes.map (·.1.vehicle) = move.updated := by
  rw [← Move.map_vehicle_changes s move, ← (Move.schedules?_eq_some_iff.mp runs).1, List.map_map]
  rfl

theorem flatMap_nodes_of_schedules? (runs : move.schedules? m s = some changes) :
    changes.flatMap (·.1.nodes) = (move.changes s).flatMap Change.nodes := by
  rw [← (Move.schedules?_eq_some_iff.mp runs).1, List.flatMap_map]

/-- **A generated move redistributes stops**, and with them a dropped delivery that it takes in. -/
theorem Consistent.redistributes (hs : s.Consistent m) (generated : move ∈ operator.moves m s)
    (runs : move.schedules? m s = some changes) : Redistributes m s changes := by
  have candidate := Operator.candidate_of_mem_moves generated
  have sensible := Operator.fault?_of_candidate hs candidate
  have takesIn := candidate.inserted?_mem_dropped
  have vehicles := map_vehicle_of_schedules? runs
  have conserved := Move.changes_perm sensible
  rw [← flatMap_nodes_of_schedules? runs] at conserved
  -- a stop of a changed trip stood on one of these trips before, or it is taken in
  have origin : ∀ node ∈ changes.flatMap (·.1.nodes),
      (∃ v ∈ move.updated, node ∈ s.nodes v) ∨ node ∈ s.dropped := by
    intro node hnode
    have hmem := conserved.mem_iff.mp (List.mem_append_left _ hnode)
    rcases List.mem_append.mp hmem with h | h
    · exact .inl (List.mem_flatMap.mp h)
    · exact .inr (takesIn node (Option.mem_toList.mp h))
  refine ⟨vehicles ▸ move.nodup_updated, ?exist, (Move.schedules?_eq_some_iff.mp runs).2, ?nodup,
    ?free, ?noDepot⟩
  case exist =>
    intro c hc
    refine Move.lt_length_of_mem_updated sensible c.1.vehicle ?_
    rw [← vehicles]
    exact List.mem_map_of_mem hc
  case nodup =>
    have all := conserved.nodup_iff.mpr (hs.nodup_updated_append takesIn)
    exact (List.nodup_append'.mp all).1
  case noDepot =>
    intro h
    rcases origin depot h with ⟨v, -, hv⟩ | hdropped
    · exact hs.depot_notMem v hv
    · exact (m.mem_deliveries.mp (hs.mem_dropped_iff.mp hdropped).1).1 rfl
  case free =>
    intro node hnode v hv
    have hnv := (hs.vehicleOf_eq_some_iff node v).mp hv
    rw [vehicles]
    rcases origin node hnode with ⟨w, hw, hnw⟩ | hdropped
    · rwa [hs.eq_of_mem_nodes hnv hnw]
    · exact absurd (mem_stops.mpr ⟨v, hnv⟩) (hs.mem_dropped_iff.mp hdropped).2

/-! ### Runs -/

theorem Step.consistent (h : Step m s s') (hs : s.Consistent m) : s'.Consistent m := by
  cases h with
  | insert dropped => exact hs.tryInsert dropped
  | move generated runs price =>
    rw [apply_eq_install]
    -- a move may go through a state in which a delivery stands on two trips
    exact hs.install (hs.redistributes generated runs)

/-- **Every reachable solution is consistent.** -/
theorem Reachable.consistent (h : Reachable m s) : s.Consistent m := by
  induction h with
  | empty => exact consistent_empty m
  | step _ step ih => exact step.consistent ih

/-- **On the way of any insertions and moves, all that a solution keeps beside its stops stays
right**: the vehicle of each node, the schedule and the cost of each trip, the dropped deliveries
and with them the objective. No delivery stands on two trips or twice on one, and the depot stands
on none. -/
theorem Reachable.keeps_record (h : Reachable m s) :
    (∀ node v, s.vehicleOf node = some v ↔ v < m.numVehicles ∧ node ∈ s.nodes v) ∧
    (∀ node, s.stops.count node ≤ 1) ∧ depot ∉ s.stops ∧
    s.trips.length = m.numVehicles ∧
    (∀ v, Schedule.compute m v (s.nodes v) = .ok (s.trip v).schedule ∧
      (s.trip v).cost = tripCost m (s.nodes v)) ∧
    s.dropped.Pairwise (· < ·) ∧
    (∀ node, node ∈ s.dropped ↔ node ∈ m.deliveries ∧ ∀ v < m.numVehicles, node ∉ s.nodes v) ∧
    s.totalCost m = objective m (s.trips.map Trip.nodes) := by
  have hs := h.consistent
  have exist {node v : Nat} (hn : node ∈ s.nodes v) : v < m.numVehicles :=
    hs.length_trips ▸ lt_length_of_mem_nodes hn
  refine ⟨fun node v => ?_, List.nodup_iff_count_le_one.mp hs.nodup_stops, ?_, hs.length_trips,
    fun v => ⟨hs.compute_nodes v, hs.cost_trip v⟩, pairwise_dropped s, fun node => ?_,
    hs.totalCost_eq⟩
  · rw [hs.vehicleOf_eq_some_iff]
    exact ⟨fun hn => ⟨exist hn, hn⟩, And.right⟩
  · rw [stops_eq_flatMap_vehicles]
    exact hs.depot_notMem_flatMap _
  · rw [hs.mem_dropped_iff, mem_stops, not_exists]
    exact and_congr_right fun _ => ⟨fun hn v _ => hn v, fun hn v hv => hn v (exist hv) hv⟩

/-- Each vehicle of the small problem serves a delivery. -/
def pairApart : Solution :=
  ⟨[⟨[1], ⟨[20], 30, 1⟩, 30⟩, ⟨[2], ⟨[100], 120, 1⟩, 50⟩], [none, some 0, some 1]⟩

/-- One vehicle serves both. -/
def pairTour : Solution :=
  ⟨[⟨[1, 2], ⟨[20, 100], 120, 2⟩, 55⟩, Trip.empty], [none, some 0, some 0]⟩

theorem reachable_pairApart : Reachable pairModel pairApart := by
  have first : Reachable pairModel ((empty pairModel).tryInsert pairModel 1 0 0) :=
    .step .empty (.insert (by decide))
  have second : 2 ∈ ((empty pairModel).tryInsert pairModel 1 0 0).dropped := by decide
  exact .step first (@Step.insert pairModel _ 2 1 0 second)

/-- The move between the two trips first drops the delivery and then takes it up again. -/
theorem reachable_pairTour : Reachable pairModel pairTour := by
  have generated : .relocate 1 0 0 1 ∈ Operator.relocate.moves pairModel pairApart := by decide
  have runs : (Move.relocate 1 0 0 1).schedules? pairModel pairApart =
      some [(⟨1, []⟩, Schedule.empty), (⟨0, [1, 2]⟩, ⟨[20, 100], 120, 2⟩)] := rfl
  exact .step reachable_pairApart (.move generated runs 0)

theorem keeps_record_pairTour : Reachable pairModel pairTour ∧
    (pairTour.vehicleOf 2 = some 0 ↔ 0 < pairModel.numVehicles ∧ 2 ∈ pairTour.nodes 0) ∧
    pairTour.stops.count 2 ≤ 1 ∧ depot ∉ pairTour.stops ∧
    pairTour.trips.length = pairModel.numVehicles ∧
    Schedule.compute pairModel 0 (pairTour.nodes 0) = .ok (pairTour.trip 0).schedule ∧
    (pairTour.trip 0).cost = tripCost pairModel (pairTour.nodes 0) ∧
    pairTour.totalCost pairModel = objective pairModel (pairTour.trips.map Trip.nodes) := by
  obtain ⟨served, once, noDepot, length, trips, -, -, cost⟩ :=
    Reachable.keeps_record reachable_pairTour
  exact ⟨reachable_pairTour, served 2 0, once 2, noDepot, length, (trips 0).1, (trips 0).2, cost⟩

end Solution

end DeliveryRouting
