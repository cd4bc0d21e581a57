import DeliveryRouting.Proofs.Search.Edits
import DeliveryRouting.Proofs.Search.Pruning
import DeliveryRouting.Proofs.Search.Replacement

/-! # Moves are taken back by moves

All kinds of moves but one can be taken back by a move of their kind (`Move.opposite?`): a run goes
back to where it came from, a second swap or reversal undoes the first, and a delivery that another
one has replaced replaces it. An insertion has no opposite, as no move only drops a delivery.

The opposite move gives every vehicle its old stops (`Candidate.restores`), and from this all else
follows. It is generated, since the old trips overload no vehicle; they can be run, since they could
before; and as a consistent solution is determined by its stops, it is the old solution that comes
out (`Solution.Consistent.moves_are_reversible`). -/

namespace DeliveryRouting

/-- The move that takes a move back, which has been made on the solution `s`. -/
def Move.opposite? (s : Solution) : Move → Option Move
  | relocate origin position destination target =>
    some (relocate destination target origin position)
  | orOpt origin start length destination target =>
    some (orOpt destination target length origin start)
  | swap first position second target => some (swap first position second target)
  | twoOpt vehicle first last => some (twoOpt vehicle first last)
  | insertDropped .. => none
  | exchangeDropped _ vehicle position =>
    some (exchangeDropped ((s.nodes vehicle).getD position depot) vehicle position)

namespace Operator

open Solution

variable {m : Model} {s s' : Solution} {move back : Move} {operator : Operator}

/-! ### The old stops -/

/-- The vehicles of the changes have their new stops. -/
def Made (s' : Solution) (changes : List Change) : Prop :=
  ∀ change ∈ changes, s'.nodes change.vehicle = change.nodes

/-- The changes give vehicles the stops that they have in `s`. -/
def Restores (s : Solution) (changes : List Change) : Prop :=
  ∀ change ∈ changes, change.nodes = s.nodes change.vehicle

section Changes

variable {vehicle vehicle' : Nat} {nodes nodes' : List Nat}

theorem made_singleton : Made s' [⟨vehicle, nodes⟩] ↔ s'.nodes vehicle = nodes := by
  simp [Made]

theorem made_pair : Made s' [⟨vehicle, nodes⟩, ⟨vehicle', nodes'⟩] ↔
    s'.nodes vehicle = nodes ∧ s'.nodes vehicle' = nodes' := by
  simp [Made]

theorem restores_singleton : Restores s [⟨vehicle, nodes⟩] ↔ nodes = s.nodes vehicle := by
  simp [Restores]

theorem restores_pair : Restores s [⟨vehicle, nodes⟩, ⟨vehicle', nodes'⟩] ↔
    nodes = s.nodes vehicle ∧ nodes' = s.nodes vehicle' := by
  simp [Restores]

end Changes

section Carry

variable {origin start length destination target : Nat}
  (run : start + length ≤ (s.nodes origin).length)
  (place : IsPlace s origin start length destination target)
  (made : Made s' (Move.carry s origin start length destination target))
include run place made

/-- A run that goes back leaves the stops that it has found, and comes to where it was. -/
theorem carry_restores : Restores s (Move.carry s' destination target length origin start) := by
  have carried := length_segment run
  have left := length_cut run
  have home := splice_cut (show start ≤ (s.nodes origin).length by omega) length
  by_cases own : origin = destination
  · subst own
    rw [IsPlace, if_pos rfl] at place
    rw [Move.carry, if_pos rfl, made_singleton] at made
    have inside : target ≤ (cut (s.nodes origin) start length).length := by omega
    have out := cut_splice inside (segment (s.nodes origin) start length)
    have again := segment_splice inside (segment (s.nodes origin) start length)
    rw [carried, ← made] at out again
    rw [Move.carry, if_pos rfl, restores_singleton, out, again]
    exact home
  · rw [IsPlace, if_neg (Ne.symm own)] at place
    rw [Move.carry, if_neg own, made_pair] at made
    have out := cut_splice place.2 (segment (s.nodes origin) start length)
    have again := segment_splice place.2 (segment (s.nodes origin) start length)
    rw [carried, ← made.2] at out again
    rw [Move.carry, if_neg (Ne.symm own), restores_pair, out, again, made.1]
    exact ⟨rfl, home⟩

/-- The run is found at the place it went to, and the place it came from is a place for it. -/
theorem isPlace_opposite (known : origin < s'.trips.length) :
    target + length ≤ (s'.nodes destination).length ∧
      IsPlace s' destination target length origin start := by
  have carried := length_segment run
  have left := length_cut run
  by_cases own : origin = destination
  · subst own
    rw [IsPlace, if_pos rfl] at place ⊢
    rw [Move.carry, if_pos rfl, made_singleton] at made
    have same : (s'.nodes origin).length = (s.nodes origin).length := by
      rw [made, length_splice]
      omega
    omega
  · rw [IsPlace, if_neg (Ne.symm own)] at place
    rw [Move.carry, if_neg own, made_pair] at made
    have longer : (s'.nodes destination).length = length + (s.nodes destination).length := by
      rw [made.2, length_splice, carried]
    have shorter : (s'.nodes origin).length + length = (s.nodes origin).length := by
      rw [made.1]
      exact left
    rw [IsPlace, if_neg own]
    exact ⟨by omega, known, by omega⟩

end Carry

/-- **The opposite move gives every vehicle its old stops.** -/
theorem Candidate.restores (h : operator.Candidate s move) (made : Made s' (move.changes s))
    (opposite : move.opposite? s = some back) : Restores s (back.changes s') := by
  cases h with
  | relocate stop place =>
    obtain rfl := Option.some.inj opposite
    exact carry_restores stop place made
  | orOpt few run place =>
    obtain rfl := Option.some.inj opposite
    exact carry_restores run place made
  | @swap first position second target here there order =>
    obtain rfl := Option.some.inj opposite
    rw [Move.changes] at made ⊢
    by_cases own : first = second
    · subst own
      have apart : position ≠ target := by omega
      rw [if_pos rfl, made_singleton] at made
      rw [if_pos rfl, restores_singleton, made]
      exact exchange_exchange here there apart depot
    · rw [if_neg own, made_pair] at made
      rw [if_neg own, restores_pair, made.1, made.2, List.set_set, List.set_set,
        getD_set_self here, getD_set_self there]
      exact ⟨set_getD_self here depot, set_getD_self there depot⟩
  | @twoOpt vehicle first last run stop =>
    obtain rfl := Option.some.inj opposite
    rw [Move.changes, made_singleton] at made
    rw [Move.changes, restores_singleton, made]
    exact reverseSegment_reverseSegment (by omega) stop
  | insertDropped => cases opposite
  | @exchangeDropped node vehicle position dropped stop =>
    obtain rfl := Option.some.inj opposite
    rw [Move.changes, made_singleton] at made
    rw [Move.changes, restores_singleton, made, List.set_set]
    exact set_getD_self stop depot

/-! ### The opposite move is generated -/

section Opposite

variable {changes : List (Change × Schedule)} (hs : s.Consistent m)

theorem made_install (h : Redistributes m s changes) :
    Made (s.install m changes) (changes.map Prod.fst) := by
  intro change hchange
  obtain ⟨c, hc, rfl⟩ := List.mem_map.mp hchange
  exact h.nodes_install hc

theorem mem_updated_opposite? (opposite : move.opposite? s = some back) (vehicle : Nat) :
    vehicle ∈ back.updated ↔ vehicle ∈ move.updated := by
  cases move with
  | relocate | orOpt =>
    obtain rfl := Option.some.inj opposite
    simp only [Move.updated]
    grind
  | swap | twoOpt | exchangeDropped =>
    obtain rfl := Option.some.inj opposite
    rfl
  | insertDropped => cases opposite

include hs

theorem Candidate.removed?_mem_dropped (h : operator.Candidate s move)
    (runs : move.schedules? m s = some changes) (redistributes : Redistributes m s changes) :
    ∀ node ∈ move.removed? s, node ∈ (s.install m changes).dropped := by
  intro node removed
  obtain ⟨vehicle, changed, old⟩ := List.mem_flatMap.mp (h.removed?_mem node removed)
  -- together with the new stops it is one of deliveries that are all different
  have conserved := h.changes_perm hs
  have different := conserved.nodup_iff.mpr (hs.nodup_updated_append h.inserted?_mem_dropped)
  have left : node ∉ changes.flatMap (·.1.nodes) := by
    rw [flatMap_nodes_of_schedules? runs]
    exact fun new => (List.nodup_append'.mp different).2.2 new (Option.mem_toList.mpr removed)
  have hvehicle : vehicle ∈ changes.map (·.1.vehicle) := by
    rwa [map_vehicle_of_schedules? runs]
  have delivery := m.mem_deliveries.mp (hs.mem_deliveries_of_mem_nodes old)
  refine mem_dropped.mpr ⟨?_, delivery.1, ?_⟩
  · rw [length_servedBy_install, hs.length_servedBy]
    exact delivery.2
  · exact hs.vehicleOf_install_of_left redistributes hvehicle old left

theorem not_overloads_of_restores {changes : List Change} (restores : Restores s changes) :
    ¬ Overloads m s' changes := by
  rintro ⟨change, hc, ⟨node, hnode, -⟩, heavy⟩
  rw [restores change hc] at hnode heavy
  have computed := hs.compute_nodes change.vehicle
  have load := Schedule.load_of_compute computed
  have held := Schedule.load_le_of_compute computed (List.ne_nil_of_mem hnode)
  omega

theorem schedules?_of_restores (restores : Restores s (back.changes s')) :
    back.schedules? m s' =
      some ((back.changes s').map fun change => (change, (s.trip change.vehicle).schedule)) := by
  refine Move.schedules?_eq_some_iff.mpr ⟨?_, fun c hc => ?_⟩
  · rw [List.map_map]
    exact List.map_id'' (fun _ => rfl) _
  · obtain ⟨change, hchange, rfl⟩ := List.mem_map.mp hc
    show Schedule.compute m change.vehicle change.nodes = _
    rw [restores change hchange]
    exact hs.compute_nodes change.vehicle

theorem Candidate.opposite (h : operator.Candidate s move)
    (runs : move.schedules? m s = some changes) (redistributes : Redistributes m s changes)
    (opposite : move.opposite? s = some back) :
    operator.Candidate (s.install m changes) back := by
  have made := made_install redistributes
  rw [(Move.schedules?_eq_some_iff.mp runs).1] at made
  have removed := h.removed?_mem_dropped hs runs redistributes
  have known {vehicle position : Nat} (stop : position < (s.nodes vehicle).length) :
      vehicle < (s.install m changes).trips.length := by
    rw [length_trips_install]
    exact lt_length_of_mem_nodes (List.getElem_mem stop)
  cases h with
  | relocate stop place =>
    obtain rfl := Option.some.inj opposite
    obtain ⟨stop', place'⟩ := isPlace_opposite stop place made (known stop)
    exact .relocate stop' place'
  | @orOpt origin start length destination target few run place =>
    obtain rfl := Option.some.inj opposite
    have stop : start < (s.nodes origin).length := by omega
    obtain ⟨run', place'⟩ := isPlace_opposite run place made (known stop)
    exact .orOpt few run' place'
  | @swap first position second target here there order =>
    obtain rfl := Option.some.inj opposite
    rw [Move.changes] at made
    by_cases own : first = second
    · subst own
      rw [if_pos rfl, made_singleton] at made
      exact .swap (by simpa [made] using here) (by simpa [made] using there) order
    · rw [if_neg own, made_pair] at made
      exact .swap (by simpa [made.1] using here) (by simpa [made.2] using there) order
  | @twoOpt vehicle first last run stop =>
    obtain rfl := Option.some.inj opposite
    rw [Move.changes, made_singleton] at made
    refine .twoOpt run ?_
    rw [made, length_reverseSegment (by omega)]
    exact stop
  | insertDropped => cases opposite
  | @exchangeDropped node vehicle position dropped stop =>
    obtain rfl := Option.some.inj opposite
    rw [Move.changes, made_singleton] at made
    exact .exchangeDropped (removed _ rfl) (by simpa [made] using stop)

end Opposite

end Operator

/-! ### Back to the old solution -/

namespace Solution

variable {m : Model} {s : Solution} {move : Move} {operator : Operator}
  {changes : List (Change × Schedule)}

theorem exists_opposite (generated : move ∈ operator.moves m s)
    (kind : operator ≠ .insertDropped) : ∃ back, move.opposite? s = some back := by
  cases Operator.candidate_of_mem_moves generated with
  | relocate | orOpt | swap | twoOpt | exchangeDropped => exact ⟨_, rfl⟩
  | insertDropped => exact absurd rfl kind

/-- **Moves are taken back by moves.** After a generated move that is no insertion, its opposite is
generated and its trips can be run, and when it is made as well the solution is what it was, with
all that it keeps beside the stops. -/
theorem Consistent.moves_are_reversible (hs : s.Consistent m)
    (generated : move ∈ operator.moves m s) (kind : operator ≠ .insertDropped)
    (runs : move.schedules? m s = some changes) (price : Float) {s' : Solution}
    (after : EvaluatedMove.apply m s ⟨changes, price⟩ = s') :
    ∃ back, move.opposite? s = some back ∧ back ∈ operator.moves m s' ∧
      ∃ changes', back.schedules? m s' = some changes' ∧
        ∀ price', EvaluatedMove.apply m s' ⟨changes', price'⟩ = s := by
  obtain ⟨back, opposite⟩ := exists_opposite generated kind
  have candidate := Operator.candidate_of_mem_moves generated
  have redistributes := hs.redistributes generated runs
  rw [apply_eq_install] at after
  subst after
  have hs' := hs.install redistributes
  have made := Operator.made_install redistributes
  rw [(Move.schedules?_eq_some_iff.mp runs).1] at made
  have restores := candidate.restores made opposite
  have generated' : back ∈ operator.moves m (s.install m changes) :=
    (Operator.mem_moves_iff hs').mpr
      ⟨candidate.opposite hs runs redistributes opposite,
        Operator.not_overloads_of_restores hs restores⟩
  have runs' := Operator.schedules?_of_restores hs restores
  refine ⟨back, opposite, generated', _, runs', fun price' => ?_⟩
  rw [apply_eq_install]
  have redistributes' := hs'.redistributes generated' runs'
  refine (hs'.install redistributes').eq_of_nodes hs fun vehicle => ?_
  by_cases changed : vehicle ∈ back.updated
  · rw [← map_vehicle_of_schedules? runs'] at changed
    obtain ⟨c, hc, rfl⟩ := List.mem_map.mp changed
    rw [redistributes'.nodes_install hc]
    refine restores c.1 ?_
    rw [← (Move.schedules?_eq_some_iff.mp runs').1]
    exact List.mem_map_of_mem hc
  · rw [nodes_install_of_notMem (by rwa [map_vehicle_of_schedules? runs']),
      nodes_install_of_notMem]
    rwa [map_vehicle_of_schedules? runs, ← Operator.mem_updated_opposite? opposite]

/-- The trip that the delivery leaves is empty until it comes back. -/
theorem moves_are_reversible_pairApart : pairApart.Consistent pairModel ∧
    .relocate 1 0 0 1 ∈ Operator.relocate.moves pairModel pairApart ∧
    Operator.relocate ≠ .insertDropped ∧
    (Move.relocate 1 0 0 1).schedules? pairModel pairApart =
      some [(⟨1, []⟩, Schedule.empty), (⟨0, [1, 2]⟩, ⟨[20, 100], 120, 2⟩)] ∧
    .relocate 0 1 1 0 ∈ Operator.relocate.moves pairModel pairTour ∧
    ∃ changes, (Move.relocate 0 1 1 0).schedules? pairModel pairTour = some changes ∧
      ∀ price, EvaluatedMove.apply pairModel pairTour ⟨changes, price⟩ = pairApart := by
  have hs := reachable_pairApart.consistent
  have generated : .relocate 1 0 0 1 ∈ Operator.relocate.moves pairModel pairApart := by decide
  have kind : Operator.relocate ≠ .insertDropped := by decide
  have runs : (Move.relocate 1 0 0 1).schedules? pairModel pairApart =
      some [(⟨1, []⟩, Schedule.empty), (⟨0, [1, 2]⟩, ⟨[20, 100], 120, 2⟩)] := rfl
  have after : EvaluatedMove.apply pairModel pairApart
      ⟨[(⟨1, []⟩, Schedule.empty), (⟨0, [1, 2]⟩, ⟨[20, 100], 120, 2⟩)], 0⟩ = pairTour := rfl
  obtain ⟨back, opposite, generated', changes, runs', restored⟩ :=
    hs.moves_are_reversible generated kind runs 0 after
  obtain rfl := Option.some.inj opposite
  exact ⟨hs, generated, kind, runs, generated', changes, runs', restored⟩

end Solution

end DeliveryRouting
