import DeliveryRouting.Proofs.Search.Generation
import DeliveryRouting.Proofs.Trip.Earliest
import Mathlib.Algebra.BigOperators.Group.List.Basic

/-! # Pruned moves

A candidate is left out of its neighbourhood by a look at the loads alone, before any schedule is
computed. What is looked at differs from kind to kind: the load that a run brings, the difference of
two demands, one trip or two. What is left out is the same for all kinds (`mem_moves_iff`): the
candidates by which a trip takes in a delivery and then carries more than its vehicle can hold.

Such a trip cannot be run (`exists_error_of_overloads`). The load of a whole trip is one of those
that its schedule checks, so this holds whatever the demands are, and whatever the integers of the
model keep of them. -/

namespace DeliveryRouting

/-- A trip takes in a delivery that it did not have, and what is kept of its load is then more than
its vehicle can hold. -/
def Overloads (m : Model) (s : Solution) (changes : List Change) : Prop :=
  ∃ change ∈ changes, (∃ node ∈ change.nodes, node ∉ s.nodes change.vehicle) ∧
    m.capacity change.vehicle < m.keep (change.nodes.map m.demand).sum

/-! ### Sums of demands -/

section Sums

variable {α : Type} {xs ys : List α} {i : Nat} (f : α → Int)

theorem sum_map_splice (xs ys : List α) (i : Nat) :
    ((splice xs i ys).map f).sum = (ys.map f).sum + (xs.map f).sum := by
  rw [(splice_perm.map f).sum_eq, List.map_append, List.sum_append]

theorem sum_map_set (h : i < xs.length) (y : α) :
    ((xs.set i y).map f).sum = (xs.map f).sum + (f y - f xs[i]) := by
  have both := ((cons_set_perm h y).map f).sum_eq
  rw [List.map_cons, List.map_cons, List.sum_cons, List.sum_cons] at both
  omega

end Sums

namespace Operator

open Solution

variable {m : Model} {s : Solution} {move : Move} {operator : Operator}

/-! ### Changes that take in nothing -/

theorem not_overloads_of_subset {changes : List Change}
    (old : ∀ change ∈ changes, change.nodes ⊆ s.nodes change.vehicle) :
    ¬ Overloads m s changes := by
  rintro ⟨change, hc, ⟨node, hnode, new⟩, -⟩
  exact new (old change hc hnode)

theorem not_overloads_of_perm {vehicle : Nat} {nodes : List Nat}
    (same : nodes.Perm (s.nodes vehicle)) : ¬ Overloads m s [⟨vehicle, nodes⟩] := by
  refine not_overloads_of_subset fun change hc => ?_
  rw [List.mem_singleton] at hc
  subst hc
  exact same.subset

theorem overloads_singleton_iff {vehicle node : Nat} {nodes : List Nat} (hnode : node ∈ nodes)
    (new : node ∉ s.nodes vehicle) : Overloads m s [⟨vehicle, nodes⟩] ↔
      m.capacity vehicle < m.keep (nodes.map m.demand).sum := by
  simp only [Overloads, List.mem_singleton, exists_eq_left]
  exact and_iff_right ⟨node, hnode, new⟩

theorem overloads_cons {change : Change} {changes : List Change} :
    Overloads m s (change :: changes) ↔ Overloads m s [change] ∨ Overloads m s changes := by
  simp only [Overloads, List.mem_cons, List.not_mem_nil, or_false, exists_eq_or_imp,
    exists_eq_left]

/-! ### Kinds of moves -/

section Kinds

variable (hs : s.Consistent m)
include hs

theorem hasRoom_iff {vehicle : Nat} {extra : Int} : hasRoom m s vehicle extra = true ↔
    m.keep (((s.nodes vehicle).map m.demand).sum + extra) ≤ m.capacity vehicle := by
  rw [hasRoom, hs.load_trip, Model.keep_keep_add, decide_eq_true_eq]

/-- The trip that a run leaves takes in nothing, and the one it goes to takes in all of it. -/
theorem overloads_carry_iff {origin start length destination target : Nat} (hlength : 0 < length)
    (run : start + length ≤ (s.nodes origin).length) :
    Overloads m s (Move.carry s origin start length destination target) ↔
      ¬ (destination ≠ origin → hasRoom m s destination
        ((segment (s.nodes origin) start length).map m.demand).sum = true) := by
  unfold Move.carry
  by_cases own : origin = destination
  · subst own
    have same : (splice (cut (s.nodes origin) start length) target
        (segment (s.nodes origin) start length)).Perm (s.nodes origin) :=
      splice_perm.trans (segment_append_cut_perm _ start length)
    simpa using not_overloads_of_perm same
  · have rest : ¬ Overloads m s [⟨origin, cut (s.nodes origin) start length⟩] := by
      refine not_overloads_of_subset fun change hc => ?_
      rw [List.mem_singleton] at hc
      subst hc
      have whole := (segment_append_cut_perm (s.nodes origin) start length).subset
      exact fun node hnode => whole (List.mem_append_right _ hnode)
    obtain ⟨node, hnode⟩ : ∃ node, node ∈ segment (s.nodes origin) start length := by
      refine List.exists_mem_of_length_pos ?_
      rw [segment, List.length_take, List.length_drop]
      omega
    have carried : node ∈ s.nodes origin := List.mem_of_mem_drop (List.mem_of_mem_take hnode)
    have taken : node ∈ splice (s.nodes destination) target
        (segment (s.nodes origin) start length) :=
      splice_perm.mem_iff.mpr (List.mem_append_left _ hnode)
    rw [if_neg own, overloads_cons, or_iff_right rest,
      overloads_singleton_iff taken (hs.notMem_nodes_of_ne own carried), sum_map_splice,
      hasRoom_iff hs, forall_prop_of_true (Ne.symm own), Int.add_comm, Int.not_le]

theorem mem_relocations_iff : move ∈ relocations m s ↔
    Candidate s .relocate move ∧ ¬ Overloads m s (move.changes s) := by
  rw [mem_relocations]
  constructor
  · rintro ⟨origin, position, vehicle, target, stop, ht, rfl⟩
    obtain ⟨place, room⟩ := (mem_targets_iff Nat.one_pos stop).mp ht
    exact ⟨.relocate stop place, fun h => (overloads_carry_iff hs Nat.one_pos stop).mp h room⟩
  · rintro ⟨candidate, fits⟩
    cases candidate with
    | relocate stop place =>
      have room := not_not.mp fun h => fits ((overloads_carry_iff hs Nat.one_pos stop).mpr h)
      exact ⟨_, _, _, _, stop, (mem_targets_iff Nat.one_pos stop).mpr ⟨place, room⟩, rfl⟩

theorem mem_runRelocations_iff : move ∈ runRelocations m s ↔
    Candidate s .orOpt move ∧ ¬ Overloads m s (move.changes s) := by
  rw [mem_runRelocations]
  constructor
  · rintro ⟨origin, start, length, vehicle, target, hl, run, ht, rfl⟩
    have hlength := pos_of_mem_runLengths length hl
    obtain ⟨place, room⟩ := (mem_targets_iff hlength run).mp ht
    exact ⟨.orOpt (mem_runLengths.mp hl) run place,
      fun h => (overloads_carry_iff hs hlength run).mp h room⟩
  · rintro ⟨candidate, fits⟩
    cases candidate with
    | @orOpt origin start length destination target few run place =>
      have hlength : 0 < length := by omega
      have room := not_not.mp fun h => fits ((overloads_carry_iff hs hlength run).mpr h)
      exact ⟨_, _, _, _, _, mem_runLengths.mpr few, run,
        (mem_targets_iff hlength run).mpr ⟨place, room⟩, rfl⟩

/-- Two deliveries of different trips overload one of them exactly if it cannot hold the other
delivery in place of its own. -/
theorem overloads_swap_iff {first position second target : Nat} (apart : first ≠ second)
    (here : position < (s.nodes first).length) (there : target < (s.nodes second).length) :
    Overloads m s ((Move.swap first position second target).changes s) ↔
      ¬ (hasRoom m s first
          (m.demand (s.nodes second)[target] - m.demand (s.nodes first)[position]) = true ∧
        hasRoom m s second
          (-(m.demand (s.nodes second)[target] - m.demand (s.nodes first)[position])) = true) := by
  have x : (s.nodes first)[position] ∉ s.nodes second :=
    hs.notMem_nodes_of_ne apart (List.getElem_mem here)
  have y : (s.nodes second)[target] ∉ s.nodes first :=
    hs.notMem_nodes_of_ne (Ne.symm apart) (List.getElem_mem there)
  simp only [Move.changes, if_neg apart, List.getD_eq_getElem _ _ here,
    List.getD_eq_getElem _ _ there]
  rw [overloads_cons, overloads_singleton_iff (List.mem_set here _) y,
    overloads_singleton_iff (List.mem_set there _) x, sum_map_set _ here, sum_map_set _ there,
    hasRoom_iff hs, hasRoom_iff hs, Int.neg_sub]
  omega

omit hs in
theorem not_overloads_swap {vehicle position target : Nat}
    (here : position < (s.nodes vehicle).length) (there : target < (s.nodes vehicle).length)
    (apart : position ≠ target) :
    ¬ Overloads m s ((Move.swap vehicle position vehicle target).changes s) := by
  have sensible : (Move.swap vehicle position vehicle target).fault? m s = none :=
    Move.fault?_swap.mpr ⟨fun h => apart h.2, hasStop_of_lt here, hasStop_of_lt there⟩
  have same := Move.changes_perm sensible
  simp only [Move.changes, Move.updated, Move.removed?, Move.inserted?, if_pos,
    List.flatMap_singleton, Option.toList_none, List.append_nil] at same ⊢
  exact not_overloads_of_perm same

theorem mem_swaps_iff : move ∈ swaps m s ↔
    Candidate s .swap move ∧ ¬ Overloads m s (move.changes s) := by
  rw [mem_swaps]
  constructor
  · rintro (⟨vehicle, h⟩ | ⟨first, second, hlt, h⟩)
    · obtain ⟨first, second, hlt, hlast, rfl⟩ := mem_innerSwaps.mp h
      have hfirst : first < (s.nodes vehicle).length := by omega
      exact ⟨.swap hfirst hlast (.inr ⟨rfl, hlt⟩), not_overloads_swap hfirst hlast (by omega)⟩
    · obtain ⟨position, target, here, there, room, room', rfl⟩ := mem_crossSwaps.mp h
      have apart : first ≠ second := by omega
      exact ⟨.swap here there (.inl hlt),
        fun h => (overloads_swap_iff hs apart here there).mp h ⟨room, room'⟩⟩
  · rintro ⟨candidate, fits⟩
    cases candidate with
    | @swap first position second target here there order =>
      rcases order with hlt | ⟨rfl, hlt⟩
      · have apart : first ≠ second := by omega
        obtain ⟨room, room'⟩ :=
          not_not.mp fun h => fits ((overloads_swap_iff hs apart here there).mpr h)
        exact .inr ⟨first, second, hlt,
          mem_crossSwaps.mpr ⟨position, target, here, there, room, room', rfl⟩⟩
      · exact .inl ⟨first, mem_innerSwaps.mpr ⟨position, target, hlt, there, rfl⟩⟩

omit hs in
theorem mem_reversals_iff : move ∈ reversals s ↔
    Candidate s .twoOpt move ∧ ¬ Overloads m s (move.changes s) := by
  rw [mem_reversals]
  constructor
  · rintro ⟨vehicle, first, last, run, stop, rfl⟩
    have same := reverseSegment_perm (s.nodes vehicle) (show first ≤ last + 1 by omega)
    exact ⟨.twoOpt run stop, not_overloads_of_perm same⟩
  · rintro ⟨candidate, -⟩
    cases candidate with
    | twoOpt run stop => exact ⟨_, _, _, run, stop, rfl⟩

theorem mem_insertions_iff : move ∈ insertions m s ↔
    Candidate s .insertDropped move ∧ ¬ Overloads m s (move.changes s) := by
  have overloads_iff {node vehicle position : Nat} (dropped : node ∈ s.dropped) :
      Overloads m s ((Move.insertDropped node vehicle position).changes s) ↔
        ¬ hasRoom m s vehicle (m.demand node) = true := by
    have taken : node ∈ splice (s.nodes vehicle) position [node] :=
      splice_perm.mem_iff.mpr List.mem_cons_self
    have new := hs.notMem_nodes_of_mem_dropped dropped vehicle
    rw [Move.changes, overloads_singleton_iff taken new, sum_map_splice, hasRoom_iff hs,
      List.map_singleton, List.sum_singleton, Int.add_comm, Int.not_le]
  rw [mem_insertions]
  constructor
  · rintro ⟨node, vehicle, position, dropped, known, room, place, rfl⟩
    exact ⟨.insertDropped dropped known place, fun h => (overloads_iff dropped).mp h room⟩
  · rintro ⟨candidate, fits⟩
    cases candidate with
    | insertDropped dropped known place =>
      have room := not_not.mp fun h => fits ((overloads_iff dropped).mpr h)
      exact ⟨_, _, _, dropped, known, room, place, rfl⟩

theorem mem_exchanges_iff : move ∈ exchanges m s ↔
    Candidate s .exchangeDropped move ∧ ¬ Overloads m s (move.changes s) := by
  have overloads_iff {node vehicle position : Nat} (dropped : node ∈ s.dropped)
      (stop : position < (s.nodes vehicle).length) :
      Overloads m s ((Move.exchangeDropped node vehicle position).changes s) ↔
        ¬ hasRoom m s vehicle (m.demand node - m.demand (s.nodes vehicle)[position]) = true := by
    have new := hs.notMem_nodes_of_mem_dropped dropped vehicle
    rw [Move.changes, overloads_singleton_iff (List.mem_set stop _) new, sum_map_set _ stop,
      hasRoom_iff hs, Int.not_le]
  rw [mem_exchanges]
  constructor
  · rintro ⟨node, vehicle, position, dropped, stop, room, rfl⟩
    exact ⟨.exchangeDropped dropped stop, fun h => (overloads_iff dropped stop).mp h room⟩
  · rintro ⟨candidate, fits⟩
    cases candidate with
    | exchangeDropped dropped stop =>
      have room := not_not.mp fun h => fits ((overloads_iff dropped stop).mpr h)
      exact ⟨_, _, _, dropped, stop, room, rfl⟩

/-- **The neighbourhoods are complete**: a candidate is generated exactly if it overloads no
trip. -/
theorem mem_moves_iff : move ∈ operator.moves m s ↔
    operator.Candidate s move ∧ ¬ Overloads m s (move.changes s) := by
  cases operator with
  | relocate => exact mem_relocations_iff hs
  | orOpt => exact mem_runRelocations_iff hs
  | swap => exact mem_swaps_iff hs
  | twoOpt => exact mem_reversals_iff
  | insertDropped => exact mem_insertions_iff hs
  | exchangeDropped => exact mem_exchanges_iff hs

/-! ### Overloaded trips -/

/-- **A trip that a candidate overloads cannot be run**, for a reason that lies on its way. -/
theorem exists_error_of_overloads (candidate : operator.Candidate s move)
    (overloads : Overloads m s (move.changes s)) : ∃ change ∈ move.changes s, ∃ obstacle,
      Schedule.compute m change.vehicle change.nodes = .error obstacle ∧
        obstacle.isBadReference = false := by
  obtain ⟨change, hc, ⟨node, hnode, -⟩, heavy⟩ := overloads
  have vehicle : change.vehicle < m.numVehicles := by
    rw [← hs.length_trips]
    refine Move.lt_length_of_mem_updated (fault?_of_candidate hs candidate) _ ?_
    rw [← Move.map_vehicle_changes s move]
    exact List.mem_map_of_mem hc
  have known : ∀ node ∈ change.nodes, node < m.numNodes := fun node hn =>
    (m.mem_deliveries.mp ((candidate.deliveries hs).1 change hc node hn)).2
  cases computed : Schedule.compute m change.vehicle change.nodes with
  | ok schedule =>
    have load := Schedule.load_of_compute computed
    have held := Schedule.load_le_of_compute computed (List.ne_nil_of_mem hnode)
    omega
  | error obstacle =>
    exact ⟨change, hc, obstacle, computed,
      Schedule.isBadReference_of_compute vehicle known computed⟩

end Kinds

end Operator

end DeliveryRouting
