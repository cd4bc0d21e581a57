import DeliveryRouting.Search.Move
import Mathlib.Data.List.GetD
import Mathlib.Data.List.Nodup

/-! # Moves conserve deliveries

A move whose stops and places exist moves the stops of the trips it changes around: the new trips
together hold what the old ones held, and the delivery that the move takes in, less the one it
drops (`changes_perm`). The trips it changes are those of different vehicles
(`map_vehicle_changes`, `nodup_updated`), all of which exist (`lt_length_of_mem_updated`). -/

namespace DeliveryRouting

/-! ### Lists with an entry replaced -/

section Replaced

variable {α : Type} {xs ys : List α} {i j : Nat}

theorem cons_set_perm (h : i < xs.length) (y : α) : (xs[i] :: xs.set i y).Perm (y :: xs) := by
  have split : xs = xs.take i ++ xs[i] :: xs.drop (i + 1) := by
    rw [← List.drop_eq_getElem_cons h, List.take_append_drop]
  rw [List.set_eq_take_append_cons_drop, if_pos h]
  calc (xs[i] :: (xs.take i ++ y :: xs.drop (i + 1))).Perm
        (xs[i] :: y :: (xs.take i ++ xs.drop (i + 1))) := .cons _ List.perm_middle
    _ |>.Perm (y :: xs[i] :: (xs.take i ++ xs.drop (i + 1))) := .swap ..
    _ |>.Perm (y :: (xs.take i ++ xs[i] :: xs.drop (i + 1))) := .cons _ List.perm_middle.symm
    _ |>.Perm (y :: xs) := by rw [← split]

theorem set_append_set_perm (hi : i < xs.length) (hj : j < ys.length) :
    (xs.set i ys[j] ++ ys.set j xs[i]).Perm (xs ++ ys) := by
  refine (List.perm_cons xs[i]).mp ?_
  calc (xs[i] :: (xs.set i ys[j] ++ ys.set j xs[i])).Perm
        (ys[j] :: xs ++ ys.set j xs[i]) := (cons_set_perm hi ys[j]).append_right _
    _ |>.Perm (xs ++ ys[j] :: ys.set j xs[i]) := List.perm_middle.symm
    _ |>.Perm (xs ++ xs[i] :: ys) := (cons_set_perm hj xs[i]).append_left _
    _ |>.Perm (xs[i] :: (xs ++ ys)) := List.perm_middle

end Replaced

namespace Move

variable {m : Model} {s : Solution} {move : Move}

/-! ### When a move makes sense -/

section Faults

variable {origin start length destination target first position second vehicle last node : Nat}

theorem canCarry_iff : canCarry s origin start length destination target = true ↔
    origin < s.trips.length ∧ destination < s.trips.length ∧
      start + length ≤ (s.nodes origin).length ∧
      target ≤ (s.nodes destination).length - if origin = destination then length else 0 := by
  simp [canCarry, and_assoc]

theorem hasStop_iff : hasStop s vehicle position = true ↔
    vehicle < s.trips.length ∧ position < (s.nodes vehicle).length := by
  simp [hasStop]

theorem fault?_relocate : fault? m s (.relocate origin position destination target) = none ↔
    canCarry s origin position 1 destination target = true := by
  simp [fault?]

theorem fault?_orOpt : fault? m s (.orOpt origin start length destination target) = none ↔
    canCarry s origin start length destination target = true := by
  simp [fault?]

theorem fault?_swap : fault? m s (.swap first position second target) = none ↔
    ¬ (first = second ∧ position = target) ∧ hasStop s first position = true ∧
      hasStop s second target = true := by
  simp only [fault?]
  split <;> simp_all

theorem fault?_twoOpt : fault? m s (.twoOpt vehicle first last) = none ↔
    first < last ∧ hasStop s vehicle last = true := by
  simp only [fault?]
  split <;> simp <;> omega

theorem fault?_insertDropped : fault? m s (.insertDropped node vehicle position) = none ↔
    vehicle < s.trips.length ∧ position ≤ (s.nodes vehicle).length ∧ node < m.numNodes := by
  simp [fault?, and_assoc]

theorem fault?_exchangeDropped : fault? m s (.exchangeDropped node vehicle position) = none ↔
    hasStop s vehicle position = true ∧ node < m.numNodes := by
  simp [fault?]

end Faults

/-! ### The vehicles of a move -/

theorem map_vehicle_changes (s : Solution) (move : Move) :
    (move.changes s).map Change.vehicle = move.updated := by
  cases move with
  | relocate | orOpt | swap => simp only [changes, carry, updated]; split <;> rfl
  | twoOpt | insertDropped | exchangeDropped => rfl

theorem nodup_updated (move : Move) : move.updated.Nodup := by
  cases move with
  | relocate | orOpt | swap => simp only [updated]; split <;> simp_all
  | twoOpt | insertDropped | exchangeDropped => exact List.nodup_singleton _

/-! ### The deliveries of a move -/

/-- Carrying a run to another place loses nothing, wherever the place is. -/
theorem carry_perm (s : Solution) (origin start length destination target : Nat) :
    ((carry s origin start length destination target).flatMap Change.nodes).Perm
      ((if origin = destination then [origin] else [origin, destination]).flatMap s.nodes) := by
  have whole := segment_append_cut_perm (s.nodes origin) start length
  simp only [carry]
  by_cases h : origin = destination
  · rw [if_pos h, if_pos h]
    simpa using splice_perm.trans whole
  · rw [if_neg h, if_neg h]
    simp only [List.flatMap_cons, List.flatMap_nil, List.append_nil]
    calc (cut (s.nodes origin) start length ++
          splice (s.nodes destination) target (segment (s.nodes origin) start length)).Perm
          (cut (s.nodes origin) start length ++
            (segment (s.nodes origin) start length ++ s.nodes destination)) :=
          splice_perm.append_left _
      _ |>.Perm (segment (s.nodes origin) start length ++ cut (s.nodes origin) start length ++
            s.nodes destination) := by
          rw [← List.append_assoc]; exact List.perm_append_comm.append_right _
      _ |>.Perm (s.nodes origin ++ s.nodes destination) := whole.append_right _

/-- **A move moves deliveries around**: beside the delivery it drops, the new trips hold what the
old ones held and the delivery it takes in. -/
theorem changes_perm (h : move.fault? m s = none) :
    ((move.changes s).flatMap Change.nodes ++ (move.removed? s).toList).Perm
      (move.updated.flatMap s.nodes ++ move.inserted?.toList) := by
  cases move with
  | relocate origin position destination target =>
    simpa [changes, removed?, inserted?, updated] using carry_perm s origin position 1 _ target
  | orOpt origin start length destination target =>
    simpa [changes, removed?, inserted?, updated] using carry_perm s origin start length _ target
  | swap first position second target =>
    obtain ⟨-, hfirst, hsecond⟩ := fault?_swap.mp h
    have hx := (hasStop_iff.mp hfirst).2
    have hy := (hasStop_iff.mp hsecond).2
    simp only [changes, updated, removed?, inserted?, Option.toList_none, List.append_nil,
      List.getD_eq_getElem _ _ hx, List.getD_eq_getElem _ _ hy]
    by_cases he : first = second
    · subst he
      simpa using List.set_set_perm hx hy
    · simpa [he] using set_append_set_perm hx hy
  | twoOpt vehicle first last =>
    have order : first ≤ last + 1 := by have := (fault?_twoOpt.mp h).1; omega
    simpa [changes, removed?, inserted?, updated] using reverseSegment_perm (s.nodes vehicle) order
  | insertDropped node vehicle position =>
    simpa [changes, removed?, inserted?, updated] using
      splice_perm.trans List.perm_append_comm
  | exchangeDropped node vehicle position =>
    have hx := (hasStop_iff.mp (fault?_exchangeDropped.mp h).1).2
    simp only [changes, updated, removed?, inserted?, Option.toList_some,
      List.getD_eq_getElem _ _ hx, List.flatMap_cons, List.flatMap_nil, List.append_nil]
    calc ((s.nodes vehicle).set position node ++ [(s.nodes vehicle)[position]]).Perm
          ((s.nodes vehicle)[position] :: (s.nodes vehicle).set position node) :=
          List.perm_append_singleton _ _
      _ |>.Perm (node :: s.nodes vehicle) := cons_set_perm hx node
      _ |>.Perm (s.nodes vehicle ++ [node]) := (List.perm_append_singleton _ _).symm

theorem lt_length_of_canCarry (h : canCarry s origin start length destination target = true) :
    ∀ v ∈ if origin = destination then [origin] else [origin, destination],
      v < s.trips.length := by
  obtain ⟨ho, hd, -⟩ := canCarry_iff.mp h
  intro v hv
  split at hv
  · rwa [List.mem_singleton.mp hv]
  · rcases List.mem_pair.mp hv with rfl | rfl
    · exact ho
    · exact hd

theorem lt_length_of_mem_updated (h : move.fault? m s = none) :
    ∀ v ∈ move.updated, v < s.trips.length := by
  cases move with
  | relocate => exact lt_length_of_canCarry (fault?_relocate.mp h)
  | orOpt => exact lt_length_of_canCarry (fault?_orOpt.mp h)
  | swap first position second target =>
    obtain ⟨-, hfirst, hsecond⟩ := fault?_swap.mp h
    simp only [updated]
    split <;> simp [(hasStop_iff.mp hfirst).1, (hasStop_iff.mp hsecond).1]
  | twoOpt vehicle first last =>
    simpa [updated] using (hasStop_iff.mp (fault?_twoOpt.mp h).2).1
  | insertDropped node vehicle position =>
    simpa [updated] using (fault?_insertDropped.mp h).1
  | exchangeDropped node vehicle position =>
    simpa [updated] using (hasStop_iff.mp (fault?_exchangeDropped.mp h).1).1

end Move

end DeliveryRouting
