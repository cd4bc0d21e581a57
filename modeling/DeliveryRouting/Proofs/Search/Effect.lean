import DeliveryRouting.Proofs.Search.Generation
import DeliveryRouting.Proofs.Search.Segments

/-! # Moves that change something

No delivery stands twice on a trip. A run that goes to another place, two deliveries that exchange
their places and a run that is reversed therefore leave another delivery at some index, and the
other moves bring a trip a delivery that it did not have, or take one from it. Each candidate
changes at least one trip (`exists_changed`).

A run of two stops is not reversed, because that is what a swap of the two does
(`reverseSegment_pair`). -/

namespace DeliveryRouting

/-! ### Lists of different entries -/

section Entries

variable {α : Type} {xs ys : List α} {i j start length target first last : Nat}

theorem getElem?_splice_self (hi : i ≤ xs.length) (hys : 0 < ys.length) :
    (splice xs i ys)[i]? = ys[0]? := by
  have taken : (xs.take i).length = i := by rw [List.length_take]; omega
  rw [splice, List.append_assoc, List.getElem?_append_right (by omega), taken, Nat.sub_self,
    List.getElem?_append_left hys]

theorem getElem?_segment_zero (hlength : 0 < length) :
    (segment xs start length)[0]? = xs[start]? := by
  rw [segment, List.getElem?_take_of_lt hlength, List.getElem?_drop, Nat.add_zero]

/-- At the place where a run is put stands its first entry. -/
theorem splice_cut_ne (hxs : xs.Nodup) (hlength : 0 < length) (run : start + length ≤ xs.length)
    (place : target + length ≤ xs.length) (moved : target ≠ start) :
    splice (cut xs start length) target (segment xs start length) ≠ xs := by
  intro same
  have left := length_cut run
  have carried := length_segment run
  have here : (splice (cut xs start length) target (segment xs start length))[target]? =
      xs[start]? := by
    rw [getElem?_splice_self (by omega) (by omega), getElem?_segment_zero hlength]
  rw [same] at here
  exact moved ((List.getElem?_inj (by omega) hxs).mp here)

theorem set_set_ne (hxs : xs.Nodup) (hi : i < xs.length) (hj : j < xs.length) (apart : i ≠ j) :
    (xs.set i xs[j]).set j xs[i] ≠ xs := by
  intro same
  have here : ((xs.set i xs[j]).set j xs[i])[i]? = xs[j]? := by
    rw [List.getElem?_set_ne (Ne.symm apart), List.getElem?_set_self hi,
      List.getElem?_eq_getElem hj]
  rw [same] at here
  exact apart ((List.getElem?_inj hi hxs).mp here)

theorem reverseSegment_ne (hxs : xs.Nodup) (run : first < last) (hlast : last < xs.length) :
    reverseSegment xs first last ≠ xs := by
  intro same
  have taken : (xs.take first).length = first := by rw [List.length_take]; omega
  have reversed : (segment xs first (last + 1 - first)).length = last + 1 - first :=
    length_segment (by omega)
  have here : (reverseSegment xs first last)[first]? = xs[last]? := by
    rw [reverseSegment, List.append_assoc, List.getElem?_append_right (by omega), taken,
      Nat.sub_self, List.getElem?_append_left (by rw [List.length_reverse]; omega),
      List.getElem?_reverse (by omega), reversed, segment, List.getElem?_take_of_lt (by omega),
      List.getElem?_drop]
    congr 1
    omega
  rw [same] at here
  have := (List.getElem?_inj (by omega) hxs).mp here
  omega

theorem reverseSegment_pair (h : i + 1 < xs.length) :
    reverseSegment xs i (i + 1) = (xs.set i xs[i + 1]).set (i + 1) xs[i] := by
  have split : xs = xs.take i ++ xs[i] :: xs[i + 1] :: xs.drop (i + 2) := by
    rw [← List.drop_eq_getElem_cons h, ← List.drop_eq_getElem_cons (by omega),
      List.take_append_drop]
  have taken : (xs.take i).length = i := by rw [List.length_take]; omega
  have pair : segment xs i 2 = [xs[i], xs[i + 1]] := by
    rw [segment, List.drop_eq_getElem_cons (by omega), List.drop_eq_getElem_cons h]
    rfl
  have exchange (ps qs : List α) (x y : α) :
      ((ps ++ x :: y :: qs).set ps.length y).set (ps.length + 1) x = ps ++ y :: x :: qs := by simp
  have exchanged := exchange (xs.take i) (xs.drop (i + 2)) xs[i] xs[i + 1]
  rw [← split, taken] at exchanged
  rw [exchanged, reverseSegment, show i + 1 + 1 - i = 2 by omega, pair, List.append_assoc]
  rfl

end Entries

namespace Operator

open Solution

variable {m : Model} {s : Solution} {move : Move} {operator : Operator}

theorem exists_changed_carry (hs : s.Consistent m) {origin start length destination target : Nat}
    (hlength : 0 < length) (run : start + length ≤ (s.nodes origin).length)
    (place : IsPlace s origin start length destination target) :
    ∃ change ∈ Move.carry s origin start length destination target,
      change.nodes ≠ s.nodes change.vehicle := by
  unfold Move.carry
  by_cases own : origin = destination
  · subst own
    rw [IsPlace, if_pos rfl] at place
    rw [if_pos rfl]
    exact ⟨_, List.mem_singleton_self _,
      splice_cut_ne (hs.nodup_nodes origin) hlength run place.1 place.2⟩
  · rw [if_neg own]
    refine ⟨_, List.mem_cons_self, fun same => ?_⟩
    have left := length_cut run
    have whole := congrArg List.length same
    dsimp only at whole
    omega

/-- **A candidate changes a trip.** -/
theorem Candidate.exists_changed (hs : s.Consistent m) (h : operator.Candidate s move) :
    ∃ change ∈ move.changes s, change.nodes ≠ s.nodes change.vehicle := by
  cases h with
  | relocate stop place => exact exists_changed_carry hs Nat.one_pos stop place
  | orOpt few run place => exact exists_changed_carry hs (by omega) run place
  | @swap first position second target here there order =>
    by_cases own : first = second
    · subst own
      have apart : position ≠ target := by omega
      simp only [Move.changes, if_pos, List.getD_eq_getElem _ _ here,
        List.getD_eq_getElem _ _ there]
      exact ⟨_, List.mem_singleton_self _, set_set_ne (hs.nodup_nodes first) here there apart⟩
    · simp only [Move.changes, if_neg own, List.getD_eq_getElem _ _ here,
        List.getD_eq_getElem _ _ there]
      refine ⟨_, List.mem_cons_self, fun same => ?_⟩
      have taken : (s.nodes second)[target] ∈ s.nodes first := same ▸ List.mem_set here _
      exact hs.notMem_nodes_of_ne (Ne.symm own) (List.getElem_mem there) taken
  | @twoOpt vehicle first last run stop =>
    exact ⟨_, List.mem_singleton_self _,
      reverseSegment_ne (hs.nodup_nodes vehicle) (by omega) stop⟩
  | insertDropped dropped known place =>
    refine ⟨_, List.mem_singleton_self _, fun same => ?_⟩
    have longer := congrArg List.length same
    rw [length_splice, List.length_singleton] at longer
    dsimp only at longer
    omega
  | @exchangeDropped node vehicle position dropped stop =>
    refine ⟨_, List.mem_singleton_self _, fun same => ?_⟩
    have taken : node ∈ s.nodes vehicle := same ▸ List.mem_set stop _
    exact hs.notMem_nodes_of_mem_dropped dropped vehicle taken

theorem changes_twoOpt_pair {vehicle position : Nat}
    (h : position + 1 < (s.nodes vehicle).length) :
    (Move.twoOpt vehicle position (position + 1)).changes s =
      (Move.swap vehicle position vehicle (position + 1)).changes s := by
  have here : position < (s.nodes vehicle).length := by omega
  simp only [Move.changes, if_pos, List.getD_eq_getElem _ _ h, List.getD_eq_getElem _ _ here]
  rw [reverseSegment_pair h]

theorem changes_swap_comm {first position second target : Nat}
    (apart : ¬ (first = second ∧ position = target)) :
    ((Move.swap first position second target).changes s).Perm
      ((Move.swap second target first position).changes s) := by
  by_cases own : first = second
  · subst own
    have places : position ≠ target := fun same => apart ⟨rfl, same⟩
    simp only [Move.changes, if_pos]
    rw [List.set_comm _ _ places]
  · simp only [Move.changes, if_neg own, if_neg (Ne.symm own)]
    exact .swap ..

end Operator

end DeliveryRouting
