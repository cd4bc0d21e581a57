import DeliveryRouting.Search.Move
import Mathlib.Data.List.GetD

/-! # Lists taken apart and put together

What is cut out of a list and put in again gives the list back (`splice_cut`), and so does what is
put in and cut out again (`cut_splice`, `segment_splice`). A segment that is reversed twice is as it
was (`reverseSegment_reverseSegment`), and so are two entries that are exchanged twice
(`exchange_exchange`). -/

namespace DeliveryRouting

variable {α : Type} {xs : List α} {i j start length first last : Nat}

theorem length_cut (run : start + length ≤ xs.length) :
    (cut xs start length).length + length = xs.length := by
  rw [cut, List.length_append, List.length_take, List.length_drop]
  omega

theorem length_segment (run : start + length ≤ xs.length) :
    (segment xs start length).length = length := by
  rw [segment, List.length_take, List.length_drop]
  omega

theorem segment_one (h : i < xs.length) (default : α) :
    segment xs i 1 = [xs.getD i default] := by
  rw [segment, List.drop_eq_getElem_cons h, List.getD_eq_getElem _ _ h]
  rfl

theorem insertIdx_eq_splice (h : i ≤ xs.length) (x : α) : xs.insertIdx i x = splice xs i [x] := by
  induction xs generalizing i with
  | nil =>
    obtain rfl : i = 0 := Nat.le_zero.mp h
    rfl
  | cons y xs ih =>
    cases i with
    | zero => rfl
    | succ i => simpa [splice] using ih (Nat.le_of_succ_le_succ h)

/-! ### There and back -/

theorem cut_splice (h : i ≤ xs.length) (ys : List α) :
    cut (splice xs i ys) i ys.length = xs := by
  have before : (xs.take i).length = i := List.length_take_of_le h
  rw [cut, splice, List.append_assoc, List.take_left' before, ← List.drop_drop,
    List.drop_left' before, List.drop_left, List.take_append_drop]

theorem segment_splice (h : i ≤ xs.length) (ys : List α) :
    segment (splice xs i ys) i ys.length = ys := by
  have before : (xs.take i).length = i := List.length_take_of_le h
  rw [segment, splice, List.append_assoc, List.drop_left' before, List.take_left]

theorem splice_cut (h : start ≤ xs.length) (length : Nat) :
    splice (cut xs start length) start (segment xs start length) = xs := by
  have before : (xs.take start).length = start := List.length_take_of_le h
  rw [splice, cut, segment, List.take_left' before, List.drop_left' before, ← List.drop_drop,
    List.append_assoc, List.take_append_drop, List.take_append_drop]

theorem length_reverseSegment (h : first ≤ last + 1) :
    (reverseSegment xs first last).length = xs.length :=
  (reverseSegment_perm xs h).length_eq

theorem reverseSegment_append {as bs : List α} (before : as.length = first)
    (between : first + bs.length = last + 1) (cs : List α) :
    reverseSegment (as ++ bs ++ cs) first last = as ++ bs.reverse ++ cs := by
  have whole : (as ++ bs).length = last + 1 := by rw [List.length_append, before, between]
  rw [reverseSegment, segment, List.drop_left' whole, List.append_assoc as bs cs,
    List.take_left' before, List.drop_left' before, ← between, Nat.add_sub_cancel_left,
    List.take_left]

theorem reverseSegment_reverseSegment (h : first ≤ last + 1) (hlast : last < xs.length) :
    reverseSegment (reverseSegment xs first last) first last = xs := by
  have before : (xs.take first).length = first := List.length_take_of_le (by omega)
  have between : first + (segment xs first (last + 1 - first)).reverse.length = last + 1 := by
    rw [List.length_reverse, length_segment (by omega), Nat.add_sub_cancel' h]
  have rest : xs.drop (last + 1) = (xs.drop first).drop (last + 1 - first) := by
    rw [List.drop_drop, Nat.add_sub_cancel' h]
  have again := reverseSegment_append before between (xs.drop (last + 1))
  rw [← reverseSegment, List.reverse_reverse] at again
  rw [again, segment, rest, List.append_assoc, List.take_append_drop, List.take_append_drop]

theorem getD_set_self (h : i < xs.length) (x default : α) : (xs.set i x).getD i default = x := by
  simp [h]

theorem set_getD_self (h : i < xs.length) (default : α) : xs.set i (xs.getD i default) = xs := by
  rw [List.getD_eq_getElem _ _ h, List.set_getElem_self]

theorem exchange_exchange (hi : i < xs.length) (hj : j < xs.length) (apart : i ≠ j) (default : α) :
    let zs := (xs.set i (xs.getD j default)).set j (xs.getD i default)
    (zs.set i (zs.getD j default)).set j (zs.getD i default) = xs := by
  intro zs
  have here : zs.getD i default = xs.getD j default := by
    unfold zs
    rw [List.set_comm _ _ apart, getD_set_self (by rwa [List.length_set])]
  have there : zs.getD j default = xs.getD i default :=
    getD_set_self (by rwa [List.length_set]) _ _
  rw [here, there]
  unfold zs
  rw [List.set_comm _ _ (Ne.symm apart), List.set_set, List.set_set, List.set_comm _ _ apart,
    set_getD_self hj, set_getD_self hi]

end DeliveryRouting
