import DeliveryRouting.Proofs.Search.Effect
import DeliveryRouting.Proofs.Search.Listing
import DeliveryRouting.Proofs.Search.Pruning
import DeliveryRouting.Proofs.Search.Reachable

/-! # The neighbourhoods are complete

What the search can find depends on the moves it looks at. A move that is left out for the loads of
its trips is one that could not be made, so that nothing is lost by leaving it out.

`Candidate` says which moves there are, kind by kind, without a word about loads. Two pairs of
stops are not told of twice: of the two ways to write a swap one is a candidate
(`candidate_swap_iff`), and the reversal of two stops is the swap of the two. -/

namespace DeliveryRouting.Solution

open Operator

variable {m : Model} {s : Solution}

/-- Of the two ways to tell of a swap of two served positions exactly one is a candidate. -/
theorem candidate_swap_iff {first position second target : Nat}
    (here : position < (s.nodes first).length) (there : target < (s.nodes second).length)
    (apart : ¬ (first = second ∧ position = target)) :
    Operator.swap.Candidate s (.swap first position second target) ↔
      ¬ Operator.swap.Candidate s (.swap second target first position) := by
  constructor
  · rintro ⟨-, -, order⟩ ⟨-, -, order'⟩
    omega
  · intro other
    refine .swap here there ?_
    by_contra order
    exact other (.swap there here (by omega))

/-- **The neighbourhoods of a consistent solution are complete.** Each kind lists its candidates
without repetition and no others, but for those by which a trip takes in a delivery and carries too
much; these have a trip that cannot be run, and those that are listed change a trip. Every two
served positions are exchanged by one swap, and to reverse two stops is one of these swaps. -/
theorem Consistent.neighbourhoods_complete (hs : s.Consistent m) :
    (∀ operator : Operator,
      (operator.moves m s).Nodup ∧
      (∀ move ∈ operator.moves m s, move.operator = operator) ∧
      (∀ move, move ∈ operator.moves m s ↔
        operator.Candidate s move ∧ ¬ Overloads m s (move.changes s)) ∧
      (∀ move, operator.Candidate s move → move ∉ operator.moves m s →
        ∃ change ∈ move.changes s, ∃ obstacle,
          Schedule.compute m change.vehicle change.nodes = .error obstacle ∧
            obstacle.isBadReference = false) ∧
      ∀ move ∈ operator.moves m s,
        ∃ change ∈ move.changes s, change.nodes ≠ s.nodes change.vehicle) ∧
    (∀ first position second target, position < (s.nodes first).length →
      target < (s.nodes second).length → ¬ (first = second ∧ position = target) →
        (Operator.swap.Candidate s (.swap first position second target) ↔
          ¬ Operator.swap.Candidate s (.swap second target first position)) ∧
        ((Move.swap first position second target).changes s).Perm
          ((Move.swap second target first position).changes s)) ∧
    ∀ vehicle position, position + 1 < (s.nodes vehicle).length →
      .swap vehicle position vehicle (position + 1) ∈ Operator.swap.moves m s ∧
        (Move.twoOpt vehicle position (position + 1)).changes s =
          (Move.swap vehicle position vehicle (position + 1)).changes s := by
  refine ⟨fun operator => ⟨nodup_moves operator, ?kind, fun move => mem_moves_iff hs, ?pruned,
      ?effect⟩,
    fun first position second target here there apart =>
      ⟨candidate_swap_iff here there apart, changes_swap_comm apart⟩,
    fun vehicle position stop => ⟨?pair, changes_twoOpt_pair stop⟩⟩
  case kind =>
    intro move generated
    exact (candidate_of_mem_moves generated).operator_eq
  case pruned =>
    intro move candidate left
    have overloads : Overloads m s (move.changes s) := by
      by_contra fits
      exact left ((mem_moves_iff hs).mpr ⟨candidate, fits⟩)
    exact exists_error_of_overloads hs candidate overloads
  case effect =>
    intro move generated
    exact (candidate_of_mem_moves generated).exists_changed hs
  case pair =>
    have here : position < (s.nodes vehicle).length := by omega
    exact (mem_moves_iff hs).mpr ⟨.swap here stop (.inr ⟨rfl, by omega⟩),
      not_overloads_swap here stop (by omega)⟩

/-- The small model when no vehicle can hold both deliveries. -/
def tightModel : Model := { pairModel with vehicles := #[⟨0, 0, 1⟩, ⟨0, 1, 1⟩] }

theorem reachable_pairApart_tightModel : Reachable tightModel pairApart := by
  have first : Reachable tightModel ((empty tightModel).tryInsert tightModel 1 0 0) :=
    .step .empty (.insert (by decide))
  have second : 2 ∈ ((empty tightModel).tryInsert tightModel 1 0 0).dropped := by decide
  exact .step first (@Step.insert tightModel _ 2 1 0 second)

/-- Each vehicle has a delivery and no room for the other one: the two may be exchanged, but none
may go to the other vehicle, whose trip could not be run. -/
theorem neighbourhoods_complete_pairApart : pairApart.Consistent tightModel ∧
    (Operator.swap.moves tightModel pairApart).Nodup ∧
    .swap 0 0 1 0 ∈ Operator.swap.moves tightModel pairApart ∧
    (∃ change ∈ (Move.swap 0 0 1 0).changes pairApart,
      change.nodes ≠ pairApart.nodes change.vehicle) ∧
    Operator.relocate.Candidate pairApart (.relocate 1 0 0 1) ∧
    .relocate 1 0 0 1 ∉ Operator.relocate.moves tightModel pairApart ∧
    ∃ change ∈ (Move.relocate 1 0 0 1).changes pairApart, ∃ obstacle,
      Schedule.compute tightModel change.vehicle change.nodes = .error obstacle ∧
        obstacle.isBadReference = false := by
  have hs := reachable_pairApart_tightModel.consistent
  obtain ⟨kinds, -, -⟩ := hs.neighbourhoods_complete
  have exchanged : .swap 0 0 1 0 ∈ Operator.swap.moves tightModel pairApart := by decide
  have candidate : Operator.relocate.Candidate pairApart (.relocate 1 0 0 1) :=
    .relocate (by decide) (by unfold IsPlace; decide)
  have left : .relocate 1 0 0 1 ∉ Operator.relocate.moves tightModel pairApart := by decide
  obtain ⟨distinct, -, -, -, effect⟩ := kinds .swap
  obtain ⟨-, -, -, pruned, -⟩ := kinds .relocate
  exact ⟨hs, distinct, exchanged, effect _ exchanged, candidate, left, pruned _ candidate left⟩

end DeliveryRouting.Solution
