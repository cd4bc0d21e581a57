import DeliveryRouting.Proofs.Arithmetic.Comparison
import DeliveryRouting.Proofs.Search.Improvement

/-! # Where descents end

A descent looks at the neighbourhoods in an order that it draws anew before each move, and gives up
after one look at all of them. No order loses a neighbourhood (`Random.shuffle_perm`), and a look
at one without any accepted move asks of every move whether it is an improvement
(`bestMove_eq_none_iff`), so a descent that nothing stops ends at a solution that no move of any
kind improves (`descend_to_optimum`).

On the way each move only has to beat the best one so far. That makes it an improvement, unless that
one's price was no number, as an infinite weight can make it
(`Operator.Accepted.improves_of_numbers`). -/

namespace DeliveryRouting

/-! ### Orders of the neighbourhoods -/

namespace Random

variable {α : Type}

theorem swapIfInBounds_perm (xs : Array α) (i j : Nat) :
    (xs.swapIfInBounds i j).toList.Perm xs.toList := by
  unfold Array.swapIfInBounds
  split
  · split
    · exact (Array.swap_perm _ _).toList
    · exact .refl _
  · exact .refl _

theorem exchange_perm (steps i code : Nat) (xs : Array α) :
    (exchange steps i code xs).toList.Perm xs.toList := by
  induction steps generalizing i code xs with
  | zero => exact .refl _
  | succ steps ih => exact (ih _ _ _).trans (swapIfInBounds_perm xs _ _)

theorem shuffle_perm (xs : Array α) (r : Random) : (shuffle xs r).1.toList.Perm xs.toList :=
  exchange_perm _ 1 (r.below orders).1 xs

end Random

namespace Neighbourhoods

theorem reorder_perm (n : Neighbourhoods) : n.reorder.order.toList.Perm n.order.toList :=
  Random.shuffle_perm n.order n.random

/-- Whatever the seed is and how often the order was drawn anew, it is one of all six
neighbourhoods. -/
theorem order_perm (seed : UInt64) (looks : Nat) :
    (reorder^[looks] (start seed)).order.toList.Perm
      [.relocate, .orOpt, .swap, .twoOpt, .insertDropped, .exchangeDropped] := by
  induction looks with
  | zero =>
    show initialOrder.toList.Perm _
    decide
  | succ looks ih =>
    rw [Function.iterate_succ_apply']
    exact (reorder_perm _).trans ih

theorem mem_order (seed : UInt64) (looks : Nat) (operator : Operator) :
    operator ∈ (reorder^[looks] (start seed)).order.toList := by
  rw [(order_perm seed looks).mem_iff]
  cases operator <;> decide

end Neighbourhoods

/-! ### Looks without a move -/

section Looks

variable {m : Model} {g : Guidance} {s : Solution} {operator : Operator}

theorem betterMove_eq_none_iff {best : Option EvaluatedMove} {move : Move} :
    betterMove m g s best move = none ↔
      best = none ∧ move.evaluate m g s improvementThreshold = none := by
  unfold betterMove
  cases best with
  | none =>
    dsimp only
    cases move.evaluate m g s improvementThreshold <;> simp
  | some b =>
    dsimp only
    cases move.evaluate m g s b.delta <;> simp

/-- As long as there is no best move, each move is measured against the threshold itself. -/
theorem foldl_betterMove_eq_none_iff {moves : List Move} {best : Option EvaluatedMove} :
    moves.foldl (betterMove m g s) best = none ↔
      best = none ∧ ∀ move ∈ moves, move.evaluate m g s improvementThreshold = none := by
  induction moves generalizing best with
  | nil => simp
  | cons move moves ih =>
    rw [List.foldl_cons, ih, betterMove_eq_none_iff, List.forall_mem_cons, and_assoc]

theorem bestMove_eq_none_iff : bestMove m g s operator = none ↔
    ∀ move ∈ operator.moves m s, move.evaluate m g s improvementThreshold = none := by
  rw [bestMove, foldl_betterMove_eq_none_iff, eq_self_iff_true, true_and]

/-- No move of any kind improves the solution. -/
def Solution.LocallyOptimal (m : Model) (g : Guidance) (s : Solution) : Prop :=
  ∀ operator : Operator, ∀ move ∈ operator.moves m s,
    move.evaluate m g s improvementThreshold = none

/-- A look at all neighbourhoods that finds no move finds that there is none. -/
theorem locallyOptimal_of_improvingMove {n : Neighbourhoods}
    (all : ∀ operator, operator ∈ n.order.toList) (h : improvingMove m g s n = none) :
    s.LocallyOptimal m g := fun operator =>
  bestMove_eq_none_iff.mp (List.findSome?_eq_none_iff.mp h operator (all operator))

theorem Move.evaluate_eq_some_iff {move : Move} {threshold : Float} {e : EvaluatedMove} :
    move.evaluate m g s threshold = some e ↔ ¬ threshold ≤ move.delta m g s ∧
      ∃ changes, move.schedules? m s = some changes ∧ e = ⟨changes, move.delta m g s⟩ := by
  unfold Move.evaluate
  dsimp only
  split
  · next dear => exact ⟨(nomatch ·), fun h => absurd dear h.1⟩
  · next cheap =>
    rw [Option.map_eq_some_iff]
    exact ⟨fun ⟨changes, runs, he⟩ => ⟨cheap, changes, runs, he.symm⟩,
      fun ⟨_, changes, runs, he⟩ => ⟨changes, runs, he.symm⟩⟩

/-- Where all prices are numbers, an accepted move is an improvement. -/
theorem Operator.Accepted.improves_of_numbers {e : EvaluatedMove} (h : operator.Accepted m g s e)
    (numbers : ∀ move ∈ operator.moves m s, (move.delta m g s).isNaN = false) :
    ∃ move ∈ operator.moves m s, move.evaluate m g s improvementThreshold = some e := by
  induction h with
  | improves generated accepted => exact ⟨_, generated, accepted⟩
  | @better move e best _ generated accepted ih =>
    obtain ⟨earlier, hearlier, improves⟩ := ih
    obtain ⟨cheap, changes, -, rfl⟩ := Move.evaluate_eq_some_iff.mp improves
    obtain ⟨cheaper, runs⟩ := Move.evaluate_eq_some_iff.mp accepted
    have transitive := Doubles.not_le_trans (numbers earlier hearlier) cheap cheaper
    exact ⟨move, generated, Move.evaluate_eq_some_iff.mpr ⟨transitive, runs⟩⟩

end Looks

/-! ### Descents -/

/-- The moves lead from one solution to another, each of them accepted where it is made. -/
inductive Improves (m : Model) (g : Guidance) : Solution → List EvaluatedMove → Solution → Prop
  | nil (s : Solution) : Improves m g s [] s
  | cons {s s' : Solution} {operator : Operator} {e : EvaluatedMove} {moves : List EvaluatedMove}
      (accepted : operator.Accepted m g s e) (rest : Improves m g (e.apply m s) moves s') :
      Improves m g s (e :: moves) s'

section Descent

variable {m : Model} {g : Guidance} {stops : Poll → Bool} {steps : Nat} {d : Descent}

/-- A descent makes one accepted move after the other, counts them, and draws one order of the
neighbourhoods after the other. -/
theorem descend_improves : (descend m g stops steps d).Always fun ended =>
    ∃ moves looks, Improves m g d.solution moves ended.2.solution ∧
      ended.2.moves = d.moves + moves.length ∧
      ended.2.neighbourhoods = Neighbourhoods.reorder^[looks] d.neighbourhoods ∧
      (ended.1 = .outOfSteps → moves.length = steps) ∧
      (ended.1 = .localOptimum →
        improvingMove m g ended.2.solution ended.2.neighbourhoods = none) := by
  induction steps generalizing d with
  | zero => exact ⟨[], 0, .nil _, rfl, rfl, fun _ => rfl, fun h => nomatch h⟩
  | succ steps ih =>
    intro poll
    dsimp only
    split
    · exact ⟨[], 0, .nil _, rfl, rfl, (fun h => nomatch h), fun h => nomatch h⟩
    · cases found : improvingMove m g d.solution d.neighbourhoods.reorder with
      | none =>
        exact ⟨[], 1, .nil _, rfl, by rw [Function.iterate_one], (fun h => nomatch h),
          fun _ => found⟩
      | some e =>
        obtain ⟨operator, -, accepted⟩ := accepted_of_improvingMove found
        refine .mono (fun ended hended => ?_) ih
        obtain ⟨moves, looks, path, count, orders, out, optimum⟩ := hended
        refine ⟨e :: moves, looks + 1, .cons accepted path, ?_, ?_, fun h => ?_, optimum⟩
        · rw [count, List.length_cons, Nat.add_assoc, Nat.add_comm 1]
        · rw [Function.iterate_succ_apply]
          exact orders
        · rw [List.length_cons, out h]

theorem told_of_stopped {signal : Nat → Poll} {first asked : Nat} {d' : Descent}
    (h : (descend m g stops steps d).run signal first = ((.stopped, d'), asked)) :
    ∃ i, first ≤ i ∧ i < asked ∧ stops (signal i) = true := by
  induction steps generalizing d first with
  | zero => cases h
  | succ steps ih =>
    rw [descend, Polling.run_ask] at h
    dsimp only at h
    split at h
    · next told =>
      cases h
      exact ⟨first, Nat.le_refl _, Nat.lt_succ_self _, told⟩
    · cases found : improvingMove m g d.solution d.neighbourhoods.reorder with
      | none => rw [found] at h; cases h
      | some e =>
        rw [found] at h
        obtain ⟨i, late, early, told⟩ := ih h
        exact ⟨i, Nat.le_of_succ_le late, early, told⟩

end Descent

/-- **A descent ends when it is told to or at an optimum of all neighbourhoods.** Whatever solution,
penalties, seed and history of orders it starts from, it makes as many moves as it counts, each of
them accepted where it is made; if it ends without having been told to, no move of any kind improves
its solution; and the orders in which it looks at the neighbourhoods lack none of them. -/
theorem descend_to_optimum (m : Model) (g : Guidance) (stops : Poll → Bool) (steps : Nat)
    (s : Solution) (seed : UInt64) (history : Nat) (signal : Nat → Poll) (first : Nat)
    (ending : DescentEnd) (d : Descent) (asked : Nat)
    (h : (descend m g stops steps
      ⟨s, Neighbourhoods.reorder^[history] (.start seed), 0⟩).run signal first =
        ((ending, d), asked)) :
    (ending ≠ .outOfSteps → (∀ i, first ≤ i → i < asked → stops (signal i) = false) →
      d.solution.LocallyOptimal m g) ∧
    (ending = .stopped → ∃ i, first ≤ i ∧ i < asked ∧ stops (signal i) = true) ∧
    (∃ moves, Improves m g s moves d.solution ∧ d.moves = moves.length ∧
      (ending = .outOfSteps → moves.length = steps)) ∧
    (∃ looks, d.neighbourhoods = Neighbourhoods.reorder^[looks + history] (.start seed)) ∧
    ∀ looks, (Neighbourhoods.reorder^[looks] (.start seed)).order.toList.Perm
      [.relocate, .orOpt, .swap, .twoOpt, .insertDropped, .exchangeDropped] := by
  have run := (@descend_improves m g stops steps
    ⟨s, Neighbourhoods.reorder^[history] (.start seed), 0⟩).run signal first
  rw [h] at run
  obtain ⟨moves, looks, path, count, orders, out, optimum⟩ := run
  rw [← Function.iterate_add_apply] at orders
  have stopped (ends : ending = .stopped) :
      ∃ i, first ≤ i ∧ i < asked ∧ stops (signal i) = true := by
    rw [ends] at h
    exact told_of_stopped h
  refine ⟨fun ends quiet => ?_, stopped, ⟨moves, path, ?_, out⟩, ⟨looks, orders⟩,
    Neighbourhoods.order_perm seed⟩
  · cases ending with
    | outOfSteps => exact absurd rfl ends
    | stopped =>
      obtain ⟨i, late, early, told⟩ := stopped rfl
      rw [quiet i late early] at told
      cases told
    | localOptimum =>
      refine locallyOptimal_of_improvingMove (fun operator => ?_) (optimum rfl)
      rw [orders]
      exact Neighbourhoods.mem_order seed _ operator
  · rw [count, Nat.zero_add]

/-- From the solution in which no vehicle moves the descent serves the single delivery, and asks
twice. -/
theorem descend_to_optimum_loneModel :
    (descend loneModel (Guidance.start 0.1) Poll.cancelled 5
      ⟨Solution.empty loneModel, Neighbourhoods.reorder^[3] (.start 7), 0⟩).run undisturbed 0 =
        ((.localOptimum, ⟨loneTour, Neighbourhoods.reorder^[5] (.start 7), 1⟩), 2) ∧
    loneTour.LocallyOptimal loneModel (Guidance.start 0.1) ∧
    ∃ moves, Improves loneModel (Guidance.start 0.1) (Solution.empty loneModel) moves loneTour ∧
      1 = moves.length := by
  have run : (descend loneModel (Guidance.start 0.1) Poll.cancelled 5
      ⟨Solution.empty loneModel, Neighbourhoods.reorder^[3] (.start 7), 0⟩).run undisturbed 0 =
        ((.localOptimum, ⟨loneTour, Neighbourhoods.reorder^[5] (.start 7), 1⟩), 2) := by
    decide +kernel
  obtain ⟨optimal, -, ⟨moves, path, count, -⟩, -, -⟩ := descend_to_optimum loneModel
    (Guidance.start 0.1) Poll.cancelled 5 (Solution.empty loneModel) 7 3 undisturbed 0 _ _ _ run
  exact ⟨run, optimal (by decide) fun _ _ _ => rfl, moves, path, count⟩

end DeliveryRouting
