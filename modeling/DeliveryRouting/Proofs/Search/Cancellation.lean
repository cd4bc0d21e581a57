import DeliveryRouting.Proofs.Search.Partition
import DeliveryRouting.Proofs.Search.Signals

/-! # Cancelled solves

A solve that is cancelled drops everything, wherever in the construction, the iterations or a
descent it is told so, and one that is never cancelled does not notice that it could have been.
Both are said of all signals at once in `solve_all_or_nothing`, for a search whose limits do not
hang on the clock.

A search gives up by coming to its end as if a limit were reached: a stopped descent is settled and
penalised like any other, and the next question ends the iterations. -/

namespace DeliveryRouting

/-! ### Limits -/

/-- The limits without one on the time do not hang on the clock. -/
theorem Params.exhausted_eq {p : Params} (clockless : p.timeLimit? = none) (a b : Int)
    (iterations stalled : Nat) :
    p.exhausted a iterations stalled = p.exhausted b iterations stalled := by
  have other : ∀ l ∈ p.limits, l.time? = none := List.findSome?_eq_none_iff.mp clockless
  rw [Params.exhausted, Params.exhausted, Bool.eq_iff_iff, List.any_eq_true, List.any_eq_true]
  refine exists_congr fun l => and_congr_right fun hl => ?_
  cases l with
  | time nanoseconds => cases other _ hl
  | iterations most => rfl
  | stalledIterations most => rfl

/-! ### Descents -/

section Descent

variable {m : Model} {g : Guidance} {stops : Poll → Bool} {steps : Nat} {d : Descent}

theorem descend_timeless
    (clockless : ∀ a b : Poll, a.cancelled = b.cancelled → stops a = stops b) :
    (descend m g stops steps d).Timeless := by
  induction steps generalizing d with
  | zero => trivial
  | succ steps ih =>
    refine Polling.Timeless.checkpoint clockless trivial ?_
    dsimp only
    cases improvingMove m g d.solution d.neighbourhoods.reorder with
    | none => trivial
    | some e => exact ih

theorem descend_givesUp (heeds : ∀ poll : Poll, poll.cancelled = true → stops poll = true) :
    (descend m g stops steps d).GivesUp (·.1 ≠ .outOfSteps) := by
  induction steps generalizing d with
  | zero => trivial
  | succ steps ih =>
    refine Polling.GivesUp.checkpoint heeds (fun h => nomatch h) trivial ?_
    dsimp only
    cases improvingMove m g d.solution d.neighbourhoods.reorder with
    | none => trivial
    | some e => exact ih

end Descent

/-! ### Searches -/

namespace Search

variable {m : Model} {p : Params} {steps : Nat} {t : Search}

theorem stops_of_cancelled (poll : Poll) (h : poll.cancelled = true) : t.stops p poll = true := by
  rw [stops, h, Bool.true_or]

theorem stops_eq (clockless : p.timeLimit? = none) (a b : Poll) (h : a.cancelled = b.cancelled) :
    t.stops p a = t.stops p b := by
  rw [stops, stops, h, Params.exhausted_eq clockless a.elapsed b.elapsed]

theorem iterate_timeless (clockless : p.timeLimit? = none) : (iterate m p steps t).Timeless := by
  induction steps generalizing t with
  | zero => trivial
  | succ steps ih =>
    refine .checkpoint (stops_eq clockless) trivial ?_
    refine (descend_timeless (stops_eq clockless)).bind fun (ending, d) => ?_
    dsimp only
    split
    · trivial
    · split
      · exact ih
      · trivial

theorem iterate_under_cancelled :
    (iterate m p (steps + 1) t).Under (·.cancelled = true) fun ended => ended ≠ none :=
  .checkpoint stops_of_cancelled (Option.some_ne_none t)

theorem iterate_givesUp : (iterate m p steps t).GivesUp fun ended => ended ≠ none := by
  induction steps generalizing t with
  | zero => trivial
  | succ steps ih =>
    refine .checkpoint stops_of_cancelled (Option.some_ne_none t) trivial ?_
    -- a descent without steps asks nothing, one with steps leaves one for the next iteration
    cases steps with
    | zero => trivial
    | succ steps =>
      refine (descend_givesUp stops_of_cancelled).bind (fun (ending, d) hd => ?stopped)
        fun (ending, d) => ?later
      case stopped =>
        dsimp only
        rw [if_neg hd]
        split
        · exact iterate_under_cancelled
        · exact Option.some_ne_none _
      case later =>
        dsimp only
        split
        · trivial
        · split
          · exact ih
          · trivial

end Search

/-! ### Solves -/

section Solve

variable {p : Params} {problem : Problem}

theorem solve_timeless (clockless : p.timeLimit? = none) (steps : Nat) (problem : Problem) :
    (solve p steps problem).Timeless := by
  unfold solve
  dsimp only
  split
  · trivial
  · refine .checkpoint (fun _ _ h => h) trivial ?_
    split
    · trivial
    · refine (Search.iterate_timeless clockless).bind fun ended => ?_
      cases ended with
      | none => trivial
      | some t => exact .checkpoint (fun _ _ h => h) trivial trivial

/-- A solve that is cancelled before it begins drops everything, whatever the problem is. -/
theorem solve_under_cancelled (steps : Nat) (several : 2 ≤ problem.durations.length) :
    (solve p steps problem).Under (·.cancelled = true)
      (· = .ok (Outcome.allDropped problem.durations.length)) := by
  unfold solve
  dsimp only
  rw [if_neg (by omega)]
  exact .checkpoint (fun _ h => h) rfl

theorem solve_givesUp (steps : Nat) (several : 2 ≤ problem.durations.length) :
    (solve p steps problem).GivesUp (· = .ok (Outcome.allDropped problem.durations.length)) := by
  unfold solve
  dsimp only
  rw [if_neg (by omega)]
  refine .checkpoint (fun _ h => h) rfl trivial ?_
  split
  · trivial
  · refine Search.iterate_givesUp.bind (fun ended hended => ?stopped) fun ended => ?later
    case stopped =>
      obtain ⟨t, rfl⟩ := Option.ne_none_iff_exists'.mp hended
      exact .checkpoint (fun _ h => h) rfl
    case later =>
      cases ended with
      | none => trivial
      | some t => exact .checkpoint (fun _ h => h) rfl trivial trivial

end Solve

/-- **Cancellation is all or nothing**: let a solve that is never cancelled ask `P` questions. If it
is cancelled from question `k` on, everything is dropped in case `k < P`, and else the result is the
same, be it an outcome or a fault. -/
theorem solve_all_or_nothing (p : Params) (clockless : p.timeLimit? = none) (steps : Nat)
    (problem : Problem) (several : 2 ≤ problem.durations.length) (quiet : Nat → Poll)
    (never : Quiet quiet) (k : Nat) (signal : Nat → Poll)
    (late : ∀ i, (signal i).cancelled = decide (k ≤ i)) :
    (solve p steps problem).answer signal =
      if k < (solve p steps problem).polls quiet then
        .ok (Outcome.allDropped problem.durations.length)
      else (solve p steps problem).answer quiet := by
  have timeless := solve_timeless clockless steps problem
  split
  · next asked =>
    exact (solve_givesUp steps several).run timeless never late (Nat.zero_le k) asked
  · next unasked =>
    refine congrArg Prod.fst (timeless.run_congr fun i _ hi => ?_)
    have before : i < k := Nat.lt_of_lt_of_le hi (Nat.le_of_not_lt unasked)
    rw [late, never, decide_eq_false_iff_not]
    omega

/-- The small problem is solved after three questions: cancelled from the last one on, nothing is
left of it. -/
theorem solve_all_or_nothing_pairProblem :
    (solve greedyParams 5 pairProblem).polls undisturbed = 3 ∧
      (solve greedyParams 5 pairProblem).answer (cancelledFrom 2) = .ok (Outcome.allDropped 3) ∧
      (solve greedyParams 5 pairProblem).answer (cancelledFrom 3) = .ok pairOutcome := by
  have asked : (solve greedyParams 5 pairProblem).polls undisturbed = 3 := rfl
  have cancelled (k : Nat) := solve_all_or_nothing greedyParams rfl 5 pairProblem (by decide)
    undisturbed quiet_undisturbed k (cancelledFrom k) fun _ => rfl
  refine ⟨asked, (cancelled 2).trans (if_pos ?_), (cancelled 3).trans ?_⟩
  · rw [asked]
    decide
  · rw [if_neg (by rw [asked]; decide)]
    exact solve_pairProblem

end DeliveryRouting
