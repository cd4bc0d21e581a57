import DeliveryRouting.Proofs.Search.Cancellation

/-! # The rounds of a search that nobody cancels

Without a limit on the clock, a search that nobody cancels looks at its limits between two rounds
only: what it does in between, a descent to a local optimum and the penalties for it, is the same
whatever the limits are. `Descends` and `Search.Ends` say what such a descent and such a search come
to, without steps and signals (`descend_under_quiet`, `Search.iterate_under_quiet`).

The limits only tell after how many rounds the search is over. So of two searches from one start,
the one with the looser limits passes through the end of the other one (`Search.Ends.resume`), and
no round makes the best solution worse (`Search.Ends.bestCost_le`). -/

namespace DeliveryRouting

/-! ### Descents -/

/-- The moves from `d` on lead to the local optimum `d'`. -/
inductive Descends (m : Model) (g : Guidance) : Descent → Descent → Prop
  | optimum {d : Descent}
      (none : improvingMove m g d.solution d.neighbourhoods.reorder = none) :
      Descends m g d { d with neighbourhoods := d.neighbourhoods.reorder }
  | move {d d' : Descent} {e : EvaluatedMove}
      (found : improvingMove m g d.solution d.neighbourhoods.reorder = some e)
      (rest : Descends m g ⟨e.apply m d.solution, d.neighbourhoods.reorder, d.moves + 1⟩ d') :
      Descends m g d d'

section Descent

variable {m : Model} {g : Guidance} {d a b : Descent}

theorem Descends.unique (h : Descends m g d a) (h' : Descends m g d b) : a = b := by
  induction h with
  | optimum none =>
    cases h' with
    | optimum _ => rfl
    | move found _ => rw [none] at found; cases found
  | move found _ ih =>
    cases h' with
    | optimum none => rw [none] at found; cases found
    | move found' rest =>
      rw [found] at found'
      cases found'
      exact ih rest

theorem Descends.reaches (h : Descends m g d a) (hd : Solution.Reachable m d.solution) :
    Solution.Reachable m a.solution := by
  induction h with
  | optimum none => exact hd
  | move found _ ih => exact ih (hd.step (step_of_improvingMove found))

theorem descend_under_quiet {stops : Poll → Bool} {steps : Nat}
    (goesOn : ∀ poll : Poll, poll.cancelled = false → stops poll = false) :
    (descend m g stops steps d).Under (·.cancelled = false) fun ended =>
      ended.1 = .outOfSteps ∨ ended.1 ≠ .outOfSteps ∧ Descends m g d ended.2 := by
  induction steps generalizing d with
  | zero => exact .inl rfl
  | succ steps ih =>
    intro poll hpoll
    dsimp only
    rw [goesOn poll hpoll, if_neg Bool.false_ne_true]
    cases h : improvingMove m g d.solution d.neighbourhoods.reorder with
    | none => exact .inr ⟨(fun h => nomatch h), .optimum h⟩
    | some e =>
      refine .mono (fun ended hended => ?_) ih
      rcases hended with out | ⟨ended, rest⟩
      · exact .inl out
      · exact .inr ⟨ended, .move h rest⟩

end Descent

/-! ### Searches -/

namespace Search

/-- The search after a round whose descent has led to `d`, and whether there were arcs to
penalise. -/
def round (m : Model) (t : Search) (d : Descent) : Search × Bool := (t.settle m d).penalize m

/-- The search at `t` is over when it stands at `t'`: a limit is reached, or a local optimum travels
no arc. -/
inductive Ends (m : Model) (p : Params) : Search → Search → Prop
  | spent {t : Search} (reached : p.exhausted 0 t.iterations t.stalled = true) : Ends m p t t
  | last {t : Search} {d : Descent} (goesOn : p.exhausted 0 t.iterations t.stalled = false)
      (optimum : Descends m t.guidance t.descent d) (nowhere : (t.round m d).2 = false) :
      Ends m p t (t.round m d).1
  | next {t t' : Search} {d : Descent} (goesOn : p.exhausted 0 t.iterations t.stalled = false)
      (optimum : Descends m t.guidance t.descent d) (somewhere : (t.round m d).2 = true)
      (rest : Ends m p (t.round m d).1 t') : Ends m p t t'

variable {m : Model} {p p' : Params} {t t' a b : Search}

theorem stops_of_quiet (clockless : p.timeLimit? = none) (poll : Poll)
    (quiet : poll.cancelled = false) :
    t.stops p poll = p.exhausted 0 t.iterations t.stalled := by
  rw [stops, quiet, Bool.false_or, Params.exhausted_eq clockless poll.elapsed 0]

/-- **A search that nobody cancels runs out of steps or comes to its end.** -/
theorem iterate_under_quiet {steps : Nat} (clockless : p.timeLimit? = none) :
    (iterate m p steps t).Under (·.cancelled = false) fun ended => ∀ t' ∈ ended, Ends m p t t' := by
  induction steps generalizing t with
  | zero => exact fun _ h => nomatch h
  | succ steps ih =>
    intro poll hpoll
    dsimp only
    rw [stops_of_quiet clockless poll hpoll]
    cases spent : p.exhausted 0 t.iterations t.stalled with
    | true =>
      rintro t' ⟨⟩
      exact .spent spent
    | false =>
      have goesOn : ∀ poll : Poll, poll.cancelled = false → t.stops p poll = false :=
        fun poll hpoll => (stops_of_quiet clockless poll hpoll).trans spent
      refine (descend_under_quiet goesOn).bind fun (ending, d) hended => ?_
      dsimp only
      rcases hended with out | ⟨optimal, optimum⟩
      · rw [if_pos out]
        exact fun _ h => nomatch h
      · rw [if_neg optimal]
        cases found : ((t.settle m d).penalize m).2 with
        | true =>
          refine .mono (fun ended hended t' ht' => ?_) ih
          exact .next spent optimum found (hended t' ht')
        | false =>
          rintro t' ⟨⟩
          exact .last spent optimum found

theorem Ends.onTrack (h : Ends m p t t') (ht : t.OnTrack m) : t'.OnTrack m := by
  induction h with
  | spent => exact ht
  | last _ optimum _ => exact (ht.settle (optimum.reaches ht.current)).penalize
  | next _ optimum _ _ ih => exact ih (ht.settle (optimum.reaches ht.current)).penalize

/-! ### The best solution -/

/-- The best cost is that of the best solution. -/
def Priced (m : Model) (t : Search) : Prop := t.bestCost = t.best.totalCost m

theorem priced_start (s : Solution) : (start m p s).Priced m := rfl

theorem Priced.round (h : t.Priced m) (d : Descent) : (t.round m d).1.Priced m := by
  unfold Priced Search.round penalize settle
  dsimp only
  split
  · rfl
  · exact h

theorem bestCost_round_le (t : Search) (d : Descent) : (t.round m d).1.bestCost ≤ t.bestCost := by
  unfold round penalize settle
  dsimp only
  split
  · next better => exact Int.le_of_lt better
  · exact Int.le_refl _

theorem Ends.priced (h : Ends m p t t') (priced : t.Priced m) : t'.Priced m := by
  induction h with
  | spent => exact priced
  | last => exact priced.round _
  | next _ _ _ _ ih => exact ih (priced.round _)

theorem Ends.bestCost_le (h : Ends m p t t') : t'.bestCost ≤ t.bestCost := by
  induction h with
  | spent => exact Int.le_refl _
  | last => exact bestCost_round_le _ _
  | next _ _ _ _ ih => exact Int.le_trans ih (bestCost_round_le _ _)

/-- **A search with looser limits goes on from where another one has ended**, unless both have
ended there for want of arcs. -/
theorem Ends.resume (looser : ∀ iterations stalled,
      p'.exhausted 0 iterations stalled = true → p.exhausted 0 iterations stalled = true)
    (h : Ends m p t a) (h' : Ends m p' t b) : a = b ∨ Ends m p' a b := by
  have contradict {iterations stalled : Nat} (goesOn : p.exhausted 0 iterations stalled = false)
      (reached : p'.exhausted 0 iterations stalled = true) : False := by
    rw [looser _ _ reached] at goesOn
    cases goesOn
  induction h with
  | spent => exact .inr h'
  | last goesOn optimum nowhere =>
    cases h' with
    | spent reached => exact (contradict goesOn reached).elim
    | last _ optimum' _ => exact .inl (by rw [optimum.unique optimum'])
    | next _ optimum' somewhere _ =>
      rw [← optimum.unique optimum', nowhere] at somewhere
      cases somewhere
  | next goesOn optimum somewhere _ ih =>
    cases h' with
    | spent reached => exact (contradict goesOn reached).elim
    | last _ optimum' nowhere =>
      rw [← optimum.unique optimum', somewhere] at nowhere
      cases nowhere
    | next _ optimum' _ rest => exact ih (optimum.unique optimum' ▸ rest)

end Search

end DeliveryRouting
