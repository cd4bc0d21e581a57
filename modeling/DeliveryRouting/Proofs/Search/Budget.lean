import DeliveryRouting.Proofs.Construction.Urgency
import DeliveryRouting.Proofs.Search.LocalOptima
import Mathlib.Algebra.Order.BigOperators.Group.List
import Mathlib.Logic.Relation

/-! # How many rounds a search makes

A limit on the iterations is one on the rounds of a search. A limit on those without a better
solution is one as well, as the best cost is a whole number that is never negative, if there is room
for all sums: the patience of the search is renewed only when the cost falls by one at least. What
the descents of the rounds come to plays no part here but for that it is reached by moves
(`Search.Rounds`), so the bounds hold whatever moves the descents make, and whatever they are told
(`Search.run_bounded`). A cost that wraps around may be negative, and is then no bound for the rounds
(`Search.rounds_saturatedModel`). -/

namespace DeliveryRouting

/-! ### Costs are not negative -/

theorem Solution.Consistent.totalCost_nonneg {m : Model} {s : Solution} (hs : s.Consistent m)
    (room : m.Roomy) (forward : ∀ i j, 0 ≤ m.travel.duration i j) (lasts : 0 ≤ m.service) :
    0 ≤ s.totalCost m := by
  have ahead (i j : Nat) : 0 ≤ m.leg i j := Model.leg_nonneg forward lasts i j
  have costs : 0 ≤ (s.vehicles.map fun v => (s.trip v).cost).sum := by
    refine List.sum_nonneg fun cost hcost => ?_
    obtain ⟨v, -, rfl⟩ := List.mem_map.mp hcost
    rw [hs.cost_eq_transitFrom room forward]
    exact transitFrom_nonneg ahead depot _
  rw [hs.totalCost_eq_fullCost room forward, fullCost, sum_costs]
  exact Int.add_nonneg costs (m.sum_penalties_nonneg _)

/-! ### Moves of a descent -/

section Descent

variable {m : Model} {g : Guidance} {s s' : Solution} {moves : List EvaluatedMove}

theorem Improves.steps (h : Improves m g s moves s') :
    Relation.ReflTransGen (Solution.Step m) s s' := by
  induction h with
  | nil s => exact .refl
  | cons accepted _ ih => exact .head accepted.step ih

theorem descend_steps {stops : Poll → Bool} {steps : Nat} {d : Descent} :
    (descend m g stops steps d).Always fun ended =>
      Relation.ReflTransGen (Solution.Step m) d.solution ended.2.solution :=
  descend_improves.mono fun _ ⟨_, _, path, _⟩ => path.steps

theorem Solution.Reachable.steps (hs : s.Reachable m)
    (h : Relation.ReflTransGen (Solution.Step m) s s') : s'.Reachable m := by
  induction h with
  | refl => exact hs
  | tail _ step ih => exact ih.step step

end Descent

namespace Search

/-! ### Rounds -/

/-- So many rounds lead from one search to another. Before each of them some answer let the search
go on, and what its descent has come to is reached by moves. -/
inductive Rounds (m : Model) (p : Params) (t : Search) : Nat → Search → Prop
  | none : Rounds m p t 0 t
  | round {n : Nat} {t' : Search} {d : Descent} {poll : Poll} (before : Rounds m p t n t')
      (goesOn : t'.stops p poll = false)
      (moves : Relation.ReflTransGen (Solution.Step m) t'.current d.solution) :
      Rounds m p t (n + 1) (t'.round m d).1

variable {m : Model} {p : Params} {t t' : Search} {n most : Nat} {d : Descent} {poll : Poll}

theorem iterations_round : (t.round m d).1.iterations = t.iterations + 1 := by
  unfold round penalize settle
  dsimp only
  split <;> rfl

/-- A round brings a better solution, or uses up patience. -/
theorem round_cases (m : Model) (t : Search) (d : Descent) :
    (t.round m d).1.bestCost < t.bestCost ∧ (t.round m d).1.stalled = 0 ∨
      (t.round m d).1.bestCost = t.bestCost ∧ (t.round m d).1.stalled = t.stalled + 1 := by
  unfold round penalize settle
  dsimp only
  split
  · next better => exact .inl ⟨better, rfl⟩
  · exact .inr ⟨rfl, rfl⟩

theorem lt_of_goesOn (h : t.stops p poll = false) :
    (.iterations most ∈ p.limits → t.iterations < most) ∧
      (.stalledIterations most ∈ p.limits → t.stalled < most) := by
  have unreached := (Bool.or_eq_false_iff.mp h).2
  rw [Params.exhausted, List.any_eq_false] at unreached
  constructor
  · intro limit
    simpa [Limit.reached] using unreached _ limit
  · intro limit
    simpa [Limit.reached] using unreached _ limit

theorem Rounds.iterations_eq (h : Rounds m p t n t') : t'.iterations = t.iterations + n := by
  induction h with
  | none => rfl
  | round _ _ _ ih => rw [iterations_round, ih, Nat.add_assoc]

theorem Rounds.onTrack (h : Rounds m p t n t') (ht : t.OnTrack m) : t'.OnTrack m := by
  induction h with
  | none => exact ht
  | round _ _ moves ih => exact (ih.settle (ih.current.steps moves)).penalize

theorem Rounds.priced (h : Rounds m p t n t') (ht : t.Priced m) : t'.Priced m := by
  induction h with
  | none => exact ht
  | round _ _ _ ih => exact ih.round _

theorem Rounds.le_of_iterations (h : Rounds m p t n t') (fresh : t.iterations = 0)
    (limit : .iterations most ∈ p.limits) : n ≤ most := by
  cases h with
  | none => exact Nat.zero_le most
  | round before goesOn _ =>
    have spent := (lt_of_goesOn goesOn).1 limit
    rw [before.iterations_eq, fresh, Nat.zero_add] at spent
    exact spent

/-- The patience that is left, and what the best solution has got cheaper by, pay for all rounds. -/
theorem Rounds.paid (h : Rounds m p t n t') (fresh : t.stalled = 0)
    (limit : .stalledIterations most ∈ p.limits) :
    t'.stalled ≤ most ∧ (n : Int) ≤ t'.stalled + (most + 1) * (t.bestCost - t'.bestCost) := by
  induction h with
  | none => simp [fresh]
  | @round n t' d poll before goesOn _ ih =>
    obtain ⟨patient, paid⟩ := ih
    have unreached := (lt_of_goesOn goesOn).2 limit
    rcases round_cases m t' d with ⟨better, renewed⟩ | ⟨same, stalled⟩
    · refine ⟨by omega, ?_⟩
      have saved : (most + 1 : Int) * (t.bestCost - t'.bestCost + 1) ≤
          (most + 1) * (t.bestCost - (t'.round m d).1.bestCost) :=
        Int.mul_le_mul_of_nonneg_left (by omega) (by omega)
      rw [Int.mul_add, Int.mul_one] at saved
      rw [renewed]
      omega
    · rw [same, stalled]
      exact ⟨unreached, by omega⟩

theorem Rounds.lt_of_stalledIterations {least : Int} (h : Rounds m p t n t') (fresh : t.stalled = 0)
    (limit : .stalledIterations most ∈ p.limits) (low : least ≤ t'.bestCost) :
    (n : Int) < (most + 1) * (t.bestCost - least + 1) := by
  obtain ⟨patient, paid⟩ := h.paid fresh limit
  have saved : (most + 1 : Int) * (t.bestCost - t'.bestCost) ≤
      (most + 1) * (t.bestCost - least) :=
    Int.mul_le_mul_of_nonneg_left (by omega) (by omega)
  rw [Int.mul_add, Int.mul_one]
  omega

/-! ### Runs of a search -/

/-- What a search with so many steps comes to: it has ended after some rounds, it has made as many
rounds as it has steps, or the descent of a round was left without steps. -/
inductive ComesTo (m : Model) (p : Params) (t : Search) (steps : Nat) (signal : Nat → Poll) :
    Option Search → Prop
  | ended {n : Nat} {t' : Search} (rounds : Rounds m p t n t') :
      ComesTo m p t steps signal (some t')
  | outOfRounds {t' : Search} (rounds : Rounds m p t steps t') : ComesTo m p t steps signal none
  | outOfMoves {n left j : Nat} {t' : Search} (rounds : Rounds m p t n t')
      (rest : n + 1 + left = steps)
      (out : ((descend m t'.guidance (t'.stops p) left t'.descent).run signal j).1.1 =
        .outOfSteps) : ComesTo m p t steps signal none

theorem iterate_comesTo {t₀ : Search} {steps total first : Nat} {signal : Nat → Poll}
    (before : Rounds m p t₀ n t) (enough : n + steps = total) :
    ComesTo m p t₀ total signal ((iterate m p steps t).run signal first).1 := by
  induction steps generalizing t n first with
  | zero =>
    obtain rfl : n = total := enough
    exact .outOfRounds before
  | succ steps ih =>
    rw [iterate, Polling.run_ask]
    dsimp only
    cases goesOn : t.stops p (signal first) with
    | true =>
      rw [if_pos rfl]
      exact .ended before
    | false =>
      rw [if_neg Bool.false_ne_true, Polling.run_bind]
      have moves := (@descend_steps m t.guidance (t.stops p) steps t.descent).run signal (first + 1)
      generalize left : (descend m t.guidance (t.stops p) steps t.descent).run signal (first + 1) =
        result at moves ⊢
      obtain ⟨⟨ending, d⟩, asked⟩ := result
      have after : Rounds m p t₀ (n + 1) (t.round m d).1 := .round before goesOn moves
      dsimp only
      split
      · next out =>
        have rest : n + 1 + steps = total := by omega
        exact .outOfMoves before rest (by rw [left]; exact out)
      · split
        · exact ih after (by omega)
        · exact .ended after

/-- **The rounds of a search are bounded by its limits.** Whatever moves the descents make, a search
makes at most as many rounds as a limit on its iterations allows. With a limit on those without a
better solution, where serving takes no negative time and there is room for all sums, it makes fewer
than one more than that for each cost from that of the greedy solution down to zero. Where costs are
words it makes fewer than one more than that for each word from this cost on down, room or not. Every
run makes such rounds until it ends, unless the steps that it is given do not suffice, and counts
them. -/
theorem run_bounded {problem : Problem} {trips : Nat} {service : Int} {width : Width}
    (fits : Model.build problem trips service width = .ok m) (lasts : 0 ≤ service) (p : Params) :
    (∀ n t, Rounds m p (start m p (Solution.construct m)) n t → t.iterations = n ∧
      (∀ most, .iterations most ∈ p.limits → n ≤ most) ∧
      ∀ most : Nat, .stalledIterations most ∈ p.limits →
        (m.Roomy → (n : Int) < (most + 1) * ((Solution.construct m).totalCost m + 1)) ∧
        (width = .word → (n : Int) <
          (most + 1) * ((Solution.construct m).totalCost m + 0x8000000000000000 + 1))) ∧
    ∀ (steps : Nat) (signal : Nat → Poll) (first : Nat),
      ComesTo m p (start m p (Solution.construct m)) steps signal
        ((run m p steps).run signal first).1 := by
  refine ⟨fun n t rounds => ⟨?counted, ?iterations, fun most limit => ⟨fun room => ?stalled,
    fun word => ?words⟩⟩, fun steps signal first => ?runs⟩
  case counted => rw [rounds.iterations_eq, start, Nat.zero_add]
  case iterations => exact fun most limit => rounds.le_of_iterations rfl limit
  case stalled =>
    have greedy := Solution.reachable_construct m
    have best := (rounds.onTrack (onTrack_start greedy)).best.consistent
    have nonneg : 0 ≤ t.bestCost := by
      rw [rounds.priced (priced_start _)]
      exact best.totalCost_nonneg room (Model.duration_nonneg_of_build fits)
        ((Model.service_of_build fits).symm ▸ lasts)
    have fewer := rounds.lt_of_stalledIterations rfl limit nonneg
    rwa [Int.sub_zero] at fewer
  case words =>
    have low : -0x8000000000000000 ≤ t.bestCost := by
      rw [rounds.priced (priced_start _), Solution.totalCost_eq_keep, Model.keep,
        Model.width_of_build fits, word]
      exact Width.le_keep_word _
    exact rounds.lt_of_stalledIterations rfl limit low
  case runs => exact iterate_comesTo .none (Nat.zero_add steps)

/-- A search with both limits. -/
def patientParams : Params :=
  { hastyParams with limits := [.iterations 3, .stalledIterations 1] }

/-- The greedy solution of the single delivery costs thirty, and a round may leave it as it is. -/
theorem run_bounded_loneProblem :
    Model.build loneProblem 1 10 = .ok loneModel ∧ loneModel.Roomy ∧
    (Solution.construct loneModel).totalCost loneModel = 30 ∧
    (∃ t, Rounds loneModel patientParams (start loneModel patientParams
        (Solution.construct loneModel)) 1 t ∧ t.iterations = 1 ∧ 1 ≤ 3 ∧
      (1 : Int) < (1 + 1) * (30 + 1)) ∧
    ComesTo loneModel patientParams (start loneModel patientParams (Solution.construct loneModel)) 5
      undisturbed ((run loneModel patientParams 5).run undisturbed 0).1 := by
  have fits : Model.build loneProblem 1 10 = .ok loneModel := rfl
  have room : loneModel.Roomy := by decide
  have cost : (Solution.construct loneModel).totalCost loneModel = 30 := by decide
  obtain ⟨bounded, runs⟩ := run_bounded fits (by decide) patientParams
  have once : Rounds loneModel patientParams (start loneModel patientParams
      (Solution.construct loneModel)) 1 _ :=
    @Rounds.round _ _ _ _ _ (start loneModel patientParams (Solution.construct loneModel)).descent
      ⟨false, 0⟩ .none (by decide) .refl
  obtain ⟨counted, iterations, stalled⟩ := bounded 1 _ once
  have fewer := (stalled 1 (by decide)).1 room
  rw [cost] at fewer
  exact ⟨fits, room, cost, ⟨_, once, counted, iterations 3 (by decide), fewer⟩,
    runs 5 undisturbed 0⟩

/-- **Where a sum wraps around, a search may make a round that its greedy solution does not pay
for.** That solution costs less than nothing. -/
theorem rounds_saturatedModel :
    Model.build (saturatedProblem 200000 300000) 1 120 = .ok (saturatedModel 200000 300000) ∧
    (Solution.construct (saturatedModel 200000 300000)).totalCost (saturatedModel 200000 300000) =
      -0x7ffffffffffcf249 ∧
    ¬ ∀ n t, Rounds (saturatedModel 200000 300000) patientParams (start
        (saturatedModel 200000 300000) patientParams
        (Solution.construct (saturatedModel 200000 300000))) n t →
      ∀ most : Nat, .stalledIterations most ∈ patientParams.limits →
        (n : Int) < (most + 1) * ((Solution.construct (saturatedModel 200000 300000)).totalCost
          (saturatedModel 200000 300000) + 1) := by
  have cost : (Solution.construct (saturatedModel 200000 300000)).totalCost
      (saturatedModel 200000 300000) = -0x7ffffffffffcf249 := by decide
  refine ⟨rfl, cost, fun bounded => ?_⟩
  have once : Rounds (saturatedModel 200000 300000) patientParams (start
      (saturatedModel 200000 300000) patientParams
      (Solution.construct (saturatedModel 200000 300000))) 1 _ :=
    @Rounds.round _ _ _ _ _ (start (saturatedModel 200000 300000) patientParams
      (Solution.construct (saturatedModel 200000 300000))).descent ⟨false, 0⟩ .none (by decide) .refl
  have fewer := bounded 1 _ once 1 (by decide)
  rw [cost] at fewer
  omega

end Search

end DeliveryRouting
