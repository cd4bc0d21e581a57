import DeliveryRouting.Proofs.Search.AlikeMoves
import DeliveryRouting.Proofs.Search.Cancellation
import DeliveryRouting.Proofs.Search.Executable

/-! # Inputs that make no difference

On problems that look alike a solve asks the same questions and comes to the same result, whatever
it is told: the two are one and the same computation (`solve_alike`). A descent is followed move by
move and a search round by round, along solutions that are consistent as they are reachable; it
penalises arcs between nodes it stops at, and what it comes to is told by transits between them. -/

namespace DeliveryRouting

namespace Model.Alike

open Solution

variable {m m' : Model} {s : Solution} {g : Guidance} {p : Params} {t : Search} {d : Descent}
  (h : m.Alike m')
include h

/-! ### Descents -/

theorem apply_improvingMove {n : Neighbourhoods} {e : EvaluatedMove}
    (found : DeliveryRouting.improvingMove m g s n = some e) : e.apply m s = e.apply m' s := by
  obtain ⟨operator, -, accepted⟩ := accepted_of_improvingMove found
  obtain ⟨move, -, threshold, evaluated⟩ := accepted.evaluate
  have runs := Move.schedules?_eq_some_iff.mp (Move.schedules?_of_evaluate evaluated)
  exact h.apply s runs.2

theorem descend (hd : Reachable m d.solution) (stops : Poll → Bool) (steps : Nat) :
    DeliveryRouting.descend m g stops steps d = DeliveryRouting.descend m' g stops steps d := by
  induction steps generalizing d with
  | zero => rfl
  | succ steps ih =>
    rw [DeliveryRouting.descend, DeliveryRouting.descend]
    refine congrArg Polling.ask (funext fun poll => ite_congr rfl (fun _ => rfl) fun _ => ?_)
    dsimp only
    rw [← h.improvingMove hd.consistent]
    cases found : DeliveryRouting.improvingMove m g d.solution d.neighbourhoods.reorder with
    | none => rw [Option.elim_none, Option.elim_none]
    | some e =>
      rw [Option.elim_some, Option.elim_some, ← h.apply_improvingMove found]
      exact ih (hd.step (step_of_improvingMove found))

/-! ### Searches -/

theorem selected (hs : s.Consistent m) : g.selected m s = g.selected m' s := by
  unfold Guidance.selected
  refine congrArg Guidance.Selection.arcs (List.foldl_ext _ _ _ fun selection arc harc => ?_)
  obtain ⟨trip, htrip, harc⟩ := List.mem_flatMap.mp harc
  have known : ∀ node ∈ trip.nodes, node < m.numNodes :=
    lt_numNodes_of_deliveries fun node hn =>
      hs.mem_deliveries_of_mem_stops (List.mem_flatMap.mpr ⟨trip, htrip, hn⟩)
  obtain ⟨hi, hj⟩ := lt_of_mem_tripArcs known harc
  have utility : g.utility m arc.1 arc.2 = g.utility m' arc.1 arc.2 := by
    rw [Guidance.utility, Guidance.utility, h.transit arc.1 arc.2 hi hj]
  rw [Guidance.select, Guidance.select, utility]

theorem settle (hd : d.solution.Consistent m) : t.settle m d = t.settle m' d := by
  rw [Search.settle, Search.settle, h.totalCost hd]

theorem penalize (current : t.current.Consistent m) : t.penalize m = t.penalize m' := by
  simp only [Search.penalize, Guidance.penalize, h.selected current, h.width]

theorem iterate (ht : t.OnTrack m) (steps : Nat) :
    Search.iterate m p steps t = Search.iterate m' p steps t := by
  induction steps generalizing t with
  | zero => rfl
  | succ steps ih =>
    refine congrArg Polling.ask (funext fun poll => ite_congr rfl (fun _ => rfl) fun _ => ?_)
    rw [← h.descend ht.current]
    refine (descend_reaches ht.current).bind_congr fun (ending, d) hd => ?_
    have settled : (t.settle m d).OnTrack m := ht.settle hd
    dsimp only
    rw [← h.settle hd.consistent, ← h.penalize settled.current.consistent, ih settled.penalize]

theorem run (p : Params) (steps : Nat) : Search.run m p steps = Search.run m' p steps := by
  have greedy := reachable_construct m
  have start : Search.start m p (Solution.construct m) = Search.start m' p (Solution.construct m') := by
    rw [Search.start, Search.start, h.totalCost greedy.consistent, h.construct]
  rw [Search.run, h.iterate (Search.onTrack_start greedy), start, Search.run]

/-! ### Outcomes -/

theorem ofSolution (hs : s.Consistent m) : Outcome.ofSolution m s = Outcome.ofSolution m' s := by
  have route (vehicle : Nat) : Outcome.routeOf m s vehicle = Outcome.routeOf m' s vehicle := by
    have known : ∀ stop ∈ Outcome.stopsOf (s.trip vehicle), stop.node < m.numNodes :=
      fun stop hstop => hs.lt_numNodes_of_mem (hs.mem_nodes_of_mem_stopsOf hstop)
    have start : Outcome.latestStart m (Outcome.stopsOf (s.trip vehicle)) =
        Outcome.latestStart m' (Outcome.stopsOf (s.trip vehicle)) := by
      cases stops : Outcome.stopsOf (s.trip vehicle) with
      | nil => rfl
      | cons first rest =>
        have hfirst := known first (stops ▸ List.mem_cons_self)
        rw [Outcome.latestStart, Outcome.latestStart, h.transit depot first.node h.hasDepot hfirst,
          h.keep]
    rw [Outcome.routeOf, Outcome.routeOf, start]
  rw [Outcome.ofSolution, Outcome.ofSolution, funext route]

end Model.Alike

/-! ### Solves -/

/-- **The solves of problems that look alike are one computation.** -/
theorem solve_alike {problem problem' : Problem} {p : Params} {m m' : Model}
    (alike : problem.Alike problem')
    (fits : Model.build problem p.trips p.service p.width = .ok m)
    (fits' : Model.build problem' p.trips p.service p.width = .ok m') (steps : Nat) :
    solve p steps problem = solve p steps problem' := by
  rw [solve, solve, ← alike.size]
  refine ite_congr rfl (fun _ => rfl) fun several => ?_
  have h : m.Alike m' := Model.alike_of_build alike (by omega) fits fits'
  refine congrArg Polling.ask (funext fun before => ite_congr rfl (fun _ => rfl) fun _ => ?_)
  rw [fits, fits']
  dsimp only
  rw [← h.run]
  refine (Search.run_onTrack steps).bind_congr fun ended hended => ?_
  cases ended with
  | none => rfl
  | some t =>
    have best := (hended t rfl).best
    dsimp only
    rw [h.ofSolution best.consistent]

/-- **Inert inputs do not influence a plan**: problems that have models and look alike are solved
with the same result, be it an outcome or a fault, under signals that cancel at the same questions
and limits that do not hang on the clock. -/
theorem inert_inputs (p : Params) (clockless : p.timeLimit? = none) (steps : Nat)
    (problem problem' : Problem) (alike : problem.Alike problem') (m m' : Model)
    (fits : Model.build problem p.trips p.service p.width = .ok m)
    (fits' : Model.build problem' p.trips p.service p.width = .ok m') (signal signal' : Nat → Poll)
    (agree : ∀ i, (signal' i).cancelled = (signal i).cancelled) :
    (solve p steps problem').answer signal' = (solve p steps problem).answer signal := by
  rw [← solve_alike alike fits fits']
  have timeless := solve_timeless clockless steps problem
  exact congrArg Prod.fst (timeless.run_congr fun i _ _ => agree i)

/-- The small problem with other numbers in the places that do not matter. -/
def pairVariant : Problem where
  durations := [[7, 10, 20], [10, 3, 5], [20, 5, 9]]
  demands := [4, 1, 1]
  windows := [⟨50, 1000⟩, ⟨0, 500⟩, ⟨100, 900⟩]
  capacity := 5
  priorities := some [1, 3, 2]

theorem alike_pairVariant : pairProblem.Alike pairVariant where
  size := rfl
  durations := by
    rintro (_ | _ | _ | i) (_ | _ | _ | j) hij
    all_goals first | rfl | exact absurd rfl hij
  demands := rfl
  windows := rfl
  closing := rfl
  capacities := rfl
  urgency := by
    rintro (_ | _ | _ | node) delivery
    · exact absurd rfl delivery
    · decide
    · decide
    · exact Iff.rfl

theorem inert_inputs_pairVariant :
    (solve greedyParams 5 pairVariant).answer undisturbed = .ok pairOutcome := by
  obtain ⟨m', fits'⟩ : ∃ m', Model.build pairVariant 2 10 = .ok m' := ⟨_, rfl⟩
  exact (inert_inputs greedyParams rfl 5 pairProblem pairVariant alike_pairVariant pairModel m'
    build_pairProblem fits' undisturbed undisturbed fun _ => rfl).trans solve_pairProblem

end DeliveryRouting
