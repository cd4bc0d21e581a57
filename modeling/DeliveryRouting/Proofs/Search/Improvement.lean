import DeliveryRouting.Proofs.Construction.Greedy
import DeliveryRouting.Proofs.Search.Executable
import DeliveryRouting.Proofs.Search.Rounds

/-! # More search never hurts

A search whose limits are raised, or some of them taken away, makes the rounds of the other one and
perhaps more, and keeps the best solution of all. Its outcome therefore costs no more
(`longer_search_not_worse`), where the first outcome of all is the one of a search without rounds,
the greedy solution, and costs no more than to drop everything.

The search compares what is kept of the costs. That is the costs themselves where there is room for
all sums; where they wrap around, the greedy solution may cost more than to drop everything
(`objective_saturatedPair`). -/

namespace DeliveryRouting

/-! ### Limits -/

/-- A limit of the same kind that allows as much or more. -/
inductive Limit.RaisedTo : Limit → Limit → Prop
  | time {a b : Int} (h : a ≤ b) : RaisedTo (.time a) (.time b)
  | iterations {a b : Nat} (h : a ≤ b) : RaisedTo (.iterations a) (.iterations b)
  | stalledIterations {a b : Nat} (h : a ≤ b) :
      RaisedTo (.stalledIterations a) (.stalledIterations b)

/-- Limits that come about from others by raising some and leaving some out. -/
def Limit.Loosened (limits limits' : List Limit) : Prop :=
  ∀ l' ∈ limits', ∃ l ∈ limits, l.RaisedTo l'

namespace Limit

variable {l l' : Limit} {limits : List Limit} {p : Params} {elapsed : Int}
  {iterations stalled : Nat}

theorem RaisedTo.reached (h : l.RaisedTo l') (reached : l'.reached elapsed iterations stalled = true) :
    l.reached elapsed iterations stalled = true := by
  cases h with
  | time h => exact decide_eq_true (Int.le_trans h (of_decide_eq_true reached))
  | iterations h => exact decide_eq_true (Nat.le_trans h (of_decide_eq_true reached))
  | stalledIterations h => exact decide_eq_true (Nat.le_trans h (of_decide_eq_true reached))

theorem RaisedTo.time?_eq_none (h : l.RaisedTo l') (clockless : l.time? = none) :
    l'.time? = none := by
  cases h with
  | time => cases clockless
  | iterations | stalledIterations => rfl

theorem Loosened.exhausted (looser : Loosened p.limits limits)
    (reached : { p with limits }.exhausted elapsed iterations stalled = true) :
    p.exhausted elapsed iterations stalled = true := by
  obtain ⟨l', hl', reached⟩ := List.any_eq_true.mp reached
  obtain ⟨l, hl, raised⟩ := looser l' hl'
  exact List.any_eq_true.mpr ⟨l, hl, raised.reached reached⟩

theorem Loosened.timeLimit?_eq_none (looser : Loosened p.limits limits)
    (clockless : p.timeLimit? = none) : { p with limits }.timeLimit? = none := by
  refine List.findSome?_eq_none_iff.mpr fun l' hl' => ?_
  obtain ⟨l, hl, raised⟩ := looser l' hl'
  exact raised.time?_eq_none (List.findSome?_eq_none_iff.mp clockless l hl)

end Limit

/-! ### Solves -/

section Solve

variable {p : Params} {problem : Problem} {m : Model} {signal : Nat → Poll}

/-- The outcome of a solve that nobody cancels is that of the best solution at the end of its
search. -/
theorem solve_under_quiet (clockless : p.timeLimit? = none) (steps : Nat) (problem : Problem) :
    (solve p steps problem).Under (·.cancelled = false) fun result => ∀ o, result = .ok o →
      problem.durations.length ≤ 1 ∧ o = Outcome.empty ∨
        1 < problem.durations.length ∧ ∃ m t, Model.build problem p.trips p.service p.width = .ok m ∧
          Search.Ends m p (.start m p (Solution.construct m)) t ∧
          o = Outcome.ofSolution m t.best := by
  unfold solve
  dsimp only
  split
  · next few =>
    rintro o ⟨⟩
    exact .inl ⟨few, rfl⟩
  · next several =>
    intro before hbefore
    dsimp only
    rw [hbefore, if_neg Bool.false_ne_true]
    split
    · rintro o ⟨⟩
    · next m fits =>
      refine (Search.iterate_under_quiet clockless).bind fun ended hended => ?_
      cases ended with
      | none => rintro o ⟨⟩
      | some t =>
        intro after hafter
        dsimp only
        rw [hafter, if_neg Bool.false_ne_true]
        rintro o ⟨⟩
        exact .inr ⟨not_le.mp several, m, t, fits, hended t rfl, rfl⟩

/-- The best cost of the search is what is kept of the cost of the outcome, and all of it where there
is room. -/
theorem Search.Ends.objective {t : Search}
    (fits : Model.build problem p.trips p.service p.width = .ok m)
    (h : Ends m p (.start m p (Solution.construct m)) t) :
    p.width.keep ((Outcome.ofSolution m t.best).objective problem p.service) = t.bestCost ∧
      (m.Roomy → (Outcome.ofSolution m t.best).objective problem p.service = t.bestCost) := by
  have best := (h.onTrack (onTrack_start (Solution.reachable_construct m))).best.consistent
  have cost : t.bestCost = t.best.totalCost m := h.priced (priced_start _)
  rw [cost, ← best.keep_objective_ofSolution fits, Model.keep, Model.width_of_build fits]
  refine ⟨rfl, fun room => ?_⟩
  have held := best.objective_ofSolution fits room
  rwa [← best.keep_objective_ofSolution fits, Model.keep, Model.width_of_build fits] at held

theorem Outcome.Accounts.eq_empty {o : Outcome} {n vehicles : Nat} (h : o.Accounts n vehicles)
    (few : n ≤ 1) : o = Outcome.empty := by
  have nothing : n - 1 = 0 := by omega
  have perm := h.perm
  rw [nothing, List.range'_zero, List.perm_nil, List.append_eq_nil_iff] at perm
  obtain ⟨stops, dropped⟩ := perm
  have routes : o.routes = [] := by
    refine List.eq_nil_iff_forall_not_mem.mpr fun r hr => ?_
    have none : r.stops.map OutcomeStop.node = [] := List.flatMap_eq_nil_iff.mp stops r hr
    exact h.stops_ne_nil r hr (List.map_eq_nil_iff.mp none)
  obtain ⟨routes, dropped⟩ := o
  subst routes dropped
  rfl

theorem solve_without_iterations (fits : Model.build problem p.trips p.service p.width = .ok m)
    (atOnce : .iterations 0 ∈ p.limits) (steps : Nat) :
    (solve p (steps + 1) problem).Under (·.cancelled = false)
      (· = .ok (Outcome.ofSolution m (Solution.construct m))) := by
  have accounts := (Solution.reachable_construct m).accounts fits
  unfold solve
  dsimp only
  split
  · next few => exact congrArg Except.ok (accounts.eq_empty few).symm
  · intro before hbefore
    dsimp only
    rw [hbefore, if_neg Bool.false_ne_true, fits]
    intro poll hpoll
    have spent : (Search.start m p (Solution.construct m)).stops p poll = true := by
      have reached : p.exhausted poll.elapsed 0 0 = true :=
        List.any_eq_true.mpr ⟨_, atOnce, decide_eq_true (Nat.le_refl 0)⟩
      rw [Search.stops, Search.start, reached, Bool.or_true]
    dsimp only
    rw [if_pos spent]
    intro after hafter
    dsimp only
    rw [hafter, if_neg Bool.false_ne_true]
    rfl

end Solve

/-- **More search never hurts**: if the limits of a search that do not hang on the clock are raised
or left out, what is kept of the cost of its outcome is no more, and where there is room for all sums
the cost is not. The outcome of a search without iterations is that of the greedy solution, and where
there is room it costs no more than to drop everything. -/
theorem longer_search_not_worse (p : Params) (clockless : p.timeLimit? = none)
    (limits : List Limit) (looser : Limit.Loosened p.limits limits) (problem : Problem) :
    (∀ (steps steps' : Nat) (signal signal' : Nat → Poll) (o o' : Outcome),
      Quiet signal → Quiet signal' → (solve p steps problem).answer signal = .ok o →
        (solve { p with limits } steps' problem).answer signal' = .ok o' →
          p.width.keep (o'.objective problem p.service) ≤
              p.width.keep (o.objective problem p.service) ∧
            (p.Exact problem → o'.objective problem p.service ≤ o.objective problem p.service)) ∧
    ∀ m, Model.build problem p.trips p.service p.width = .ok m →
      (.iterations 0 ∈ p.limits → ∀ (steps : Nat) (signal : Nat → Poll), Quiet signal →
        (solve p (steps + 1) problem).answer signal =
          .ok (Outcome.ofSolution m (Solution.construct m))) ∧
      (p.Exact problem → (Outcome.ofSolution m (Solution.construct m)).objective problem p.service ≤
        ((List.range' 1 (problem.durations.length - 1)).map problem.dropPenalty).sum) := by
  refine ⟨?longer, fun m fits => ⟨fun atOnce steps signal quiet => ?atOnce, fun exact => ?greedy⟩⟩
  case longer =>
    intro steps steps' signal signal' o o' quiet quiet' h h'
    have shorter := (solve_under_quiet clockless steps problem).run (fun i _ => quiet i) o h
    have longer := (solve_under_quiet (looser.timeLimit?_eq_none clockless) steps' problem).run
      (fun i _ => quiet' i) o' h'
    rcases shorter with ⟨few, rfl⟩ | ⟨several, m, t, fits, ends, rfl⟩
    · rcases longer with ⟨-, rfl⟩ | ⟨several, -⟩
      · exact ⟨Int.le_refl _, fun _ => Int.le_refl _⟩
      · omega
    · rcases longer with ⟨few, -⟩ | ⟨-, m', t', fits', ends', rfl⟩
      · omega
      · cases fits.symm.trans fits'
        obtain ⟨kept, full⟩ := ends.objective fits
        obtain ⟨kept', full'⟩ := Search.Ends.objective (p := { p with limits }) fits' ends'
        have le : t'.bestCost ≤ t.bestCost := by
          rcases ends.resume (fun _ _ => looser.exhausted) ends' with rfl | later
          · exact Int.le_refl _
          · exact later.bestCost_le
        refine ⟨by rw [kept]; exact kept' ▸ le, fun exact => ?_⟩
        rw [full (exact.roomy fits), full' (exact.roomy fits)]
        exact le
  case atOnce => exact (solve_without_iterations fits atOnce steps).run fun i _ => quiet i
  case greedy =>
    have room := exact.roomy fits
    have consistent := (Solution.reachable_construct m).consistent
    rw [consistent.objective_ofSolution fits room, ← Model.sum_penalties_of_build fits]
    exact Solution.totalCost_construct_le room (Model.duration_nonneg_of_build fits)

/-- A single delivery. -/
def loneProblem : Problem where
  durations := [[0, 10], [10, 0]]
  demands := [0, 1]
  windows := [⟨0, 1000⟩, ⟨0, 500⟩]
  capacity := 5

/-- Its model when it takes ten seconds to serve. -/
def loneModel : Model where
  travel := ⟨2, #[0, 10, 10, 0]⟩
  sites := #[⟨0, ⟨0, 1000⟩, 2⟩, ⟨1, ⟨0, 500⟩, 2⟩]
  vehicles := #[⟨0, 0, 5⟩]
  shiftLength := 1000
  service := 10

/-- The trip that serves it. -/
def loneTour : Solution := ⟨[⟨[1], ⟨[20], 30, 1⟩, 30⟩], [none, some 0]⟩

/-- A search without iterations, with one trip for each driver. -/
def hastyParams : Params := { greedyParams with trips := 1 }

/-- The same with one iteration. -/
def briefParams : Params := { hastyParams with limits := [.iterations 1] }

theorem improvingMove_loneTour (g : Guidance) (n : Neighbourhoods) :
    improvingMove loneModel g loneTour n = none := by
  refine List.findSome?_eq_none_iff.mpr fun operator _ => ?_
  cases operator <;> rfl

theorem search_loneProblem : ((Search.run loneModel briefParams 5).run undisturbed 1).1.map
    Search.best = some loneTour := by
  have current : (Search.start loneModel briefParams
      (Solution.construct loneModel)).descent.solution = loneTour := rfl
  rw [Search.run, Search.iterate, Polling.run_ask, if_neg (by decide), Polling.run_bind, descend,
    Polling.run_ask, if_neg (by decide)]
  dsimp only
  rw [current, improvingMove_loneTour, Option.elim_none, Polling.run_done]
  dsimp only
  rw [if_neg (by decide)]
  -- whether there are arcs to penalise or not, this was the last iteration
  split
  · rfl
  · rfl

theorem solve_loneProblem : (solve briefParams 5 loneProblem).answer undisturbed =
    .ok (Outcome.ofSolution loneModel loneTour) := by
  obtain ⟨t, ended, best⟩ := Option.map_eq_some_iff.mp search_loneProblem
  have fits : Model.build loneProblem briefParams.trips briefParams.service briefParams.width =
      .ok loneModel := rfl
  rw [Polling.answer, solve, if_neg (by decide), Polling.run_ask, if_neg (by decide), fits]
  dsimp only
  rw [Polling.run_bind, ended, ← best]
  rfl

theorem exact_loneProblem : hastyParams.Exact loneProblem := by
  refine .inr fun m fits => ?_
  cases (show Model.build loneProblem 1 10 = .ok loneModel from rfl).symm.trans fits
  decide

/-- The first outcome costs thirty seconds of transit, the second one no more, and both less than
to leave the delivery out. -/
theorem longer_search_not_worse_loneProblem :
    hastyParams.Exact loneProblem ∧
    (solve hastyParams 5 loneProblem).answer undisturbed =
      .ok (Outcome.ofSolution loneModel (Solution.construct loneModel)) ∧
    (∃ o, (solve { hastyParams with limits := [.iterations 1] } 5 loneProblem).answer undisturbed =
      .ok o ∧ o.objective loneProblem 10 ≤ 30) ∧
    (Outcome.ofSolution loneModel (Solution.construct loneModel)).objective loneProblem 10 ≤
      100000 := by
  have looser : Limit.Loosened hastyParams.limits [.iterations 1] := by
    intro l hl
    rw [List.mem_singleton.mp hl]
    exact ⟨.iterations 0, List.mem_singleton_self _, .iterations (Nat.zero_le 1)⟩
  obtain ⟨longer, greedy⟩ := longer_search_not_worse hastyParams rfl [.iterations 1] looser
    loneProblem
  obtain ⟨first, penalties⟩ := greedy loneModel rfl
  have atOnce := first (List.mem_singleton_self _) 4 undisturbed quiet_undisturbed
  have notWorse := longer 5 5 undisturbed undisturbed _ _ quiet_undisturbed quiet_undisturbed atOnce
    solve_loneProblem
  exact ⟨exact_loneProblem, atOnce, ⟨_, solve_loneProblem, notWorse.2 exact_loneProblem⟩,
    penalties exact_loneProblem⟩

/-- Two deliveries as far from the depot as a word can tell, and two drivers. -/
def saturatedPair : Problem where
  durations := [[0, 0x7fffffffffffffff, 0x7fffffffffffffff], [200000, 0, 0], [200000, 0, 0]]
  demands := [0, 1, 1]
  windows := [⟨0, 300000⟩, ⟨0, 300000⟩, ⟨0, 300000⟩]
  drivers := 2
  capacity := 1

/-- **Where a sum wraps around, the greedy solution may cost more than to drop everything**, be it all
of its cost or what is kept of it. Each of two trips seems to cost less than nothing, and both
together cost more than two penalties. -/
theorem objective_saturatedPair : ∃ o,
    (solve { hastyParams with service := 120 } 5 saturatedPair).answer undisturbed = .ok o ∧
    ¬ o.objective saturatedPair 120 ≤
      ((List.range' 1 (saturatedPair.durations.length - 1)).map saturatedPair.dropPenalty).sum ∧
    ¬ Width.word.keep (o.objective saturatedPair 120) ≤
      ((List.range' 1 (saturatedPair.durations.length - 1)).map saturatedPair.dropPenalty).sum := by
  refine ⟨_, rfl, ?_, ?_⟩
  · decide
  · decide

end DeliveryRouting
