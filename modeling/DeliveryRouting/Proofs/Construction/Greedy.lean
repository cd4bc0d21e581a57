import DeliveryRouting.Proofs.Construction.Insertions

/-! # The greedy construction

The construction goes on in rounds. A round looks for the insertion that lowers the objective most,
of several for the one of the lowest node, and the loop makes it; it ends with the first round that
finds none which lowers the objective. `Greedy` is this loop, without any bound on its rounds, and
with attempts that would leave the solution as it is if they were refused.

None of them is refused, for the insertions that are looked at are those that are accepted. So every
round serves one delivery more (`Greedy.length_commits`), and the loop comes to its end, which is
the solution `construct` (`construct_greedy`).

What a round finds is the best of the best insertions of all dropped deliveries
(`Consistent.not_better_of_best`), and the objective changes by its gain, as far as that is kept
(`Consistent.totalCost_insert`). Where there is room for all sums, it is the best of all feasible
insertions (`Consistent.not_better_of_commits`), and the objective gets lower with each of them, so
that the greedy solution costs no more than to drop everything (`totalCost_construct_le`). Where a
sum wraps around, the loop may end too early (`construct_saturatedModel`).

What a round finds is left open in `Greedy`. `inTurn` is the round that goes through the dropped
deliveries one after the other. -/

namespace DeliveryRouting.Solution

/-- The insertion lowers the objective more, or it does so as much and is one of a lower node. -/
def Better (m : Model) (i j : Insertion) : Prop :=
  gain m i < gain m j ∨ gain m i = gain m j ∧ i.node < j.node

instance (m : Model) (i j : Insertion) : Decidable (Better m i j) :=
  inferInstanceAs (Decidable (_ ∨ _))

/-- What is found among some insertions: one of them such that none is better, or nothing if there
are none. -/
def Choice (m : Model) (offers : List Insertion) : Option Insertion → Prop
  | none => offers = []
  | some i => i ∈ offers ∧ ∀ j ∈ offers, ¬ Better m j i

/-- A round that goes through the dropped deliveries one after the other. -/
def inTurn (m : Model) (s : Solution) (found : Option Insertion) : Prop :=
  s.cheapestInsertion m s.dropped = found

/-- A round finds the insertion, and it lowers the objective. -/
structure Commits (m : Model) (round : Solution → Option Insertion → Prop) (s : Solution)
    (i : Insertion) : Prop where
  found : round s (some i)
  lowers : gain m i < 0

/-- A round finds nothing that lowers the objective. -/
def Settled (m : Model) (round : Solution → Option Insertion → Prop) (s : Solution) : Prop :=
  ∃ found, round s found ∧ ∀ i ∈ found, 0 ≤ gain m i

/-- From one solution the loop gets to the other by attempts to make these insertions. -/
inductive Greedy (m : Model) (round : Solution → Option Insertion → Prop) :
    Solution → List Insertion → Solution → Prop
  | start (s : Solution) : Greedy m round s [] s
  | commit {s t : Solution} {commits : List Insertion} {i : Insertion}
      (before : Greedy m round s commits t) (chosen : Commits m round t i) :
      Greedy m round s (commits ++ [i]) (t.tryInsert m i.node i.vehicle i.position)

variable {m : Model} {s s' t : Solution} {i j : Insertion} {commits : List Insertion}
  {found : Option Insertion} {nodes : List Nat} {steps : Nat}

/-! ### What a round finds -/

theorem pairwise_offers (ascending : nodes.Pairwise (· < ·)) :
    (nodes.filterMap (s.bestInsertion m)).Pairwise fun i j => i.node < j.node := by
  refine ascending.filterMap _ fun x y before i hi j hj => ?_
  rw [node_of_bestInsertion hi, node_of_bestInsertion hj]
  exact before

/-- In the order of the nodes, the first of the smallest gain is one of the lowest node. -/
theorem choice_cheapestInsertion (ascending : nodes.Pairwise (· < ·)) :
    Choice m (nodes.filterMap (s.bestInsertion m)) (s.cheapestInsertion m nodes) := by
  have order := pairwise_offers (m := m) (s := s) ascending
  cases found : s.cheapestInsertion m nodes with
  | none => exact firstMin_eq_none_iff.mp found
  | some i =>
    obtain ⟨l, r, split, before, after⟩ := split_of_firstMin found
    rw [split, List.pairwise_append, List.pairwise_cons] at order
    rw [split]
    refine ⟨by simp, fun j hj better => ?_⟩
    unfold Better at better
    rcases List.mem_append.mp hj with hj | hj
    · have := before j hj
      omega
    · rcases List.mem_cons.mp hj with rfl | hj
      · omega
      · have := after j hj
        have := order.2.1.1 j hj
        omega

section Turn

variable (hs : s.Consistent m)
include hs

/-- Of every node the best insertion is looked at. -/
theorem Consistent.exists_found (turn : inTurn m s found) (best : s.Best m j)
    (dropped : j.node ∈ s.dropped) : ∃ i ∈ found, ¬ Better m j i := by
  have choice : Choice m (s.dropped.filterMap (s.bestInsertion m)) found :=
    turn ▸ choice_cheapestInsertion (pairwise_dropped s)
  have offered : j ∈ s.dropped.filterMap (s.bestInsertion m) :=
    List.mem_filterMap.mpr ⟨j.node, dropped, hs.bestInsertion_eq_some_iff.mpr ⟨rfl, best⟩⟩
  cases found with
  | none => exact absurd offered (choice ▸ List.not_mem_nil)
  | some i => exact ⟨i, rfl, choice.2 j offered⟩

theorem Consistent.not_better_of_best (h : Commits m (inTurn m) s i) (best : s.Best m j)
    (dropped : j.node ∈ s.dropped) : ¬ Better m j i := by
  obtain ⟨_, ⟨⟩, worse⟩ := hs.exists_found h.found best dropped
  exact worse

/-- Where a round finds nothing, no best insertion of a node lowers the objective. -/
theorem Consistent.gain_nonneg_of_settled (h : Settled m (inTurn m) s) (best : s.Best m i)
    (dropped : i.node ∈ s.dropped) : 0 ≤ gain m i := by
  obtain ⟨found, turn, useless⟩ := h
  obtain ⟨b, hb, worse⟩ := hs.exists_found turn best dropped
  have useless := useless b hb
  unfold Better at worse
  omega

/-- **An insertion changes the objective by its gain**, as far as that is kept. -/
theorem Consistent.totalCost_insert (feasible : s.Feasible m i) (dropped : i.node ∈ s.dropped)
    (h : s.insert m i.node i.vehicle i.position = .ok s') :
    s'.totalCost m = m.keep (s.totalCost m + gain m i) := by
  have changed := hs.fullCost_insert dropped h
  set longer := tripCost m (splice (s.nodes i.vehicle) i.position [i.node]) -
    (s.trip i.vehicle).cost with more
  have detour : i.detour = m.keep longer := by
    rw [feasible.detour_eq, more, hs.cost_trip, keep_tripCost_splice (insert_eq_ok_iff.mp h).2.1]
  have shift (full kept : Int) : full + (kept - m.dropPenalty i.node) =
      kept + (full - m.dropPenalty i.node) := by omega
  rw [totalCost_eq_keep, totalCost_eq_keep, changed, Model.keep_keep_add, gain,
    Model.keep_add_keep, detour, shift, Model.keep_keep_add]
  exact congrArg m.keep (by omega)

end Turn

section Room

variable (hs : s.Consistent m) (room : m.Roomy) (forward : ∀ i j, 0 ≤ m.travel.duration i j)
include hs room forward

/-- Where there is room, the best insertion of a node stands for all of them. -/
theorem Consistent.exists_best (feasible : s.Feasible m j) (dropped : j.node ∈ s.dropped) :
    ∃ b, s.Best m b ∧ b.node = j.node ∧ gain m b ≤ gain m j := by
  cases known : s.bestInsertion m j.node with
  | none => exact absurd rfl (hs.bestInsertion_eq_none_iff.mp known j feasible)
  | some b =>
    obtain ⟨same, best⟩ := hs.best_of_bestInsertion known
    have le := best.le j feasible same.symm
    have gain_b := hs.gain_eq room forward best.feasible (same ▸ dropped)
    have gain_j := hs.gain_eq room forward feasible dropped
    rw [same] at gain_b
    exact ⟨b, best, same, by omega⟩

/-- What is found in turn is the best of all feasible insertions. -/
theorem Consistent.not_better_of_commits (h : Commits m (inTurn m) s i)
    (feasible : s.Feasible m j) (dropped : j.node ∈ s.dropped) : ¬ Better m j i := by
  obtain ⟨b, best, same, le⟩ := hs.exists_best room forward feasible dropped
  have worse := hs.not_better_of_best h best (same ▸ dropped)
  -- what is better than the one found would make the best one of its node better, too
  unfold Better at worse ⊢
  omega

theorem Consistent.dropPenalty_le_of_settled (h : Settled m (inTurn m) s)
    (feasible : s.Feasible m i) (dropped : i.node ∈ s.dropped) :
    m.dropPenalty i.node ≤ i.detour := by
  obtain ⟨b, best, same, le⟩ := hs.exists_best room forward feasible dropped
  have useless := hs.gain_nonneg_of_settled h best (same ▸ dropped)
  have gain_i := hs.gain_eq room forward feasible dropped
  omega

/-- **An insertion changes the objective by its detour, less the penalty it saves.** -/
theorem Consistent.totalCost_of_feasible (feasible : s.Feasible m i) (dropped : i.node ∈ s.dropped)
    (h : s.insert m i.node i.vehicle i.position = .ok s') :
    s'.totalCost m = s.totalCost m - (m.dropPenalty i.node - i.detour) := by
  have hs' : s'.Consistent m := tryInsert_of_insert h ▸ hs.tryInsert dropped
  have changed := hs.fullCost_insert dropped h
  rw [hs.cost_trip, ← hs.detour_eq_sub room forward feasible dropped] at changed
  rw [hs.totalCost_eq_fullCost room forward, hs'.totalCost_eq_fullCost room forward, changed]
  omega

end Room

section Round

variable (hs : s.Consistent m)
include hs

theorem Consistent.best_of_commits (h : Commits m (inTurn m) s i) :
    i.node ∈ s.dropped ∧ s.Best m i := by
  have found : s.cheapestInsertion m s.dropped = some i := h.found
  obtain ⟨node, dropped, known⟩ := List.mem_filterMap.mp (mem_and_le_of_firstMin found).1
  obtain ⟨rfl, best⟩ := hs.best_of_bestInsertion known
  exact ⟨dropped, best⟩

theorem Consistent.length_dropped_insert (dropped : i.node ∈ s.dropped)
    (h : s.insert m i.node i.vehicle i.position = .ok s') :
    s'.dropped.length + 1 = s.dropped.length := by
  have hs' : s'.Consistent m := tryInsert_of_insert h ▸ hs.tryInsert dropped
  have before := hs.perm_deliveries.length_eq
  have after := hs'.perm_deliveries.length_eq
  have stops := (stops_insert_perm h).length_eq
  rw [List.length_append] at before after
  rw [List.length_cons] at stops
  omega

theorem Consistent.insert_of_commits (h : Commits m (inTurn m) s i) :
    s.insert m i.node i.vehicle i.position = .ok (s.tryInsert m i.node i.vehicle i.position) := by
  obtain ⟨s', accepted⟩ := (hs.best_of_commits h).2.feasible.accepted
  rw [tryInsert_of_insert accepted, accepted]

theorem Consistent.extend?_of_commits (h : Commits m (inTurn m) s i) :
    s.extend? m = some (s.tryInsert m i.node i.vehicle i.position) :=
  extend?_eq_some_iff.mpr ⟨i, h.found, h.lowers, hs.insert_of_commits h⟩

theorem Consistent.of_commits (h : Commits m (inTurn m) s i) :
    (s.tryInsert m i.node i.vehicle i.position).Consistent m :=
  hs.tryInsert (hs.best_of_commits h).1

end Round

theorem extend?_eq_none_of_settled (h : Settled m (inTurn m) s) : s.extend? m = none := by
  obtain ⟨found, turn, useless⟩ := h
  rw [extend?, show s.cheapestInsertion m s.dropped = found from turn]
  cases found with
  | none => rfl
  | some i => exact if_neg (Int.not_lt.mpr (useless i rfl))

theorem settled_or_commits (m : Model) (s : Solution) :
    Settled m (inTurn m) s ∨ ∃ i, Commits m (inTurn m) s i := by
  cases found : s.cheapestInsertion m s.dropped with
  | none => exact .inl ⟨none, found, fun _ h => nomatch h⟩
  | some i =>
    by_cases lowers : gain m i < 0
    · exact .inr ⟨i, found, lowers⟩
    · refine .inl ⟨some i, found, ?_⟩
      rintro i ⟨⟩
      exact Int.not_lt.mp lowers

/-! ### The loop -/

theorem Greedy.consistent (h : Greedy m (inTurn m) s commits t) (hs : s.Consistent m) :
    t.Consistent m := by
  induction h with
  | start => exact hs
  | commit before chosen ih => exact ih.of_commits chosen

/-- **Every round serves one delivery more.** -/
theorem Greedy.length_commits (h : Greedy m (inTurn m) s commits t) (hs : s.Consistent m) :
    commits.length + t.dropped.length = s.dropped.length := by
  induction h with
  | start => exact Nat.zero_add _
  | commit before chosen ih =>
    have ht := before.consistent hs
    have one := ht.length_dropped_insert (ht.best_of_commits chosen).1 (ht.insert_of_commits chosen)
    rw [List.length_append, List.length_singleton]
    omega

/-- What the loop still makes from a solution on the way is what it has left to make. -/
theorem Greedy.extend_eq (h : Greedy m (inTurn m) s commits t) (hs : s.Consistent m)
    (steps : Nat) : extend m (commits.length + steps) s = extend m steps t := by
  -- the last insertion is one of the steps left before it, so their number has to vary
  induction h generalizing steps with
  | start => rw [List.length_nil, Nat.zero_add]
  | commit before chosen ih =>
    have next := (before.consistent hs).extend?_of_commits chosen
    rw [List.length_append, List.length_singleton, Nat.add_assoc, Nat.add_comm 1, ih,
      Solution.extend, next]

theorem extend_of_settled (h : Settled m (inTurn m) s) (steps : Nat) : extend m steps s = s := by
  cases steps with
  | zero => rfl
  | succ steps => rw [extend, extend?_eq_none_of_settled h]

theorem Greedy.cons {round : Solution → Option Insertion → Prop} (chosen : Commits m round s i)
    (h : Greedy m round (s.tryInsert m i.node i.vehicle i.position) commits t) :
    Greedy m round s (i :: commits) t := by
  -- the loop grows at its end, so the first insertion goes in front of every shorter one
  generalize hnext : s.tryInsert m i.node i.vehicle i.position = next at h
  induction h with
  | start => exact hnext ▸ .commit (.start s) chosen
  | commit before last ih => exact .commit ih last

theorem Consistent.greedy_extend (hs : s.Consistent m) (enough : s.dropped.length ≤ steps) :
    (∃ commits, Greedy m (inTurn m) s commits (extend m steps s)) ∧
      Settled m (inTurn m) (extend m steps s) := by
  induction steps generalizing s with
  | zero =>
    have served : s.dropped = [] := List.eq_nil_of_length_eq_zero (Nat.le_zero.mp enough)
    have turn : inTurn m s none := by
      unfold inTurn
      rw [served]
      rfl
    exact ⟨⟨[], .start s⟩, none, turn, fun _ h => nomatch h⟩
  | succ steps ih =>
    rcases settled_or_commits m s with settled | ⟨i, chosen⟩
    · rw [extend_of_settled settled]
      exact ⟨⟨[], .start s⟩, settled⟩
    · have one := hs.length_dropped_insert (hs.best_of_commits chosen).1
        (hs.insert_of_commits chosen)
      obtain ⟨⟨commits, rest⟩, settled⟩ := ih (hs.of_commits chosen) (by omega)
      rw [extend, hs.extend?_of_commits chosen]
      exact ⟨⟨i :: commits, rest.cons chosen⟩, settled⟩

theorem length_dropped_empty (m : Model) : (empty m).dropped.length = m.numNodes - 1 := by
  have all := (consistent_empty m).perm_deliveries.length_eq
  have none : (empty m).stops = [] := by simp [stops, empty, Trip.empty]
  rw [none, List.nil_append, Model.deliveries, List.length_tail, List.length_range] at all
  exact all

theorem greedy_construct (m : Model) :
    (∃ commits, Greedy m (inTurn m) (empty m) commits (construct m)) ∧
      Settled m (inTurn m) (construct m) := by
  refine (consistent_empty m).greedy_extend ?_
  rw [length_dropped_empty]
  omega

theorem Greedy.eq_construct (h : Greedy m (inTurn m) (empty m) commits s)
    (settled : Settled m (inTurn m) s) : s = construct m := by
  have rounds := h.length_commits (consistent_empty m)
  rw [length_dropped_empty] at rounds
  have rest := h.extend_eq (consistent_empty m) (m.numNodes - commits.length)
  rw [extend_of_settled settled, Nat.add_sub_of_le (by omega)] at rest
  exact rest.symm

theorem Greedy.totalCost_le (room : m.Roomy) (forward : ∀ i j, 0 ≤ m.travel.duration i j)
    (h : Greedy m (inTurn m) s commits t) (hs : s.Consistent m) :
    t.totalCost m ≤ s.totalCost m := by
  induction h with
  | start => exact Int.le_refl _
  | commit before chosen ih =>
    have ht := before.consistent hs
    obtain ⟨dropped, best⟩ := ht.best_of_commits chosen
    have cost := ht.totalCost_of_feasible room forward best.feasible dropped
      (ht.insert_of_commits chosen)
    have lowers := chosen.lowers
    rw [ht.gain_eq room forward best.feasible dropped] at lowers
    omega

/-- **The greedy solution costs no more than to drop everything.** -/
theorem totalCost_construct_le (room : m.Roomy) (forward : ∀ i j, 0 ≤ m.travel.duration i j) :
    (construct m).totalCost m ≤ (m.deliveries.map m.dropPenalty).sum := by
  obtain ⟨⟨commits, way⟩, -⟩ := greedy_construct m
  have start := consistent_empty m
  rw [← fullCost_empty, ← start.totalCost_eq_fullCost room forward]
  exact way.totalCost_le room forward start

/-- **The construction ends, and where it ends no insertion lowers the objective.** The greedy loop
comes to `construct`, after one insertion for each delivery at most. In every solution on its way it
ends in `construct` or makes one insertion more. That is of a dropped delivery at the best of its
places, none of the other best ones is better, it is accepted, and it changes the objective by its
gain, as far as that is kept. In the end none of the best insertions lowers the objective.

Where there is room for all sums, that holds of all feasible insertions: none of another dropped
delivery is better, the objective gets lower by the penalty that the insertion saves less its detour,
and in the end they all make a detour that costs at least the penalty. -/
theorem construct_greedy {p : Problem} {trips : Nat} {service : Int} {width : Width}
    (fits : Model.build p trips service width = .ok m) :
    (∃ commits, Greedy m (inTurn m) (empty m) commits (construct m)) ∧
    (∀ commits s, Greedy m (inTurn m) (empty m) commits s →
      commits.length ≤ m.numNodes - 1 ∧
      (Settled m (inTurn m) s ∧ s = construct m ∨ ∃ i, Commits m (inTurn m) s i) ∧
      ∀ i, Commits m (inTurn m) s i → (i.node ∈ s.dropped ∧ s.Best m i ∧
          ∀ j, s.Best m j → j.node ∈ s.dropped → ¬ Better m j i) ∧
        ∃ s', s.insert m i.node i.vehicle i.position = .ok s' ∧
          s'.totalCost m = m.keep (s.totalCost m + gain m i) ∧
          (m.Roomy →
            (∀ j, s.Feasible m j → j.node ∈ s.dropped →
              gain m j = j.detour - m.dropPenalty j.node ∧ ¬ Better m j i) ∧
            s'.totalCost m = s.totalCost m - (m.dropPenalty i.node - i.detour) ∧
            0 < m.dropPenalty i.node - i.detour)) ∧
    (∀ i, (construct m).Best m i → i.node ∈ (construct m).dropped → 0 ≤ gain m i) ∧
    (m.Roomy → ∀ i, (construct m).Feasible m i → i.node ∈ (construct m).dropped →
      m.dropPenalty i.node ≤ i.detour) := by
  have forward := Model.duration_nonneg_of_build fits
  have last := (reachable_construct m).consistent
  obtain ⟨comes, settled⟩ := greedy_construct m
  refine ⟨comes, fun commits s way => ⟨?few, ?goesOn, fun i chosen => ?choice⟩,
    fun i best dropped => last.gain_nonneg_of_settled settled best dropped,
    fun room i feasible dropped => ?optimal⟩
  case few =>
    have rounds := way.length_commits (consistent_empty m)
    rw [length_dropped_empty] at rounds
    omega
  case goesOn =>
    exact (settled_or_commits m s).imp_left fun ends => ⟨ends, way.eq_construct ends⟩
  case choice =>
    have hs := way.consistent (consistent_empty m)
    obtain ⟨dropped, best⟩ := hs.best_of_commits chosen
    obtain ⟨s', accepted⟩ := best.feasible.accepted
    refine ⟨⟨dropped, best, fun j => hs.not_better_of_best chosen⟩, s', accepted,
      hs.totalCost_insert best.feasible dropped accepted, fun room =>
        ⟨fun j feasible dropped' => ⟨?gain, ?best⟩,
          hs.totalCost_of_feasible room forward best.feasible dropped accepted, ?lowers⟩⟩
    case gain => exact hs.gain_eq room forward feasible dropped'
    case best => exact hs.not_better_of_commits room forward chosen feasible dropped'
    case lowers =>
      have lowers := chosen.lowers
      rw [hs.gain_eq room forward best.feasible dropped] at lowers
      omega
  case optimal => exact last.dropPenalty_le_of_settled room forward settled feasible dropped

/-- One delivery next to the depot, and one so far away that it costs less to leave it out. -/
def remoteProblem : Problem where
  durations := [[0, 10, 60000], [10, 0, 60000], [60000, 60000, 0]]
  demands := [0, 1, 1]
  windows := [⟨0, 200000⟩, ⟨0, 200000⟩, ⟨0, 200000⟩]
  capacity := 5

/-- Its model when a delivery takes ten seconds to serve. -/
def remoteModel : Model where
  travel := ⟨3, #[0, 10, 60000, 10, 0, 60000, 60000, 60000, 0]⟩
  sites := #[⟨0, ⟨0, 200000⟩, 2⟩, ⟨1, ⟨0, 200000⟩, 2⟩, ⟨1, ⟨0, 200000⟩, 2⟩]
  vehicles := #[⟨0, 0, 5⟩]
  shiftLength := 200000
  service := 10

/-- The trip that serves the near delivery. -/
def nearTour : Solution := ⟨[⟨[1], ⟨[20], 30, 1⟩, 30⟩], [none, some 0, none]⟩

/-- The first round serves the near delivery, and the second one ends the loop although a vehicle
could get to the other one and back within the shift. -/
theorem construct_greedy_remoteModel :
    Model.build remoteProblem 1 10 = .ok remoteModel ∧ remoteModel.Roomy ∧
    Commits remoteModel (inTurn remoteModel) (empty remoteModel) ⟨1, 0, 0, 30⟩ ∧
    (empty remoteModel).Feasible remoteModel ⟨2, 0, 0, 120010⟩ ∧
    ¬ Better remoteModel ⟨2, 0, 0, 120010⟩ ⟨1, 0, 0, 30⟩ ∧
    Greedy remoteModel (inTurn remoteModel) (empty remoteModel) [⟨1, 0, 0, 30⟩] nearTour ∧
    [(⟨1, 0, 0, 30⟩ : Insertion)].length ≤ remoteModel.numNodes - 1 ∧
    construct remoteModel = nearTour ∧ nearTour.Feasible remoteModel ⟨2, 0, 1, 120000⟩ ∧
    2 ∈ nearTour.dropped ∧ remoteModel.dropPenalty 2 ≤ 120000 := by
  have fits : Model.build remoteProblem 1 10 = .ok remoteModel := rfl
  have room : remoteModel.Roomy := by decide
  have chosen : Commits remoteModel (inTurn remoteModel) (empty remoteModel) ⟨1, 0, 0, 30⟩ :=
    ⟨rfl, by decide⟩
  have far : (empty remoteModel).Feasible remoteModel ⟨2, 0, 0, 120010⟩ := ⟨⟨_, rfl⟩, rfl⟩
  have behind : nearTour.Feasible remoteModel ⟨2, 0, 1, 120000⟩ := ⟨⟨_, rfl⟩, rfl⟩
  have built : construct remoteModel = nearTour := rfl
  have way : Greedy remoteModel (inTurn remoteModel) (empty remoteModel) [⟨1, 0, 0, 30⟩] nearTour :=
    .commit (.start _) chosen
  obtain ⟨-, loop, -, optimal⟩ := construct_greedy fits
  obtain ⟨-, -, choice⟩ := loop [] _ (.start _)
  obtain ⟨-, s', -, -, exact⟩ := choice _ chosen
  obtain ⟨few, -⟩ := loop _ _ way
  have optimal := optimal room
  rw [built] at optimal
  exact ⟨fits, room, chosen, far, ((exact room).1 _ far (by decide)).2, way, few, built, behind,
    by decide, optimal _ behind (by decide)⟩

/-- **Where a sum wraps around, the construction may leave out what it could insert.** The delivery
seems to take off so much time that less the penalty it would cost some. -/
theorem construct_saturatedModel :
    Model.build (saturatedProblem 60 36000) 1 120 = .ok (saturatedModel 60 36000) ∧
    1 ∈ (construct (saturatedModel 60 36000)).dropped ∧
    ¬ ∀ i, (construct (saturatedModel 60 36000)).Feasible (saturatedModel 60 36000) i →
      i.node ∈ (construct (saturatedModel 60 36000)).dropped →
        (saturatedModel 60 36000).dropPenalty i.node ≤ i.detour := by
  have dropped : 1 ∈ (construct (saturatedModel 60 36000)).dropped := by decide
  have feasible : (construct (saturatedModel 60 36000)).Feasible (saturatedModel 60 36000)
      ⟨1, 0, 0, -0x7fffffffffffff4d⟩ := ⟨⟨_, rfl⟩, rfl⟩
  refine ⟨rfl, dropped, fun optimal => ?_⟩
  have bound : (100000 : Int) ≤ -0x7fffffffffffff4d := optimal _ feasible dropped
  omega

end DeliveryRouting.Solution
