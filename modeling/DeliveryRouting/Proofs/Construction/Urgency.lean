import DeliveryRouting.Proofs.Construction.Greedy

/-! # What the construction leaves out

Penalties are fixed numbers, and they are weighed against detours. If no arc takes negative time, a
trip costs no more than the shift is long (`Schedule.transitFrom_le_shiftLength`), because waiting
only comes on top of its transit. So where there is room for all sums, a detour stays within the
length of the shift, in both directions: without the triangle inequality it may also be a shortcut
(`Consistent.detour_le_shift`).

In a shift that is shorter than the ordinary penalty every feasible insertion lowers the objective,
and none is left in the end. In a shift that is shorter than half of what the urgent penalty is more
than the ordinary one no ordinary delivery goes before an urgent one (`construct_serves`). Where a sum
wraps around, a delivery may be left out that could be served (`construct_leaves_out`). -/

namespace DeliveryRouting

/-- The delivery is urgent. -/
def Model.Urgent (m : Model) (node : Nat) : Prop := (m.site node).priority ≤ Priority.urgent

namespace Model

variable {m : Model} {node : Nat}

theorem dropPenalty_of_urgent (h : m.Urgent node) : m.dropPenalty node = 1000000 := if_pos h

theorem dropPenalty_of_not_urgent (h : ¬ m.Urgent node) : m.dropPenalty node = 100000 := if_neg h

theorem ordinary_le_dropPenalty (m : Model) (node : Nat) : 100000 ≤ m.dropPenalty node := by
  by_cases h : m.Urgent node
  · rw [dropPenalty_of_urgent h]
    decide
  · exact Int.le_of_eq (dropPenalty_of_not_urgent h).symm

end Model

namespace Solution

variable {m : Model} {s : Solution} {i j : Insertion} {node : Nat}

/-- No vehicle can take the delivery in at any of its places, for reasons that lie on its way. -/
def Excluded (m : Model) (s : Solution) (node : Nat) : Prop :=
  ∀ vehicle < s.trips.length, ∀ position ≤ (s.nodes vehicle).length, ∃ obstacle,
    s.insert m node vehicle position = .error obstacle ∧ obstacle.isBadReference = false

theorem Consistent.excluded (hs : s.Consistent m) (dropped : node ∈ s.dropped)
    (nowhere : ∀ i, s.Feasible m i → i.node ≠ node) : s.Excluded m node := by
  intro vehicle hv position place
  cases refused : s.insert m node vehicle position with
  | ok s' => exact absurd rfl (nowhere _ (feasible_of_insert refused))
  | error obstacle =>
    refine ⟨obstacle, rfl, ?_⟩
    have known : ∀ x ∈ splice (s.nodes vehicle) position [node], x < m.numNodes := by
      intro x hx
      rcases List.mem_append.mp (splice_perm.mem_iff.mp hx) with hx | hx
      · rw [List.mem_singleton.mp hx]
        exact (m.mem_deliveries.mp (hs.mem_deliveries_of_mem_dropped dropped)).2
      · exact hs.lt_numNodes_of_mem hx
    simp only [insert, reroute, if_neg (not_le.mpr hv), if_neg (not_lt.mpr place)] at refused
    split at refused
    · cases refused
    · next e runs =>
      cases refused
      exact Schedule.isBadReference_of_compute (hs.length_trips ▸ hv) known runs

/-! ### Detours within the shift -/

section Bounds

variable (hs : s.Consistent m) (room : m.Roomy) (forward : ∀ i j, 0 ≤ m.travel.duration i j)
  (lasts : 0 ≤ m.service)
include hs room forward lasts

/-- **A detour is no longer than the shift**, and it saves no more than that. -/
theorem Consistent.detour_le_shift (feasible : s.Feasible m i) (dropped : i.node ∈ s.dropped) :
    -max m.shiftLength 0 ≤ i.detour ∧ i.detour ≤ max m.shiftLength 0 := by
  have nothingOff : m.rebate = 0 := by
    unfold Model.rebate
    omega
  have bounds := hs.detour_bounds room forward feasible dropped
  rwa [Model.tripBound, nothingOff, Int.zero_mul, Int.add_zero] at bounds

theorem Consistent.excluded_of_settled (short : m.shiftLength < 100000)
    (settled : Settled m (inTurn m) s) (dropped : node ∈ s.dropped) : s.Excluded m node := by
  refine hs.excluded dropped ?_
  rintro i feasible rfl
  have kept := hs.dropPenalty_le_of_settled room forward settled feasible dropped
  have penalty := m.ordinary_le_dropPenalty i.node
  have bound := (hs.detour_le_shift room forward lasts feasible dropped).2
  omega

/-- In a shift of moderate length an insertion of an urgent delivery is better than any other
one. -/
theorem Consistent.better_of_urgent (moderate : m.shiftLength < 450000)
    (hi : s.Feasible m i) (hj : s.Feasible m j) (dropped : i.node ∈ s.dropped)
    (dropped' : j.node ∈ s.dropped) (urgent : m.Urgent j.node) (ordinary : ¬ m.Urgent i.node) :
    Better m j i := by
  refine .inl ?_
  have long := (hs.detour_le_shift room forward lasts hj dropped').2
  have short := (hs.detour_le_shift room forward lasts hi dropped).1
  rw [hs.gain_eq room forward hi dropped, hs.gain_eq room forward hj dropped',
    Model.dropPenalty_of_urgent urgent, Model.dropPenalty_of_not_urgent ordinary]
  omega

theorem Consistent.excluded_of_commits (moderate : m.shiftLength < 450000)
    (chosen : Commits m (inTurn m) s i) (ordinary : ¬ m.Urgent i.node) (dropped : node ∈ s.dropped)
    (urgent : m.Urgent node) : s.Excluded m node := by
  refine hs.excluded dropped ?_
  rintro j feasible rfl
  have worse := hs.not_better_of_commits room forward chosen feasible dropped
  obtain ⟨dropped', best⟩ := hs.best_of_commits chosen
  exact worse (hs.better_of_urgent room forward lasts moderate best.feasible feasible dropped' dropped
    urgent ordinary)

end Bounds

/-- **The construction leaves no delivery out without need, and serves urgent ones first**, where
serving takes no negative time and there is room for all sums. If the shift is shorter than the
ordinary penalty, no vehicle can take in a delivery that is dropped in the end. If it is shorter than
450000 seconds, the loop makes an insertion of an ordinary delivery only where no vehicle can take in
any of the urgent ones that are still dropped. -/
theorem construct_serves {p : Problem} {trips : Nat} {service : Int} {width : Width}
    (fits : Model.build p trips service width = .ok m) (lasts : 0 ≤ service) (room : m.Roomy) :
    (m.shiftLength < 100000 → ∀ node ∈ (construct m).dropped, (construct m).Excluded m node) ∧
    (m.shiftLength < 450000 → ∀ commits s i, Greedy m (inTurn m) (empty m) commits s →
      Commits m (inTurn m) s i → ¬ m.Urgent i.node →
        ∀ node ∈ s.dropped, m.Urgent node → s.Excluded m node) := by
  have forward := Model.duration_nonneg_of_build fits
  rw [← Model.service_of_build fits] at lasts
  refine ⟨fun short node dropped => ?_, fun moderate commits s i way chosen ordinary node dropped
    urgent => ?_⟩
  · exact (reachable_construct m).consistent.excluded_of_settled room forward lasts short
      (greedy_construct m).2 dropped
  · exact (way.consistent (consistent_empty m)).excluded_of_commits room forward lasts moderate chosen
      ordinary dropped urgent

/-- The small problem when the second delivery is urgent, but too heavy for the driver. -/
def heavyProblem : Problem :=
  { pairProblem with demands := [0, 1, 2], capacity := 1, priorities := some [2, 2, 1] }

/-- Its model with one trip for the driver. -/
def heavyModel : Model where
  travel := pairModel.travel
  sites := #[⟨0, ⟨0, 1000⟩, 2⟩, ⟨1, ⟨0, 500⟩, 2⟩, ⟨2, ⟨100, 900⟩, 1⟩]
  vehicles := #[⟨0, 0, 1⟩]
  shiftLength := 1000
  service := 10

/-- The ordinary delivery is served while the urgent one has to stay behind, first and last. -/
theorem construct_serves_heavyModel : Model.build heavyProblem 1 10 = .ok heavyModel ∧
    heavyModel.Roomy ∧ heavyModel.shiftLength < 100000 ∧ 2 ∈ (construct heavyModel).dropped ∧
    (construct heavyModel).Excluded heavyModel 2 ∧
    Commits heavyModel (inTurn heavyModel) (empty heavyModel) ⟨1, 0, 0, 30⟩ ∧
    ¬ heavyModel.Urgent 1 ∧ heavyModel.Urgent 2 ∧ 2 ∈ (empty heavyModel).dropped ∧
    (empty heavyModel).Excluded heavyModel 2 := by
  have fits : Model.build heavyProblem 1 10 = .ok heavyModel := rfl
  have room : heavyModel.Roomy := by decide
  have chosen : Commits heavyModel (inTurn heavyModel) (empty heavyModel) ⟨1, 0, 0, 30⟩ :=
    ⟨rfl, by decide⟩
  have left : 2 ∈ (construct heavyModel).dropped := by decide
  have ordinary : ¬ heavyModel.Urgent 1 := by unfold Model.Urgent; decide
  have urgent : heavyModel.Urgent 2 := by unfold Model.Urgent; decide
  have dropped : 2 ∈ (empty heavyModel).dropped := by decide
  obtain ⟨needed, urgentFirst⟩ := construct_serves fits (by decide) room
  exact ⟨fits, room, by decide, left, needed (by decide) 2 left, chosen, ordinary, urgent, dropped,
    urgentFirst (by decide) [] _ _ (.start _) chosen ordinary 2 dropped urgent⟩

/-- **Where a sum wraps around, a delivery may be left out that a vehicle could take in.** -/
theorem construct_leaves_out :
    Model.build (saturatedProblem 60 36000) 1 120 = .ok (saturatedModel 60 36000) ∧
    (saturatedModel 60 36000).shiftLength < 100000 ∧
    ∃ s', (construct (saturatedModel 60 36000)).insert (saturatedModel 60 36000) 1 0 0 = .ok s' ∧
      ¬ ∀ node ∈ (construct (saturatedModel 60 36000)).dropped,
        (construct (saturatedModel 60 36000)).Excluded (saturatedModel 60 36000) node := by
  refine ⟨rfl, by decide, _, rfl, fun needed => ?_⟩
  obtain ⟨obstacle, refused, -⟩ := needed 1 (by decide) 0 (by decide) 0 (Nat.zero_le _)
  cases refused

end Solution

end DeliveryRouting
