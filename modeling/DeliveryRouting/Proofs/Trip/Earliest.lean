import DeliveryRouting.Proofs.Trip.Sums

/-! # The schedule is the earliest timing

A schedule is computed by going along the trip and never waiting longer than the next window makes
one wait. That this is neither too strict nor too lax is said by comparing it with any other timing
of the same stops: from an earlier start the walk stays ahead of the timing at every stop
(`exists_walk_of_timing`), so that it comes through wherever some timing does.

The load is a matter of its own. It is checked stop by stop, so that what counts are the demands of
the first stops, however many (`Bearable`).

All this is about the sums as they are. It is true of a model that wraps around on every trip whose
sums it holds (`compute_earliest`), and not on others (`compute_saturatedModel`).

A trip between existing nodes with an existing vehicle either has a schedule or meets an obstacle
on its way (`isBadReference_of_compute`). -/

namespace DeliveryRouting.Schedule

variable {m : Model} {capacity time later load : Int} {last node vehicle : Nat} {nodes : List Nat}
  {times : List Int} {s : Schedule} {obstacle : Obstacle}

/-! ### Loads -/

/-- The capacity holds the load aboard with the demands of the first stops, however many. -/
def Bearable (m : Model) (capacity load : Int) (nodes : List Nat) : Prop :=
  ∀ k < nodes.length, load + ((nodes.take (k + 1)).map m.demand).sum ≤ capacity

theorem bearable_cons : Bearable m capacity load (node :: nodes) ↔
    load + m.demand node ≤ capacity ∧ Bearable m capacity (load + m.demand node) nodes := by
  constructor
  · intro h
    have first := h 0 (by simp)
    refine ⟨by simpa using first, fun k hk => ?_⟩
    have longer := h (k + 1) (by simpa using hk)
    rw [List.take_succ_cons, List.map_cons, List.sum_cons] at longer
    omega
  · rintro ⟨first, rest⟩ k hk
    rw [List.take_succ_cons, List.map_cons, List.sum_cons]
    cases k with
    | zero =>
      simp only [List.take_zero, List.map_nil, List.sum_nil]
      omega
    | succ k =>
      have longer := rest k (by simpa using hk)
      omega

theorem bearable_of_walk (h : walk m.exact capacity last time load nodes = .ok s) :
    Bearable m capacity load nodes := by
  induction nodes generalizing last time load s with
  | nil => exact fun k hk => absurd hk (Nat.not_lt_zero k)
  | cons node nodes ih =>
    obtain ⟨-, fits, -, -, rest, hrest, -⟩ := walk_cons_eq_ok_iff.mp h
    exact bearable_cons.mpr ⟨fits, ih hrest⟩

/-! ### Staying ahead -/

/-- Who leaves no later than a timing arrives no later at its next stop. -/
theorem arrival_le {t : Int} (early : time ≤ later) (reach : later + m.leg last node ≤ t)
    (opened : (m.window node).opens ≤ t) : arrival m.exact last time node ≤ t := by
  have arrives : arrival m.exact last time node = max (time + m.leg last node) (m.window node).opens :=
    rfl
  omega

/-- **The walk stays ahead of every timing**: where some timing exists, and the load can be borne,
there is a schedule, and it arrives no later at any stop and is back no later. -/
theorem exists_walk_of_timing (known : ∀ node ∈ nodes, node < m.numNodes)
    (bearable : Bearable m capacity load nodes) (early : time ≤ later)
    (same : times.length = nodes.length) (timing : Timing m last later (nodes.zip times)) :
    ∃ s, walk m.exact capacity last time load nodes = .ok s ∧ List.Forall₂ (· ≤ ·) s.arrivals times ∧
      s.finish ≤ returnTime m last later (nodes.zip times) := by
  induction nodes generalizing last time later load times with
  | nil =>
    have none : times = [] := List.eq_nil_of_length_eq_zero same
    subst none
    have back : later + m.leg last depot ≤ m.shiftLength := timing
    have sooner : time + m.leg last depot ≤ later + m.leg last depot := by omega
    exact ⟨_, walk_nil_eq_ok_iff.mpr ⟨Int.le_trans sooner back, rfl⟩, .nil, sooner⟩
  | cons node nodes ih =>
    obtain ⟨t, times, rfl⟩ := List.exists_cons_of_length_eq_add_one same
    obtain ⟨reach, admitted, inShift, timing⟩ := timing
    obtain ⟨opened, closing⟩ := Window.admits_iff.mp admitted
    obtain ⟨present, known⟩ := List.forall_mem_cons.mp known
    obtain ⟨fits, bearable⟩ := bearable_cons.mp bearable
    have ahead : arrival m.exact last time node ≤ t := arrival_le early reach opened
    obtain ⟨rest, hrest, le, back⟩ := ih known bearable ahead (Nat.succ.inj same) timing
    refine ⟨_, walk_cons_eq_ok_iff.mpr ⟨present, fits, ?_, ?_, rest, hrest, rfl⟩, .cons ahead le,
      back⟩
    · exact Int.le_trans ahead closing
    · exact Int.le_trans ahead inShift

/-! ### Obstacles -/

theorem isBadReference_of_walk (known : ∀ node ∈ nodes, node < m.numNodes)
    (h : walk m capacity last time load nodes = .error obstacle) :
    obstacle.isBadReference = false := by
  induction nodes generalizing last time load with
  | nil =>
    simp only [walk] at h
    split at h
    · cases h; rfl
    · cases h
  | cons node nodes ih =>
    obtain ⟨present, known⟩ := List.forall_mem_cons.mp known
    simp only [walk] at h
    rw [if_neg (by omega)] at h
    split at h
    · cases h; rfl
    · split at h
      · cases h; rfl
      · split at h
        · cases h
        · next hrest => cases h; exact ih known hrest

theorem isBadReference_of_compute (hv : vehicle < m.numVehicles)
    (known : ∀ node ∈ nodes, node < m.numNodes)
    (h : compute m vehicle nodes = .error obstacle) : obstacle.isBadReference = false := by
  unfold compute at h
  split at h
  · cases h
  · rw [if_neg (by omega)] at h
    exact isBadReference_of_walk known h

/-! ### Schedules and timings -/

/-- No sum on the way outgrows the integers of the model: a machine that checks them all comes to the
end. -/
def Counted (m : Model) (vehicle : Nat) (nodes : List Nat) : Prop :=
  ∃ result, computeBy (fun _ => m.check) m vehicle nodes = .ok result

/-- **A trip whose sums the model holds has a schedule exactly if it has a timing and its load can be
borne at every stop**, and then the schedule is a timing itself, the earliest at every stop and back
at the depot. What else can happen is an obstacle on the way. -/
theorem compute_earliest (hv : vehicle < m.numVehicles) (hn : nodes ≠ [])
    (known : ∀ node ∈ nodes, node < m.numNodes) (counted : Counted m vehicle nodes) :
    ((∃ s, compute m vehicle nodes = .ok s) ↔
      (∃ times : List Int, times.length = nodes.length ∧ Timing m depot 0 (nodes.zip times)) ∧
        ∀ k < nodes.length, ((nodes.take (k + 1)).map m.demand).sum ≤ m.capacity vehicle) ∧
    (∀ s, compute m vehicle nodes = .ok s →
      s.arrivals.length = nodes.length ∧ Timing m depot 0 (nodes.zip s.arrivals) ∧
        s.finish = returnTime m depot 0 (nodes.zip s.arrivals) ∧
        s.load = (nodes.map m.demand).sum ∧
        ∀ times : List Int, times.length = nodes.length → Timing m depot 0 (nodes.zip times) →
          List.Forall₂ (· ≤ ·) s.arrivals times ∧
            s.finish ≤ returnTime m depot 0 (nodes.zip times)) ∧
    ∀ obstacle, compute m vehicle nodes = .error obstacle → obstacle.isBadReference = false := by
  obtain ⟨result, checked⟩ := counted
  rw [compute_eq_exact checked]
  have bearable_iff : Bearable m (m.capacity vehicle) 0 nodes ↔
      ∀ k < nodes.length, ((nodes.take (k + 1)).map m.demand).sum ≤ m.capacity vehicle := by
    simp only [Bearable, Int.zero_add]
  have ahead {times : List Int} (bearable : Bearable m (m.capacity vehicle) 0 nodes)
      (same : times.length = nodes.length) (timing : Timing m depot 0 (nodes.zip times)) :=
    exists_walk_of_timing known bearable (Int.le_refl 0) same timing
  refine ⟨⟨?sound, ?complete⟩, fun s hs => ?earliest,
    fun obstacle h => isBadReference_of_compute (m := m.exact) hv known h⟩
  case sound =>
    rintro ⟨s, hs⟩
    have hw := ((compute_eq_ok_iff hn).mp hs).2
    exact ⟨⟨s.arrivals, length_arrivals hs, timing_of_compute hs hn⟩,
      bearable_iff.mp (bearable_of_walk hw)⟩
  case complete =>
    rintro ⟨⟨times, same, timing⟩, bearable⟩
    obtain ⟨s, hw, -, -⟩ := ahead (bearable_iff.mpr bearable) same timing
    exact ⟨s, (compute_eq_ok_iff hn).mpr ⟨hv, hw⟩⟩
  case earliest =>
    refine ⟨length_arrivals hs, timing_of_compute hs hn, finish_of_compute hs hn,
      load_of_compute hs, fun times same timing => ?_⟩
    have hw := ((compute_eq_ok_iff hn).mp hs).2
    obtain ⟨s', hw', le, back⟩ := ahead (bearable_of_walk hw) same timing
    cases hw.symm.trans hw'
    exact ⟨le, back⟩

/-- The trip through both deliveries of the small problem waits at the second one. As 30 and 110 are
a timing, it has a schedule, which arrives at 20 and 100 and is back at 120, not 130. -/
theorem compute_earliest_pairModel :
    (0 < pairModel.numVehicles ∧ ∀ node ∈ [1, 2], node < pairModel.numNodes) ∧
    Counted pairModel 0 [1, 2] ∧ Timing pairModel depot 0 ([1, 2].zip [30, 110]) ∧
    ∃ s, compute pairModel 0 [1, 2] = .ok s ∧ s = ⟨[20, 100], 120, 2⟩ ∧
      List.Forall₂ (· ≤ ·) s.arrivals [30, 110] ∧
      s.finish ≤ returnTime pairModel depot 0 ([1, 2].zip [30, 110]) := by
  have known : ∀ node ∈ [1, 2], node < pairModel.numNodes := by decide
  have timing : Timing pairModel depot 0 ([1, 2].zip [30, 110]) :=
    ⟨by decide, by decide, by decide, by decide, by decide, by decide,
      show 110 + pairModel.leg 2 depot ≤ pairModel.shiftLength by decide⟩
  have vehicle : 0 < pairModel.numVehicles := by decide
  have counted : Counted pairModel 0 [1, 2] := ⟨_, rfl⟩
  have earliest := compute_earliest vehicle (List.cons_ne_nil 1 [2]) known counted
  obtain ⟨s, hs⟩ := earliest.1.mpr ⟨⟨[30, 110], rfl, timing⟩, by decide⟩
  have computed : compute pairModel 0 [1, 2] = .ok ⟨[20, 100], 120, 2⟩ := rfl
  cases computed.symm.trans hs
  exact ⟨⟨by decide, known⟩, counted, timing, _, computed, rfl,
    (earliest.2.1 _ hs).2.2.2.2 [30, 110] rfl timing⟩

/-- **Where a sum wraps around, there may be a schedule without a timing.** The time of service takes
the way to the delivery beyond the end of a word, and the vehicle seems to be there at once. -/
theorem compute_saturatedModel :
    Model.build (saturatedProblem 60 36000) 1 120 = .ok (saturatedModel 60 36000) ∧
    compute (saturatedModel 60 36000) 0 [1] = .ok ⟨[0], 60, 1⟩ ∧
    ¬ ((∃ s, compute (saturatedModel 60 36000) 0 [1] = .ok s) ↔
      (∃ times : List Int, times.length = [1].length ∧
        Timing (saturatedModel 60 36000) depot 0 ([1].zip times)) ∧
        ∀ k < [1].length, (([1].take (k + 1)).map (saturatedModel 60 36000).demand).sum ≤
          (saturatedModel 60 36000).capacity 0) := by
  have computed : compute (saturatedModel 60 36000) 0 [1] = .ok ⟨[0], 60, 1⟩ := rfl
  refine ⟨rfl, computed, fun sound => ?_⟩
  obtain ⟨⟨times, one, timing⟩, -⟩ := sound.mp ⟨_, computed⟩
  obtain ⟨t, rfl⟩ := List.length_eq_one_iff.mp one
  obtain ⟨reach, -, inShift, -⟩ := timing
  have far : 0 + (saturatedModel 60 36000).leg depot 1 = 0x8000000000000077 := rfl
  have end_of_shift : (saturatedModel 60 36000).shiftLength = 36000 := rfl
  omega

end DeliveryRouting.Schedule
