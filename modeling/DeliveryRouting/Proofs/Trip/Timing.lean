import DeliveryRouting.Trip.Schedule
import Mathlib.Data.List.Chain

/-! # Timings of a trip

The arcs of a trip lead between its stops and the depot (`lt_of_mem_tripArcs`). What a trip costs
is what the model keeps of the time that a walk from the depot to the depot takes
(`tripCost_eq_keep`).

`walk_nil_eq_ok_iff` and `walk_cons_eq_ok_iff` say what one step of a schedule checks; from them each
stop is reached inside its window (`admits_of_compute`), and the vehicle is back before the shift ends
(`finish_le_shiftLength`) and can hold what is kept of the demands of its stops (`load_of_compute`,
`load_le_of_compute`). This is so whatever the integers of the model keep.

A *timing* gives every stop of a trip a time: each stop is reached from the one before, inside its
window and inside the shift, and the vehicle is back before the shift ends. If the sums of a schedule
are kept as they are, which is said of the same model with integers without a bound (`Model.exact`),
the schedule holds a timing (`timing_of_compute`), returns when the last stop allows
(`finish_of_compute`), and costs no more than the shift is long (`transitFrom_le_shiftLength`). -/

namespace DeliveryRouting

/-! ### Arcs -/

theorem ends_of_mem_arcsFrom {last : Nat} {nodes : List Nat} {arc : Nat × Nat}
    (h : arc ∈ arcsFrom last nodes) : arc.1 ∈ last :: nodes ∧ arc.2 ∈ depot :: nodes := by
  induction nodes generalizing last with
  | nil =>
    rw [arcsFrom, List.mem_singleton] at h
    subst h
    simp
  | cons node rest ih =>
    rcases List.mem_cons.mp h with rfl | h
    · simp
    · obtain ⟨hfrom, hto⟩ := ih h
      refine ⟨List.mem_cons_of_mem _ hfrom, ?_⟩
      rcases List.mem_cons.mp hto with hd | hin
      · rw [hd]
        exact List.mem_cons_self
      · exact List.mem_cons_of_mem _ (List.mem_cons_of_mem _ hin)

theorem lt_of_mem_tripArcs {n : Nat} {nodes : List Nat} {arc : Nat × Nat}
    (known : ∀ node ∈ nodes, node < n) (h : arc ∈ tripArcs nodes) : arc.1 < n ∧ arc.2 < n := by
  unfold tripArcs at h
  split at h
  · cases h
  · next hne =>
    obtain ⟨first, hfirst⟩ := List.exists_mem_of_ne_nil _ hne
    have hdepot : depot < n := Nat.lt_of_le_of_lt (Nat.zero_le first) (known first hfirst)
    have all : ∀ node ∈ depot :: nodes, node < n := List.forall_mem_cons.mpr ⟨hdepot, known⟩
    obtain ⟨hfrom, hto⟩ := ends_of_mem_arcsFrom h
    exact ⟨all _ hfrom, all _ hto⟩

/-! ### Sums that are kept as they are -/

namespace Model

/-- The model with integers without a bound. -/
def exact (m : Model) : Model := { m with width := .unbounded }

/-- The number is kept as it is. -/
def Holds (m : Model) (n : Int) : Prop := m.width.Holds n

instance (m : Model) (n : Int) : Decidable (m.Holds n) := inferInstanceAs (Decidable (_ = _))

variable {m : Model}

@[simp] theorem keep_exact (n : Int) : m.exact.keep n = n := rfl

@[simp] theorem keep_keep (n : Int) : m.keep (m.keep n) = m.keep n := Width.keep_keep

theorem keep_keep_add (a b : Int) : m.keep (m.keep a + b) = m.keep (a + b) := Width.keep_keep_add

theorem keep_add_keep (a b : Int) : m.keep (a + m.keep b) = m.keep (a + b) := Width.keep_add_keep

theorem keep_keep_sub (a b : Int) : m.keep (m.keep a - b) = m.keep (a - b) := Width.keep_keep_sub

theorem keep_sub_keep (a b : Int) : m.keep (a - m.keep b) = m.keep (a - b) := Width.keep_sub_keep

end Model

/-! ### Transit -/

/-- The time it takes to go from `last` through the nodes back to the depot. -/
def transitFrom (m : Model) (last : Nat) (nodes : List Nat) : Int :=
  ((arcsFrom last nodes).map fun (i, j) => m.leg i j).sum

section Transit

variable {m : Model}

theorem transitFrom_nil (m : Model) (last : Nat) : transitFrom m last [] = m.leg last depot :=
  Int.add_zero _

theorem transitFrom_cons (m : Model) (last node : Nat) (nodes : List Nat) :
    transitFrom m last (node :: nodes) = m.leg last node + transitFrom m node nodes := rfl

/-- The way from the depot to the depot takes no time, so that the trip without stops is no
exception. -/
theorem tripCost_eq_keep (m : Model) (nodes : List Nat) :
    tripCost m nodes = m.keep (transitFrom m depot nodes) := by
  unfold tripCost tripArcs
  split
  · next hn =>
    rw [hn, transitFrom_nil, Model.leg_self, Model.serviceAt_depot]
    rfl
  · exact Width.keep_sum_map (fun arc : Nat × Nat => m.leg arc.1 arc.2) _

theorem transitFrom_nonneg (forward : ∀ i j, 0 ≤ m.leg i j) (last : Nat) (nodes : List Nat) :
    0 ≤ transitFrom m last nodes := by
  induction nodes generalizing last with
  | nil => exact transitFrom_nil m last ▸ forward last depot
  | cons node nodes ih => exact Int.add_nonneg (forward last node) (ih node)

end Transit

namespace Schedule

variable {m : Model} {capacity time load : Int} {last vehicle node : Nat} {nodes : List Nat}
  {s : Schedule}

/-! ### Single steps -/

theorem walk_nil_eq_ok_iff : walk m capacity last time load [] = .ok s ↔
    m.keep (time + m.transit last depot) ≤ m.shiftLength ∧
      s = ⟨[], m.keep (time + m.transit last depot), load⟩ := by
  simp only [walk]
  split
  · next h => simp; omega
  · next h =>
    simp only [Except.ok.injEq, eq_comm (a := s), iff_and_self]
    intro _
    omega

theorem walk_cons_eq_ok_iff : walk m capacity last time load (node :: nodes) = .ok s ↔
    node < m.numNodes ∧ m.keep (load + m.demand node) ≤ capacity ∧
      arrival m last time node ≤ (m.window node).closes ∧
      arrival m last time node ≤ m.shiftLength ∧
      ∃ rest, walk m capacity node (arrival m last time node) (m.keep (load + m.demand node)) nodes =
        .ok rest ∧ s = { rest with arrivals := arrival m last time node :: rest.arrivals } := by
  simp only [walk]
  by_cases hn : m.numNodes ≤ node
  · rw [if_pos hn]; simp; omega
  rw [if_neg hn]
  by_cases hl : m.keep (load + m.demand node) > capacity
  · rw [if_pos hl]; simp; omega
  rw [if_neg hl]
  by_cases ha : arrival m last time node > (m.window node).closes ∨
      arrival m last time node > m.shiftLength
  · rw [if_pos ha]; simp; omega
  rw [if_neg ha]
  have hchecks : node < m.numNodes ∧ m.keep (load + m.demand node) ≤ capacity ∧
      arrival m last time node ≤ (m.window node).closes ∧
      arrival m last time node ≤ m.shiftLength := by omega
  cases hw : walk m capacity node (arrival m last time node) (m.keep (load + m.demand node))
    nodes with
  | error e => simp
  | ok rest => simp [hchecks, eq_comm]

theorem compute_eq_ok_iff (h : nodes ≠ []) : compute m vehicle nodes = .ok s ↔
    vehicle < m.numVehicles ∧ walk m (m.capacity vehicle) depot 0 0 nodes = .ok s := by
  unfold compute
  rw [if_neg h]
  split
  · next hv => simp; omega
  · next hv => simp; omega

/-! ### What a schedule holds -/

theorem lt_numNodes_of_walk (h : walk m capacity last time load nodes = .ok s) :
    ∀ node ∈ nodes, node < m.numNodes := by
  induction nodes generalizing last time load s with
  | nil => simp
  | cons node nodes ih =>
    obtain ⟨hn, -, -, -, rest, hrest, rfl⟩ := walk_cons_eq_ok_iff.mp h
    simpa [hn] using ih hrest

theorem finish_le_of_walk (h : walk m capacity last time load nodes = .ok s) :
    s.finish ≤ m.shiftLength := by
  induction nodes generalizing last time load s with
  | nil =>
    obtain ⟨back, rfl⟩ := walk_nil_eq_ok_iff.mp h
    exact back
  | cons node nodes ih =>
    obtain ⟨-, -, -, -, rest, hrest, rfl⟩ := walk_cons_eq_ok_iff.mp h
    exact ih (s := rest) hrest

theorem admits_of_walk (h : walk m capacity last time load nodes = .ok s) {stop : Nat × Int}
    (hstop : stop ∈ nodes.zip s.arrivals) :
    (m.window stop.1).admits stop.2 = true ∧ stop.2 ≤ m.shiftLength := by
  induction nodes generalizing last time load s with
  | nil => cases hstop
  | cons node nodes ih =>
    obtain ⟨-, -, closing, inShift, rest, hrest, rfl⟩ := walk_cons_eq_ok_iff.mp h
    rcases List.mem_cons.mp hstop with rfl | hstop
    · exact ⟨Window.admits_iff.mpr ⟨Int.le_max_right _ _, closing⟩, inShift⟩
    · exact ih hrest hstop

theorem load_of_walk (h : walk m capacity last time load nodes = .ok s)
    (kept : m.keep load = load) : s.load = m.keep (load + (nodes.map m.demand).sum) := by
  induction nodes generalizing last time load s with
  | nil =>
    rw [(walk_nil_eq_ok_iff.mp h).2, List.map_nil, List.sum_nil, Int.add_zero]
    exact kept.symm
  | cons node nodes ih =>
    obtain ⟨-, -, -, -, rest, hrest, rfl⟩ := walk_cons_eq_ok_iff.mp h
    have loaded : rest.load = m.keep (m.keep (load + m.demand node) + (nodes.map m.demand).sum) :=
      ih hrest (m.keep_keep _)
    rw [List.map_cons, List.sum_cons, ← Int.add_assoc]
    exact loaded.trans (m.keep_keep_add _ _)

theorem load_le_of_walk (h : walk m capacity last time load nodes = .ok s)
    (hload : load ≤ capacity) : s.load ≤ capacity := by
  induction nodes generalizing last time load s with
  | nil => rw [(walk_nil_eq_ok_iff.mp h).2]; exact hload
  | cons node nodes ih =>
    obtain ⟨-, hl, -, -, rest, hrest, rfl⟩ := walk_cons_eq_ok_iff.mp h
    exact ih (s := rest) hrest hl

section Compute

variable (h : compute m vehicle nodes = .ok s)
include h

theorem lt_numNodes_of_compute : ∀ node ∈ nodes, node < m.numNodes := by
  by_cases hn : nodes = []
  · simp [hn]
  · exact lt_numNodes_of_walk ((compute_eq_ok_iff hn).mp h).2

theorem admits_of_compute {stop : Nat × Int} (hstop : stop ∈ nodes.zip s.arrivals) :
    (m.window stop.1).admits stop.2 = true ∧ stop.2 ≤ m.shiftLength :=
  admits_of_walk ((compute_eq_ok_iff (List.ne_nil_of_mem (List.of_mem_zip hstop).1)).mp h).2 hstop

theorem finish_le_shiftLength (hn : nodes ≠ []) : s.finish ≤ m.shiftLength :=
  finish_le_of_walk ((compute_eq_ok_iff hn).mp h).2

theorem load_of_compute : s.load = m.keep (nodes.map m.demand).sum := by
  by_cases hn : nodes = []
  · subst hn
    rw [compute_nil] at h
    cases h
    exact m.width.keep_zero.symm
  · have := load_of_walk ((compute_eq_ok_iff hn).mp h).2 m.width.keep_zero
    rwa [Int.zero_add] at this

/-- A vehicle can hold what its trip carries. Its first stop is tested against the capacity, so
nothing is asked of the capacity itself. -/
theorem load_le_of_compute (hn : nodes ≠ []) : s.load ≤ m.capacity vehicle := by
  obtain ⟨node, nodes, rfl⟩ := List.exists_cons_of_ne_nil hn
  obtain ⟨-, hw⟩ := (compute_eq_ok_iff hn).mp h
  obtain ⟨-, hl, -, -, rest, hrest, rfl⟩ := walk_cons_eq_ok_iff.mp hw
  exact load_le_of_walk (s := rest) hrest hl

end Compute

/-! ### Timings -/

/-- From `last`, left at `time`, the stops can be reached one after the other at their times, each
inside its window and the shift, and the depot before the shift ends. -/
def Timing (m : Model) (last : Nat) (time : Int) : List (Nat × Int) → Prop
  | [] => time + m.leg last depot ≤ m.shiftLength
  | (node, t) :: stops => time + m.leg last node ≤ t ∧ (m.window node).admits t = true ∧
      t ≤ m.shiftLength ∧ Timing m node t stops

/-- The time back at the depot after the stops. -/
def returnTime (m : Model) (last : Nat) (time : Int) : List (Nat × Int) → Int
  | [] => time + m.leg last depot
  | (node, t) :: stops => returnTime m node t stops

theorem Timing.isChain {stops : List (Nat × Int)} (h : Timing m last time stops) :
    ((last, time) :: stops).IsChain fun a b => a.2 + m.leg a.1 b.1 ≤ b.2 := by
  induction stops generalizing last time with
  | nil => exact List.isChain_singleton _
  | cons stop stops ih => exact List.isChain_cons_cons.mpr ⟨h.1, ih h.2.2.2⟩

theorem returnTime_of_getLast? {stops : List (Nat × Int)} {stop : Nat × Int}
    (h : stops.getLast? = some stop) :
    returnTime m last time stops = stop.2 + m.leg stop.1 depot := by
  induction stops generalizing last time with
  | nil => cases h
  | cons stop' stops ih =>
    cases stops with
    | nil =>
      rw [List.getLast?_singleton, Option.some.injEq] at h
      rw [← h]
      rfl
    | cons next stops =>
      rw [List.getLast?_cons_cons] at h
      rw [returnTime]
      exact ih h

theorem timing_of_walk (h : walk m.exact capacity last time load nodes = .ok s) :
    Timing m last time (nodes.zip s.arrivals) := by
  induction nodes generalizing last time load s with
  | nil => exact (walk_nil_eq_ok_iff.mp h).1
  | cons node nodes ih =>
    obtain ⟨-, -, hw, hl, rest, hrest, rfl⟩ := walk_cons_eq_ok_iff.mp h
    have hopen : (m.window node).opens ≤ arrival m.exact last time node := Int.le_max_right _ _
    have hleft : time + m.leg last node ≤ arrival m.exact last time node := Int.le_max_left _ _
    exact ⟨hleft, Window.admits_iff.mpr ⟨hopen, hw⟩, hl, ih hrest⟩

theorem finish_of_walk (h : walk m.exact capacity last time load nodes = .ok s) :
    s.finish = returnTime m last time (nodes.zip s.arrivals) := by
  induction nodes generalizing last time load s with
  | nil => rw [(walk_nil_eq_ok_iff.mp h).2]; rfl
  | cons node nodes ih =>
    obtain ⟨-, -, -, -, rest, hrest, rfl⟩ := walk_cons_eq_ok_iff.mp h
    exact ih hrest

theorem transitFrom_le_finish (h : walk m.exact capacity last time load nodes = .ok s) :
    time + transitFrom m last nodes ≤ s.finish := by
  induction nodes generalizing last time load s with
  | nil =>
    obtain ⟨-, rfl⟩ := walk_nil_eq_ok_iff.mp h
    exact Int.le_of_eq (congrArg (time + ·) (transitFrom_nil m last))
  | cons node nodes ih =>
    obtain ⟨-, -, -, -, rest, hrest, rfl⟩ := walk_cons_eq_ok_iff.mp h
    have later : arrival m.exact last time node + transitFrom m node nodes ≤ rest.finish := ih hrest
    have earliest : time + m.leg last node ≤ arrival m.exact last time node := Int.le_max_left _ _
    rw [transitFrom_cons]
    show time + _ ≤ rest.finish
    omega

section Exact

variable (h : compute m.exact vehicle nodes = .ok s) (hn : nodes ≠ [])
include h hn

/-- **A schedule holds a timing of its trip.** -/
theorem timing_of_compute : Timing m depot 0 (nodes.zip s.arrivals) :=
  timing_of_walk ((compute_eq_ok_iff hn).mp h).2

theorem finish_of_compute : s.finish = returnTime m depot 0 (nodes.zip s.arrivals) :=
  finish_of_walk ((compute_eq_ok_iff hn).mp h).2

theorem transitFrom_le_finish_of_compute : transitFrom m depot nodes ≤ s.finish := by
  have back := transitFrom_le_finish ((compute_eq_ok_iff hn).mp h).2
  omega

/-- **A trip costs no more than the shift is long.** -/
theorem transitFrom_le_shiftLength : transitFrom m depot nodes ≤ m.shiftLength :=
  Int.le_trans (transitFrom_le_finish_of_compute h hn) (finish_le_shiftLength (m := m.exact) h hn)

end Exact

end Schedule

end DeliveryRouting
