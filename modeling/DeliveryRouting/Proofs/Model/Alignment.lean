import DeliveryRouting.Proofs.Model.Layout

/-! # Problems whose lists fit together

A problem has a model when its lists are aligned: the matrix is square without a negative cell, and
each other list has an entry for every row, or for every driver (`Problem.Aligned`). A problem that
is not aligned may have several faults (`Problem.HasFault`); what is reported is the first of them,
in an order that `ModelFault.place` tells without the scan: the matrix comes before the other lists,
row by row, and the length of a row before its cells.

Nothing is cut off and nothing is filled in on the way: a model says of every node, arc and vehicle
what the lists say (`Model.LaysOut`). -/

namespace DeliveryRouting

/-! ### Faults and their order -/

/-- The lists of a problem fit together. -/
structure Problem.Aligned (p : Problem) : Prop where
  square : ∀ row ∈ p.durations, row.length = p.durations.length
  nonneg : ∀ row ∈ p.durations, ∀ duration ∈ row, 0 ≤ duration
  demands : p.demands.length = p.durations.length
  windows : p.windows.length = p.durations.length
  capacities : ∀ capacities ∈ p.capacities, capacities.length = p.drivers
  priorities : ∀ priorities ∈ p.priorities, priorities.length = p.durations.length

/-- What is wrong with a problem, whatever else is wrong with it. -/
inductive Problem.HasFault (p : Problem) : ModelFault → Prop
  | raggedRow {i : Nat} {row : List Int} (found : p.durations[i]? = some row)
      (ragged : row.length ≠ p.durations.length) :
      p.HasFault (.raggedRow i p.durations.length row.length)
  | negativeDuration {i j : Nat} {row : List Int} {duration : Int}
      (found : p.durations[i]? = some row) (cell : row[j]? = some duration)
      (negative : duration < 0) : p.HasFault (.negativeDuration i j)
  | demandsLength (other : p.demands.length ≠ p.durations.length) :
      p.HasFault (.demandsLength p.durations.length p.demands.length)
  | windowsLength (other : p.windows.length ≠ p.durations.length) :
      p.HasFault (.windowsLength p.durations.length p.windows.length)
  | capacitiesLength {capacities : List Int} (given : p.capacities = some capacities)
      (other : capacities.length ≠ p.drivers) :
      p.HasFault (.capacitiesLength p.drivers capacities.length)
  | prioritiesLength {priorities : List Int} (given : p.priorities = some priorities)
      (other : priorities.length ≠ p.durations.length) :
      p.HasFault (.prioritiesLength p.durations.length priorities.length)

/-- Where a fault stands: the list, and in the matrix the row and the place in the row, the length
of a row standing before its cells. -/
def ModelFault.place : ModelFault → Nat × Nat × Nat
  | raggedRow row _ _ => (0, row, 0)
  | negativeDuration origin destination => (0, origin, destination + 1)
  | demandsLength _ _ => (1, 0, 0)
  | windowsLength _ _ => (2, 0, 0)
  | capacitiesLength _ _ => (3, 0, 0)
  | prioritiesLength _ _ => (4, 0, 0)

/-- The place of the first fault comes before that of the second one. -/
def ModelFault.Precedes (fault other : ModelFault) : Prop :=
  Prod.Lex (· < ·) (Prod.Lex (· < ·) (· < ·)) fault.place other.place

namespace ModelFault

variable {fault other : ModelFault}

theorem precedes_iff : fault.Precedes other ↔ fault.place.1 < other.place.1 ∨
    fault.place.1 = other.place.1 ∧ (fault.place.2.1 < other.place.2.1 ∨
      fault.place.2.1 = other.place.2.1 ∧ fault.place.2.2 < other.place.2.2) := by
  rw [Precedes, Prod.lex_def, Prod.lex_def]

theorem not_precedes_of_precedes (h : fault.Precedes other) : ¬ other.Precedes fault := by
  rw [precedes_iff] at h ⊢
  omega

end ModelFault

namespace Problem

variable {p : Problem} {fault other : ModelFault}

theorem fits_iff_aligned : (∀ row ∈ p.durations,
      row.length = p.durations.length ∧ ∀ duration ∈ row, 0 ≤ duration) ∧
    p.Fits p.durations.length ↔ p.Aligned := by
  have same : p.driverCapacities.length = p.drivers ↔
      ∀ capacities ∈ p.capacities, capacities.length = p.drivers := by
    unfold driverCapacities
    cases p.capacities <;> simp
  constructor
  · rintro ⟨rows, fits⟩
    exact ⟨fun row hrow => (rows row hrow).1, fun row hrow => (rows row hrow).2, fits.demands,
      fits.windows, same.mp fits.capacities, fits.priorities⟩
  · intro h
    exact ⟨fun row hrow => ⟨h.square row hrow, h.nonneg row hrow⟩, h.demands, h.windows,
      same.mpr h.capacities, h.priorities⟩

theorem Aligned.not_hasFault (h : p.Aligned) : ¬ p.HasFault fault := by
  intro has
  cases has with
  | raggedRow found ragged => exact ragged (h.square _ (List.mem_of_getElem? found))
  | negativeDuration found cell negative =>
    have nonneg := h.nonneg _ (List.mem_of_getElem? found) _ (List.mem_of_getElem? cell)
    omega
  | demandsLength other => exact other h.demands
  | windowsLength other => exact other h.windows
  | capacitiesLength given other => exact other (h.capacities _ given)
  | prioritiesLength given other => exact other (h.priorities _ given)

/-- The fault is the first of a problem, and the only one in its place. -/
def First (p : Problem) (fault : ModelFault) : Prop :=
  p.HasFault fault ∧ ∀ other, p.HasFault other → other = fault ∨ fault.Precedes other

theorem First.eq (h : p.First fault) (h' : p.First other) : fault = other := by
  rcases h.2 other h'.1 with same | before
  · exact same.symm
  · rcases h'.2 fault h.1 with same | after
    · exact same
    · exact absurd after (ModelFault.not_precedes_of_precedes before)

end Problem

/-- A problem whose first row has a negative cell, whose second row is too short, and which has no
demands. -/
def brokenProblem : Problem where
  durations := [[0, -1], [3]]
  windows := [⟨0, 9⟩, ⟨0, 9⟩]

/-! ### The scan of the matrix -/

namespace TravelMatrix

theorem rowFault?_eq_some_iff {n origin : Nat} {row : List Int} {fault : ModelFault} :
    rowFault? n origin row = some fault ↔
      row.length ≠ n ∧ fault = .raggedRow origin n row.length ∨
      row.length = n ∧ ∃ j duration, row[j]? = some duration ∧ duration < 0 ∧
        fault = .negativeDuration origin j ∧ ∀ k < j, ∀ d, row[k]? = some d → 0 ≤ d := by
  unfold rowFault?
  split
  · next ragged => simp [ragged, eq_comm]
  · next fits =>
    obtain rfl := not_not.mp fits
    simp only [Option.map_eq_some_iff, List.findIdx?_eq_some_iff_getElem, decide_eq_true_eq]
    constructor
    · rintro ⟨j, ⟨hj, negative, before⟩, rfl⟩
      refine Or.inr ⟨trivial, j, _, List.getElem?_eq_getElem hj, negative, rfl, ?_⟩
      intro k hk d found
      obtain ⟨-, rfl⟩ := List.getElem?_eq_some_iff.mp found
      exact Int.not_lt.mp (before k hk)
    · rintro (⟨ragged, -⟩ | ⟨-, j, duration, found, negative, rfl, before⟩)
      · exact absurd rfl ragged
      · obtain ⟨hj, rfl⟩ := List.getElem?_eq_some_iff.mp found
        refine ⟨j, ⟨hj, negative, fun k hk => ?_⟩, rfl⟩
        exact Int.not_lt.mpr (before k hk _ (List.getElem?_eq_getElem (by omega)))

/-- What the scan finds is the fault of a row before which no row has one. -/
theorem row_of_rowsFault? {rows : List (List Int)} {fault : ModelFault}
    (h : rowsFault? rows = some fault) :
    ∃ i row, rows[i]? = some row ∧ rowFault? rows.length i row = some fault ∧
      ∀ j < i, ∀ earlier, rows[j]? = some earlier → rowFault? rows.length j earlier = none := by
  obtain ⟨before, ⟨row, i⟩, after, split, found, fine⟩ := List.findSome?_eq_some_iff.mp h
  obtain ⟨front, rest, rfl, rfl, tail⟩ := List.zipIdx_eq_append_iff.mp split
  obtain ⟨_, rest, rfl, pair, -⟩ := List.zipIdx_eq_cons_iff.mp tail.symm
  simp only [Nat.zero_add, Prod.mk.injEq] at pair
  obtain ⟨rfl, rfl⟩ := pair
  refine ⟨front.length, row, by simp, found, fun j hj earlier hearlier => ?_⟩
  rw [List.getElem?_append_left hj] at hearlier
  exact fine (earlier, j) (List.mem_zipIdx_iff_getElem?.mpr hearlier)

end TravelMatrix

/-! ### What is reported is the first fault -/

namespace Problem

variable {p : Problem} {fault other : ModelFault}

/-- Row `i` of the matrix is as it should be. -/
def RowFine (p : Problem) (i : Nat) : Prop :=
  ∀ row, p.durations[i]? = some row →
    row.length = p.durations.length ∧ ∀ duration ∈ row, 0 ≤ duration

theorem HasFault.not_rowFine (h : p.HasFault fault) (matrix : fault.place.1 = 0) :
    ¬ p.RowFine fault.place.2.1 := by
  intro fine
  cases h with
  | raggedRow found ragged => exact ragged (fine _ found).1
  | negativeDuration found cell negative =>
    exact absurd negative (Int.not_lt.mpr ((fine _ found).2 _ (List.mem_of_getElem? cell)))
  | _ => exact absurd matrix (by simp [ModelFault.place])

/-- What is found in a row is a fault, and comes before all others of the row. -/
theorem first_of_rowFault? {i : Nat} {row : List Int} (hrow : p.durations[i]? = some row)
    (found : TravelMatrix.rowFault? p.durations.length i row = some fault) :
    p.HasFault fault ∧ fault.place.1 = 0 ∧ fault.place.2.1 = i ∧
      ∀ other, p.HasFault other → other.place.1 = 0 → other.place.2.1 = i →
        other = fault ∨ fault.place.2.2 < other.place.2.2 := by
  rcases TravelMatrix.rowFault?_eq_some_iff.mp found with
    ⟨ragged, rfl⟩ | ⟨fits, j, duration, cell, negative, rfl, left⟩
  · refine ⟨.raggedRow hrow ragged, rfl, rfl, fun other hother matrix same => ?_⟩
    cases hother with
    | raggedRow hrow' _ =>
      obtain rfl : _ = i := same
      obtain rfl := Option.some.inj (hrow.symm.trans hrow')
      exact Or.inl rfl
    | negativeDuration => exact Or.inr (Nat.succ_pos _)
    | _ => exact absurd matrix (by simp [ModelFault.place])
  · refine ⟨.negativeDuration hrow cell negative, rfl, rfl, fun other hother matrix same => ?_⟩
    cases hother with
    | raggedRow hrow' ragged =>
      obtain rfl : _ = i := same
      obtain rfl := Option.some.inj (hrow.symm.trans hrow')
      exact absurd fits ragged
    | @negativeDuration _ k _ duration' hrow' cell' negative' =>
      obtain rfl : _ = i := same
      obtain rfl := Option.some.inj (hrow.symm.trans hrow')
      rcases Nat.lt_trichotomy k j with before | rfl | after
      · exact absurd negative' (Int.not_lt.mpr (left k before _ cell'))
      · exact Or.inl rfl
      · exact Or.inr (Nat.succ_lt_succ after)
    | _ => exact absurd matrix (by simp [ModelFault.place])

theorem first_of_rowsFault? (h : TravelMatrix.rowsFault? p.durations = some fault) :
    p.First fault := by
  obtain ⟨i, row, hrow, found, earlier⟩ := TravelMatrix.row_of_rowsFault? h
  have fine (j : Nat) (hj : j < i) : p.RowFine j := fun row hrow =>
    TravelMatrix.rowFault?_eq_none_iff.mp (earlier j hj row hrow)
  obtain ⟨has, matrix, rfl, least⟩ := first_of_rowFault? hrow found
  refine ⟨has, fun other hother => ?_⟩
  rw [ModelFault.precedes_iff, matrix]
  rcases Nat.eq_zero_or_pos other.place.1 with inMatrix | later
  · rcases Nat.lt_trichotomy other.place.2.1 fault.place.2.1 with before | same | after
    · exact absurd (fine _ before) (hother.not_rowFine inMatrix)
    · rcases least other hother inMatrix same with rfl | right
      · exact Or.inl rfl
      · exact Or.inr (Or.inr ⟨inMatrix.symm, Or.inr ⟨same.symm, right⟩⟩)
    · exact Or.inr (Or.inr ⟨inMatrix.symm, Or.inl after⟩)
  · exact Or.inr (Or.inl later)

/-- The lists that come before list number `k` are as they should be. -/
structure FineBefore (p : Problem) (k : Nat) : Prop where
  rows : 0 < k → ∀ row ∈ p.durations,
    row.length = p.durations.length ∧ ∀ duration ∈ row, 0 ≤ duration
  demands : 1 < k → p.demands.length = p.durations.length
  windows : 2 < k → p.windows.length = p.durations.length
  capacities : 3 < k → p.driverCapacities.length = p.drivers

theorem HasFault.le_place (h : p.HasFault fault) {k : Nat} (fine : p.FineBefore k) (hk : k ≤ 4) :
    k ≤ fault.place.1 := by
  refine Nat.not_lt.mp fun lt => ?_
  cases h with
  | raggedRow found ragged => exact ragged (fine.rows lt _ (List.mem_of_getElem? found)).1
  | negativeDuration found cell negative =>
    have row := fine.rows lt _ (List.mem_of_getElem? found)
    exact absurd negative (Int.not_lt.mpr (row.2 _ (List.mem_of_getElem? cell)))
  | demandsLength other => exact other (fine.demands lt)
  | windowsLength other => exact other (fine.windows lt)
  | capacitiesLength given other =>
    have same := fine.capacities lt
    rw [driverCapacities, given] at same
    exact other same
  | prioritiesLength => exact absurd lt (Nat.not_lt.mpr hk)

theorem HasFault.eq_of_list (h : p.HasFault fault) (h' : p.HasFault other)
    (list : 0 < fault.place.1) (same : fault.place.1 = other.place.1) : other = fault := by
  cases h with
  | raggedRow => exact absurd list (Nat.lt_irrefl 0)
  | negativeDuration => exact absurd list (Nat.lt_irrefl 0)
  | demandsLength => cases h' <;> first | rfl | exact absurd same (by simp [ModelFault.place])
  | windowsLength => cases h' <;> first | rfl | exact absurd same (by simp [ModelFault.place])
  | capacitiesLength given =>
    cases h' with
    | capacitiesLength given' => rw [Option.some.inj (given.symm.trans given')]
    | _ => exact absurd same (by simp [ModelFault.place])
  | prioritiesLength given =>
    cases h' with
    | prioritiesLength given' => rw [Option.some.inj (given.symm.trans given')]
    | _ => exact absurd same (by simp [ModelFault.place])

theorem first_of_fineBefore {k : Nat} (fine : p.FineBefore k) (h : p.HasFault fault)
    (list : fault.place.1 = k) (hpos : 0 < k) (hk : k ≤ 4) : p.First fault := by
  refine ⟨h, fun other hother => ?_⟩
  rcases Nat.lt_or_eq_of_le (hother.le_place fine hk) with before | same
  · exact Or.inr (ModelFault.precedes_iff.mpr (Or.inl (list ▸ before)))
  · exact Or.inl (h.eq_of_list hother (list ▸ hpos) (list.trans same))

theorem first_of_lengthFault? (rows : TravelMatrix.rowsFault? p.durations = none)
    (h : p.lengthFault? p.durations.length = some fault) : p.First fault := by
  have rows := TravelMatrix.rowsFault?_eq_none_iff.mp rows
  unfold lengthFault? at h
  split at h
  · next demands =>
    obtain rfl := Option.some.inj h
    exact first_of_fineBefore (k := 1) ⟨fun _ => rows, by omega, by omega, by omega⟩
      (.demandsLength demands) rfl (by decide) (by decide)
  rename_i demands
  rw [not_not] at demands
  split at h
  · next windows =>
    obtain rfl := Option.some.inj h
    exact first_of_fineBefore (k := 2) ⟨fun _ => rows, fun _ => demands, by omega, by omega⟩
      (.windowsLength windows) rfl (by decide) (by decide)
  rename_i windows
  rw [not_not] at windows
  split at h
  · next capacities =>
    obtain rfl := Option.some.inj h
    refine first_of_fineBefore (k := 3)
      ⟨fun _ => rows, fun _ => demands, fun _ => windows, by omega⟩ ?_ rfl (by decide) (by decide)
    unfold driverCapacities at capacities ⊢
    cases given : p.capacities with
    | none => exact absurd (by simp [given]) capacities
    | some list =>
      rw [given] at capacities
      exact .capacitiesLength given capacities
  rename_i capacities
  rw [not_not] at capacities
  split at h
  · next given =>
    split at h
    · next priorities =>
      obtain rfl := Option.some.inj h
      exact first_of_fineBefore (k := 4)
        ⟨fun _ => rows, fun _ => demands, fun _ => windows, fun _ => capacities⟩
        (.prioritiesLength given priorities) rfl (by decide) (by decide)
    · cases h
  · cases h

end Problem

namespace Model

variable {p : Problem} {trips : Nat} {service : Int} {width : Width} {m : Model} {fault : ModelFault}

theorem first_of_build (h : build p trips service width = .error fault) : p.First fault := by
  unfold build TravelMatrix.ofRows at h
  cases scan : TravelMatrix.rowsFault? p.durations with
  | some found =>
    simp only [scan, bind, Except.bind, Except.error.injEq] at h
    exact h ▸ Problem.first_of_rowsFault? scan
  | none =>
    simp only [scan, bind, Except.bind] at h
    cases lengths : p.lengthFault? p.durations.length with
    | some found =>
      simp only [lengths, Except.error.injEq] at h
      exact h ▸ Problem.first_of_lengthFault? scan lengths
    | none => simp [lengths] at h

/-! ### What a model says of nodes, arcs and vehicles -/

/-- The model says of every node, arc and vehicle what the lists of the problem say. -/
structure LaysOut (m : Model) (p : Problem) (trips : Nat) (service : Int) : Prop where
  numNodes : m.numNodes = p.durations.length
  demand : ∀ node < m.numNodes, p.demands[node]? = some (m.demand node)
  window : ∀ node < m.numNodes, node ≠ depot → p.windows[node]? = some (m.window node)
  depotWindow : 0 < m.numNodes → ∃ w, p.windows[0]? = some w ∧ m.window depot = ⟨0, w.closes⟩ ∧
    m.shiftLength = w.closes
  priority : ∀ node < m.numNodes, ∀ priorities ∈ p.priorities,
    priorities[node]? = some (m.site node).priority
  ordinary : p.priorities = none → ∀ node < m.numNodes, (m.site node).priority = Priority.ordinary
  cells : m.travel.cells.size = m.numNodes * m.numNodes
  duration : ∀ i < m.numNodes, ∀ j < m.numNodes, i ≠ j → ∃ row, p.durations[i]? = some row ∧
    row[j]? = some (m.travel.duration i j)
  staying : ∀ i, m.travel.duration i i = 0
  service : m.service = service
  numVehicles : m.numVehicles = p.drivers * max trips 1
  vehicle : ∀ vehicle < m.numVehicles, ∃ capacity,
    m.vehicles[vehicle]? = some ⟨vehicle / max trips 1, vehicle % max trips 1, capacity⟩ ∧
      (∀ capacities ∈ p.capacities, capacities[vehicle / max trips 1]? = some capacity) ∧
      (p.capacities = none → capacity = p.capacity)

theorem laysOut_of_build (h : build p trips service width = .ok m) : m.LaysOut p trips service := by
  obtain ⟨rows, fits, layout⟩ := build_eq_ok_iff.mp h
  have nodes := numNodes_of_build h
  constructor
  case numNodes => exact nodes
  case demand =>
    intro node hn
    have lt : node < p.demands.length := by rw [fits.demands, ← nodes]; exact hn
    rw [demand_of_build h hn, List.getD_eq_getElem _ _ lt, List.getElem?_eq_getElem lt]
  case window => exact fun node hn hd => window_of_build h hn hd
  case depotWindow =>
    intro hpos
    obtain ⟨w, hw, shift⟩ := shift_of_build h hpos
    refine ⟨w, hw, ?_, shift⟩
    have hdepot : depot < m.numNodes := hpos
    rw [window, site_of_build h hdepot, Problem.site, if_pos rfl, ← shiftLength_of_build h, shift,
      Window.shift]
  case priority =>
    intro node hn priorities given
    have lt : node < priorities.length := by rw [fits.priorities _ given, ← nodes]; exact hn
    rw [site_of_build h hn, List.getElem?_eq_getElem lt]
    simp only [Problem.site, Option.mem_def.mp given, List.getD_eq_getElem _ _ lt]
  case ordinary =>
    intro none node hn
    rw [site_of_build h hn, Problem.site, none]
  case cells =>
    have square : ∀ row ∈ p.durations, row.length = p.durations.length := fun row hrow =>
      (rows row hrow).1
    rw [nodes, layout, Model.layout, List.size_toArray, length_flatten_of_length square]
  case duration =>
    intro i hi j hj other
    have hrow : i < p.durations.length := nodes ▸ hi
    have hcell : j < p.durations[i].length := by
      rw [(rows _ (List.getElem_mem hrow)).1, ← nodes]; exact hj
    refine ⟨_, List.getElem?_eq_getElem hrow, ?_⟩
    rw [duration_of_build h hi hj, if_neg other, List.getD_eq_getElem _ _ hrow,
      List.getD_eq_getElem _ _ hcell, List.getElem?_eq_getElem hcell]
  case staying => exact fun i => m.travel.duration_self i
  case service => exact service_of_build h
  case numVehicles => exact numVehicles_of_build h
  case vehicle =>
    intro vehicle hv
    obtain ⟨capacity, driver, found⟩ := vehicle_of_build h hv
    refine ⟨capacity, found, fun capacities given => ?_, fun none => ?_⟩
    · rwa [Problem.driverCapacities, Option.mem_def.mp given] at driver
    · rw [Problem.driverCapacities, none, Option.getD_none, List.getElem?_replicate] at driver
      split at driver
      · exact (Option.some.inj driver).symm
      · cases driver

/-- **A problem has a model exactly when its lists are aligned, otherwise its first fault is
reported, and the model leaves nothing out and makes nothing up.** -/
theorem build_aligned (p : Problem) (trips : Nat) (service : Int) (width : Width) :
    ((∃ m, build p trips service width = .ok m) ↔ p.Aligned) ∧
      (∀ fault, build p trips service width = .error fault ↔ p.First fault) ∧
      ∀ m, build p trips service width = .ok m → m.LaysOut p trips service := by
  have accepted : (∃ m, build p trips service width = .ok m) ↔ p.Aligned := by
    simp only [build_eq_ok_iff, ← Problem.fits_iff_aligned, ← and_assoc, exists_and_left,
      exists_eq, and_true]
  refine ⟨accepted, fun fault => ⟨first_of_build, fun first => ?_⟩, fun m h => laysOut_of_build h⟩
  cases built : build p trips service width with
  | ok m => exact absurd first.1 (accepted.mp ⟨m, built⟩).not_hasFault
  | error reported => rw [(first_of_build built).eq first]

theorem build_aligned_pairProblem : pairModel.LaysOut pairProblem 2 10 ∧ pairProblem.Aligned ∧
    brokenProblem.First (.negativeDuration 0 1) :=
  ⟨(build_aligned pairProblem 2 10 .word).2.2 _ build_pairProblem,
    (build_aligned pairProblem 2 10 .word).1.mp ⟨_, build_pairProblem⟩,
    ((build_aligned brokenProblem 1 120 .word).2.1 _).mp rfl⟩

end Model

end DeliveryRouting
