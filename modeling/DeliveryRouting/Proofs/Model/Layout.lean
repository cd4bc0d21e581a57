import DeliveryRouting.Model.Basic
import Mathlib.Data.List.GetD

/-! # The layout of a model

A model is built from a problem whose lists all fit together (`build_eq_ok_iff`), and then says of
every node, arc and vehicle what the problem says: `Problem.transit` and the lists of demands and
windows are read by node, the capacities by driver, the vehicles of a driver standing one after the
other. -/

namespace DeliveryRouting

/-! ### Lists of equally long pieces -/

theorem getElem?_flatten_of_length {α : Type} {pieces : List (List α)} {n : Nat}
    (h : ∀ piece ∈ pieces, piece.length = n) {i j : Nat} (hj : j < n) :
    pieces.flatten[i * n + j]? = pieces[i]?.bind fun piece => piece[j]? := by
  induction pieces generalizing i with
  | nil => simp
  | cons piece pieces ih =>
    obtain ⟨hpiece, hrest⟩ := List.forall_mem_cons.mp h
    rw [List.flatten_cons]
    cases i with
    | zero =>
      rw [Nat.zero_mul, Nat.zero_add, List.getElem?_append_left (by omega)]
      rfl
    | succ i =>
      have shift : (i + 1) * n + j = piece.length + (i * n + j) := by
        rw [hpiece, Nat.succ_mul]; omega
      rw [shift, List.getElem?_append_right (Nat.le_add_right _ _), Nat.add_sub_cancel_left,
        ih hrest, List.getElem?_cons_succ]

theorem length_flatten_of_length {α : Type} {pieces : List (List α)} {n : Nat}
    (h : ∀ piece ∈ pieces, piece.length = n) : pieces.flatten.length = pieces.length * n := by
  rw [List.length_flatten, List.map_congr_left h, List.map_const', List.sum_replicate_nat]

namespace TravelMatrix

theorem rowFault?_eq_none_iff {n origin : Nat} {row : List Int} : rowFault? n origin row = none ↔
    row.length = n ∧ ∀ duration ∈ row, 0 ≤ duration := by
  unfold rowFault?
  split
  · next h => simp [h]
  · next h => simp [not_not.mp h]

theorem rowsFault?_eq_none_iff {rows : List (List Int)} : rowsFault? rows = none ↔
    ∀ row ∈ rows, row.length = rows.length ∧ ∀ duration ∈ row, 0 ≤ duration := by
  simp only [rowsFault?, List.findSome?_eq_none_iff, Prod.forall, rowFault?_eq_none_iff]
  constructor
  · intro h row hrow
    obtain ⟨origin, horigin⟩ := List.getElem?_of_mem hrow
    exact h row origin (List.mem_zipIdx_iff_getElem?.mpr horigin)
  · intro h row origin hrow
    exact h row (List.mem_of_getElem? (List.mem_zipIdx_iff_getElem?.mp hrow))

end TravelMatrix

namespace Problem

/-- Time and cost of going from `i` to `j` and serving it, read off the rows. -/
def transit (p : Problem) (service : Int) (i j : Nat) : Int :=
  (if i = j then 0 else (p.durations.getD i []).getD j 0) + if j = depot then 0 else service

/-- The lengths that the other lists need to have beside a matrix of `n` nodes. -/
structure Fits (p : Problem) (n : Nat) : Prop where
  demands : p.demands.length = n
  windows : p.windows.length = n
  capacities : p.driverCapacities.length = p.drivers
  priorities : ∀ priorities ∈ p.priorities, priorities.length = n

theorem lengthFault?_eq_none_iff {p : Problem} {n : Nat} :
    p.lengthFault? n = none ↔ p.Fits n := by
  unfold lengthFault?
  split
  · next h => simp only [reduceCtorEq, false_iff]; exact fun f => h f.demands
  split
  · next h => simp only [reduceCtorEq, false_iff]; exact fun f => h f.windows
  split
  · next h => simp only [reduceCtorEq, false_iff]; exact fun f => h f.capacities
  next hd hw hc =>
    rw [not_not] at hd hw hc
    cases hp : p.priorities with
    | none => simpa using ⟨hd, hw, hc, by simp [hp]⟩
    | some priorities =>
      simp only [ite_eq_right_iff, reduceCtorEq, imp_false, not_not]
      exact ⟨fun h => ⟨hd, hw, hc, by simp [hp, h]⟩, fun f => f.priorities priorities hp⟩

/-- The vehicles of a driver, one for each trip. -/
def vehiclesOf (trips : Nat) (driver : Int × Nat) : List Vehicle :=
  (List.range trips).map fun slot => ⟨driver.2, slot, driver.1⟩

theorem length_of_mem_vehiclesOf (trips : Nat) (drivers : List (Int × Nat)) :
    ∀ piece ∈ drivers.map (vehiclesOf trips), piece.length = trips := by
  intro piece hpiece
  obtain ⟨driver, -, rfl⟩ := List.mem_map.mp hpiece
  rw [vehiclesOf, List.length_map, List.length_range]

theorem vehicles_eq_flatten (p : Problem) (trips : Nat) :
    p.vehicles trips = (p.driverCapacities.zipIdx.map (vehiclesOf trips)).flatten := by
  rw [← List.flatMap_def]
  rfl

theorem length_vehicles (p : Problem) (trips : Nat) :
    (p.vehicles trips).length = p.driverCapacities.length * trips := by
  rw [vehicles_eq_flatten, length_flatten_of_length (length_of_mem_vehiclesOf _ _), List.length_map,
    List.length_zipIdx]

theorem getElem?_vehicles (p : Problem) {trips : Nat} (h : 0 < trips) (vehicle : Nat) :
    (p.vehicles trips)[vehicle]? = p.driverCapacities[vehicle / trips]?.map fun capacity =>
      ⟨vehicle / trips, vehicle % trips, capacity⟩ := by
  have hslot : vehicle % trips < trips := Nat.mod_lt _ h
  have piece := getElem?_flatten_of_length
    (length_of_mem_vehiclesOf trips p.driverCapacities.zipIdx) (i := vehicle / trips) hslot
  rw [Nat.div_add_mod'] at piece
  rw [vehicles_eq_flatten, piece, List.getElem?_map, List.getElem?_zipIdx]
  cases p.driverCapacities[vehicle / trips]? <;> simp [vehiclesOf, hslot]

end Problem

namespace Model

variable {p : Problem} {trips : Nat} {service : Int} {width : Width} {m : Model}

/-- The model of a problem whose lists fit together. -/
def layout (p : Problem) (trips : Nat) (service : Int) (width : Width) : Model where
  travel := ⟨p.durations.length, p.durations.flatten.toArray⟩
  sites := ((List.range p.durations.length).map p.site).toArray
  vehicles := (p.vehicles (max trips 1)).toArray
  shiftLength := p.shiftLength
  service
  width

/-- **A problem has a model exactly when its lists fit together.** -/
theorem build_eq_ok_iff : build p trips service width = .ok m ↔
    (∀ row ∈ p.durations, row.length = p.durations.length ∧ ∀ duration ∈ row, 0 ≤ duration) ∧
      p.Fits p.durations.length ∧ m = layout p trips service width := by
  rw [← TravelMatrix.rowsFault?_eq_none_iff, ← Problem.lengthFault?_eq_none_iff]
  unfold build TravelMatrix.ofRows
  cases TravelMatrix.rowsFault? p.durations with
  | some fault => simp [bind, Except.bind]
  | none =>
    simp only [bind, Except.bind, true_and]
    cases p.lengthFault? p.durations.length with
    | some fault => simp
    | none => simp [layout, eq_comm]

section Built

variable (h : build p trips service width = .ok m)
include h

theorem numNodes_of_build : m.numNodes = p.durations.length := by
  rw [(build_eq_ok_iff.mp h).2.2]
  simp [layout, numNodes]

theorem shiftLength_of_build : m.shiftLength = p.shiftLength := by
  rw [(build_eq_ok_iff.mp h).2.2]
  rfl

theorem numVehicles_of_build : m.numVehicles = p.drivers * max trips 1 := by
  obtain ⟨-, fits, rfl⟩ := build_eq_ok_iff.mp h
  simp [layout, numVehicles, Problem.length_vehicles, fits.capacities]

theorem vehicle_of_build {vehicle : Nat} (hv : vehicle < m.numVehicles) :
    ∃ capacity, p.driverCapacities[vehicle / max trips 1]? = some capacity ∧
      m.vehicles[vehicle]? = some ⟨vehicle / max trips 1, vehicle % max trips 1, capacity⟩ := by
  have hpos : 0 < max trips 1 := by omega
  have hdriver : vehicle / max trips 1 < p.driverCapacities.length := by
    rw [(build_eq_ok_iff.mp h).2.1.capacities, Nat.div_lt_iff_lt_mul hpos]
    exact numVehicles_of_build h ▸ hv
  refine ⟨_, List.getElem?_eq_getElem hdriver, ?_⟩
  rw [(build_eq_ok_iff.mp h).2.2, layout, List.getElem?_toArray, Problem.getElem?_vehicles p hpos,
    List.getElem?_eq_getElem hdriver]
  rfl

theorem capacity_of_build {vehicle : Nat} (hv : vehicle < m.numVehicles) :
    p.driverCapacities[vehicle / max trips 1]? = some (m.capacity vehicle) := by
  obtain ⟨capacity, driver, found⟩ := vehicle_of_build h hv
  rw [driver, Model.capacity, Array.getD_eq_getD_getElem?, found, Option.getD_some]

theorem site_of_build {node : Nat} (hn : node < m.numNodes) : m.site node = p.site node := by
  rw [numNodes_of_build h] at hn
  rw [(build_eq_ok_iff.mp h).2.2]
  simp [site, layout, hn]

theorem demand_of_build {node : Nat} (hn : node < m.numNodes) :
    m.demand node = p.demands.getD node 0 := by
  rw [demand, site_of_build h hn]
  rfl

theorem window_of_build {node : Nat} (hn : node < m.numNodes) (hd : node ≠ depot) :
    p.windows[node]? = some (m.window node) := by
  have hlt : node < p.windows.length := by
    rw [(build_eq_ok_iff.mp h).2.1.windows, ← numNodes_of_build h]; exact hn
  rw [window, site_of_build h hn, Problem.site, if_neg hd, List.getD_eq_getElem _ _ hlt,
    List.getElem?_eq_getElem hlt]

theorem shift_of_build (hn : depot < m.numNodes) :
    ∃ w, p.windows[depot]? = some w ∧ m.shiftLength = w.closes := by
  have hlt : depot < p.windows.length := by
    rw [(build_eq_ok_iff.mp h).2.1.windows, ← numNodes_of_build h]; exact hn
  have first : p.windows.head? = some p.windows[depot] := by
    rw [List.head?_eq_getElem?]
    exact List.getElem?_eq_getElem hlt
  refine ⟨p.windows[depot], List.getElem?_eq_getElem hlt, ?_⟩
  rw [shiftLength_of_build h, Problem.shiftLength, first]
  rfl

/-- The duration between two nodes is the cell that the rows of the problem give it, but for the way
from a node to itself. -/
theorem duration_of_build {i j : Nat} (hi : i < m.numNodes) (hj : j < m.numNodes) :
    m.travel.duration i j = if i = j then 0 else (p.durations.getD i []).getD j 0 := by
  rw [numNodes_of_build h] at hi hj
  obtain ⟨rows, -, rfl⟩ := build_eq_ok_iff.mp h
  have square : ∀ row ∈ p.durations, row.length = p.durations.length :=
    fun row hr => (rows row hr).1
  have cell : p.durations.flatten[i * p.durations.length + j]? = (p.durations.getD i [])[j]? := by
    rw [getElem?_flatten_of_length square hj, List.getElem?_eq_getElem hi, Option.bind_some,
      List.getD_eq_getElem _ _ hi]
  simp only [TravelMatrix.duration, layout, Array.getD_eq_getD_getElem?, List.getElem?_toArray, cell,
    List.getD_eq_getElem?_getD (l := p.durations.getD i [])]

theorem service_of_build : m.service = service := by
  rw [(build_eq_ok_iff.mp h).2.2]
  rfl

theorem width_of_build : m.width = width := by
  rw [(build_eq_ok_iff.mp h).2.2]
  rfl

theorem leg_of_build {i j : Nat} (hi : i < m.numNodes) (hj : j < m.numNodes) :
    m.leg i j = p.transit service i j := by
  rw [leg, duration_of_build h hi hj, serviceAt, service_of_build h, Problem.transit]

theorem duration_nonneg_of_build (i j : Nat) : 0 ≤ m.travel.duration i j := by
  obtain ⟨rows, -, rfl⟩ := build_eq_ok_iff.mp h
  simp only [TravelMatrix.duration, layout, Array.getD_eq_getD_getElem?, List.getElem?_toArray]
  split
  · exact Int.le_refl 0
  · cases cell : p.durations.flatten[i * p.durations.length + j]? with
    | none => exact Int.le_refl 0
    | some d =>
      obtain ⟨row, hrow, hd⟩ := List.mem_flatten.mp (List.mem_of_getElem? cell)
      exact (rows row hrow).2 d hd

end Built

end Model

/-! ### A small problem -/

/-- Two deliveries, the second of which opens late, and a driver who may run two trips. -/
def pairProblem : Problem where
  durations := [[0, 10, 20], [10, 0, 5], [20, 5, 0]]
  demands := [0, 1, 1]
  windows := [⟨0, 1000⟩, ⟨0, 500⟩, ⟨100, 900⟩]
  capacity := 5

/-- Its model when a delivery takes ten seconds to serve. -/
def pairModel : Model where
  travel := ⟨3, #[0, 10, 20, 10, 0, 5, 20, 5, 0]⟩
  sites := #[⟨0, ⟨0, 1000⟩, 2⟩, ⟨1, ⟨0, 500⟩, 2⟩, ⟨1, ⟨100, 900⟩, 2⟩]
  vehicles := #[⟨0, 0, 5⟩, ⟨0, 1, 5⟩]
  shiftLength := 1000
  service := 10

theorem build_pairProblem : Model.build pairProblem 2 10 = .ok pairModel := rfl

/-- A delivery as far from the depot as a word can tell. -/
def saturatedProblem (back shift : Int) : Problem where
  durations := [[0, 0x7fffffffffffffff], [back, 0]]
  demands := [0, 1]
  windows := [⟨0, shift⟩, ⟨0, shift⟩]
  capacity := 5

/-- Its model when the delivery takes two minutes to serve. -/
def saturatedModel (back shift : Int) : Model where
  travel := ⟨2, #[0, 0x7fffffffffffffff, back, 0]⟩
  sites := #[⟨0, ⟨0, shift⟩, 2⟩, ⟨1, ⟨0, shift⟩, 2⟩]
  vehicles := #[⟨0, 0, 5⟩]
  shiftLength := shift
  service := 120

end DeliveryRouting
