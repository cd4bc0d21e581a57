import DeliveryRouting.Proofs.Trip.Consistency
import DeliveryRouting.Search.Move

/-! # Making the changes of a move

A move is made by giving its vehicles their new trips one after the other. Between two of them a
node may stand on two trips, so the invariant cannot be carried from one replacement to the next.
What is carried instead is the vehicle of every node (`vehicleOf_install`), and consistency is read
off at the end (`Consistent.install`). -/

namespace DeliveryRouting.Solution

/-- The solution after all the changes have been made. -/
def install (m : Model) (s : Solution) (changes : List (Change × Schedule)) : Solution :=
  changes.foldl (fun s (change, schedule) =>
    s.replaceTrip m change.vehicle change.nodes schedule) s

theorem apply_eq_install (m : Model) (s : Solution) (e : EvaluatedMove) :
    e.apply m s = s.install m e.changes := rfl

variable {m : Model} {s : Solution} {vehicle node : Nat} {changes : List (Change × Schedule)}

theorem install_cons (c : Change × Schedule) :
    s.install m (c :: changes) =
      (s.replaceTrip m c.1.vehicle c.1.nodes c.2).install m changes := rfl

@[simp] theorem length_trips_install : (s.install m changes).trips.length = s.trips.length := by
  induction changes generalizing s with
  | nil => rfl
  | cons c changes ih => rw [install_cons, ih, length_trips_replaceTrip]

@[simp] theorem length_servedBy_install :
    (s.install m changes).servedBy.length = s.servedBy.length := by
  induction changes generalizing s with
  | nil => rfl
  | cons c changes ih => rw [install_cons, ih, length_servedBy_replaceTrip]

theorem trip_install_of_notMem (h : vehicle ∉ changes.map (·.1.vehicle)) :
    (s.install m changes).trip vehicle = s.trip vehicle := by
  induction changes generalizing s with
  | nil => rfl
  | cons c changes ih =>
    rw [List.map_cons, List.mem_cons, not_or] at h
    rw [install_cons, ih h.2, trip_replaceTrip_of_ne (Ne.symm h.1)]

theorem trip_install_of_mem (distinct : (changes.map (·.1.vehicle)).Nodup)
    (exist : ∀ c ∈ changes, c.1.vehicle < s.trips.length) {c : Change × Schedule}
    (hc : c ∈ changes) :
    (s.install m changes).trip c.1.vehicle = ⟨c.1.nodes, c.2, tripCost m c.1.nodes⟩ := by
  induction changes generalizing s with
  | nil => simp at hc
  | cons c' changes ih =>
    rw [List.map_cons, List.nodup_cons] at distinct
    rw [install_cons]
    rcases List.mem_cons.mp hc with rfl | hc
    · rw [trip_install_of_notMem distinct.1, trip_replaceTrip (exist c (by simp))]
    · refine ih distinct.2 (fun d hd => ?_) hc
      rw [length_trips_replaceTrip]
      exact exist d (List.mem_cons_of_mem _ hd)

/-- The vehicles of the nodes after all the changes: a node on a changed trip belongs to its
vehicle, and any other node of a changed vehicle is released. -/
theorem vehicleOf_install (distinct : (changes.map (·.1.vehicle)).Nodup)
    (known : ∀ node ∈ changes.flatMap (·.1.nodes), node < s.servedBy.length)
    (nodup : (changes.flatMap (·.1.nodes)).Nodup)
    (own : ∀ v ∈ changes.map (·.1.vehicle), ∀ node, s.vehicleOf node = some v → node ∈ s.nodes v) :
    (s.install m changes).vehicleOf node = some vehicle ↔
      (∃ c ∈ changes, c.1.vehicle = vehicle ∧ node ∈ c.1.nodes) ∨
        vehicle ∉ changes.map (·.1.vehicle) ∧ node ∉ changes.flatMap (·.1.nodes) ∧
          s.vehicleOf node = some vehicle := by
  induction changes generalizing s with
  | nil => simp [install]
  | cons c changes ih =>
    simp only [List.map_cons, List.nodup_cons, List.flatMap_cons, List.nodup_append',
      List.mem_append, List.mem_cons, forall_eq_or_imp] at distinct known nodup own
    obtain ⟨notAgain, distinct⟩ := distinct
    obtain ⟨-, nodup, disjoint⟩ := nodup
    have step {v : Nat} : (s.replaceTrip m c.1.vehicle c.1.nodes c.2).vehicleOf node = some v ↔
        v = c.1.vehicle ∧ node ∈ c.1.nodes ∨
          v ≠ c.1.vehicle ∧ node ∉ c.1.nodes ∧ s.vehicleOf node = some v :=
      vehicleOf_replaceTrip own.1 fun node hn => known node (.inl hn)
    rw [install_cons, ih distinct ?known nodup ?own, step]
    case known =>
      intro node hn
      rw [length_servedBy_replaceTrip]
      exact known node (.inr hn)
    case own =>
      -- the vehicles still to come have neither gained nor lost a node
      intro v hv x hx
      have hne : v ≠ c.1.vehicle := fun h => notAgain (h ▸ hv)
      rw [nodes, trip_replaceTrip_of_ne (Ne.symm hne)]
      rw [vehicleOf_replaceTrip own.1 fun node hn => known node (.inl hn)] at hx
      rcases hx with ⟨rfl, -⟩ | ⟨-, -, hx⟩
      · exact absurd rfl hne
      · exact own.2 v hv x hx
    have apart : node ∈ c.1.nodes → node ∉ changes.flatMap (·.1.nodes) := fun h h' => disjoint h h'
    simp only [List.mem_cons, List.map_cons, List.flatMap_cons, List.mem_append, exists_eq_or_imp]
    grind

theorem trip_install_cases (distinct : (changes.map (·.1.vehicle)).Nodup)
    (exist : ∀ c ∈ changes, c.1.vehicle < s.trips.length) (vehicle : Nat) :
    (∃ c ∈ changes, c.1.vehicle = vehicle ∧
      (s.install m changes).trip vehicle = ⟨c.1.nodes, c.2, tripCost m c.1.nodes⟩) ∨
    vehicle ∉ changes.map (·.1.vehicle) ∧ (s.install m changes).trip vehicle = s.trip vehicle := by
  by_cases hv : vehicle ∈ changes.map (·.1.vehicle)
  · obtain ⟨c, hc, rfl⟩ := List.mem_map.mp hv
    exact .inl ⟨c, hc, rfl, trip_install_of_mem distinct exist hc⟩
  · exact .inr ⟨hv, trip_install_of_notMem hv⟩

/-- The changes give vehicles that exist trips they can run, made of deliveries that stand on a
changed trip or on none, and of no delivery twice. -/
structure Redistributes (m : Model) (s : Solution) (changes : List (Change × Schedule)) : Prop where
  distinct : (changes.map (·.1.vehicle)).Nodup
  exist : ∀ c ∈ changes, c.1.vehicle < s.trips.length
  computed : ∀ c ∈ changes, Schedule.compute m c.1.vehicle c.1.nodes = .ok c.2
  nodup : (changes.flatMap (·.1.nodes)).Nodup
  free : ∀ node ∈ changes.flatMap (·.1.nodes), ∀ v, s.vehicleOf node = some v →
    v ∈ changes.map (·.1.vehicle)
  noDepot : depot ∉ changes.flatMap (·.1.nodes)

/-- The order in which the changes are listed plays no part. -/
theorem Redistributes.perm {changes' : List (Change × Schedule)} (h : Redistributes m s changes)
    (same : changes.Perm changes') : Redistributes m s changes' := by
  have vehicles := same.map (·.1.vehicle)
  have stops : (changes.flatMap (·.1.nodes)).Perm (changes'.flatMap (·.1.nodes)) :=
    same.flatMap_right _
  refine ⟨vehicles.nodup_iff.mp h.distinct, fun c hc => h.exist c (same.mem_iff.mpr hc),
    fun c hc => h.computed c (same.mem_iff.mpr hc), stops.nodup_iff.mp h.nodup,
    fun node hnode v hv => ?_, fun hdepot => h.noDepot (stops.mem_iff.mpr hdepot)⟩
  exact vehicles.mem_iff.mp (h.free node (stops.mem_iff.mpr hnode) v hv)

theorem Redistributes.nodes_install (h : Redistributes m s changes) {c : Change × Schedule}
    (hc : c ∈ changes) : (s.install m changes).nodes c.1.vehicle = c.1.nodes := by
  rw [nodes, trip_install_of_mem h.distinct h.exist hc]

theorem nodes_install_of_notMem (hv : vehicle ∉ changes.map (·.1.vehicle)) :
    (s.install m changes).nodes vehicle = s.nodes vehicle := by
  rw [nodes, trip_install_of_notMem hv, ← nodes]

section Install

variable (hs : s.Consistent m) (h : Redistributes m s changes)
include hs h

theorem Consistent.vehicleOf_install_iff : (s.install m changes).vehicleOf node = some vehicle ↔
    node ∈ (s.install m changes).nodes vehicle := by
  have known : ∀ node ∈ changes.flatMap (·.1.nodes), node < s.servedBy.length := by
    intro node hn
    obtain ⟨c, hc, hn⟩ := List.mem_flatMap.mp hn
    rw [hs.length_servedBy]
    exact Schedule.lt_numNodes_of_compute (h.computed c hc) node hn
  have own : ∀ v ∈ changes.map (·.1.vehicle), ∀ node, s.vehicleOf node = some v →
      node ∈ s.nodes v := fun v _ node => (hs.vehicleOf_eq_some_iff node v).mp
  rw [vehicleOf_install h.distinct known h.nodup own]
  by_cases hv : vehicle ∈ changes.map (·.1.vehicle)
  · obtain ⟨c, hc, rfl⟩ := List.mem_map.mp hv
    rw [h.nodes_install hc]
    constructor
    · rintro (⟨d, hd, hdc, hn⟩ | ⟨notChanged, -⟩)
      · rwa [← h.nodes_install hc, ← hdc, h.nodes_install hd]
      · exact absurd hv notChanged
    · exact fun hn => .inl ⟨c, hc, rfl, hn⟩
  · rw [nodes_install_of_notMem hv, ← hs.vehicleOf_eq_some_iff]
    constructor
    · rintro (⟨d, hd, rfl, -⟩ | ⟨-, -, hn⟩)
      · exact absurd (List.mem_map_of_mem hd) hv
      · exact hn
    · exact fun hn => .inr ⟨hv, fun hin => hv (h.free node hin vehicle hn), hn⟩

/-- **Changes that move the stops of some vehicles around, and may take in dropped deliveries,
keep a solution consistent.** -/
theorem Consistent.install : (s.install m changes).Consistent m := by
  refine ⟨?trips, ?servedBy, fun v => ?schedule, fun v => ?cost, fun v => ?once, fun v => ?depot,
    fun node v => hs.vehicleOf_install_iff h⟩
  case trips => rw [length_trips_install, hs.length_trips]
  case servedBy => rw [length_servedBy_install, hs.length_servedBy]
  all_goals
    rw [nodes]
    rcases trip_install_cases (m := m) h.distinct h.exist v with ⟨c, hc, rfl, htrip⟩ | ⟨-, htrip⟩ <;>
      rw [htrip]
  case schedule.inl => exact h.computed c hc
  case schedule.inr => exact hs.compute_nodes v
  case cost.inr => exact hs.cost_trip v
  case once.inl => exact (List.nodup_flatMap.mp h.nodup).1 c hc
  case once.inr => exact hs.nodup_nodes v
  case depot.inl => exact fun hd => h.noDepot (List.mem_flatMap.mpr ⟨c, hc, hd⟩)
  case depot.inr => exact hs.depot_notMem v

end Install

end DeliveryRouting.Solution
