import DeliveryRouting.Proofs.Search.Budget
import DeliveryRouting.Proofs.Trip.Arcs

/-! # How penalties grow

The arcs that get a penalty are chosen by a scan of all travelled arcs: an arc of a larger utility
takes the place of those chosen so far, one of the same utility joins them. Which of the two it is, is
decided by comparisons of doubles. Here the decisions are left open (`Chosen`). Whatever they are, the
choice holds no arc twice, because a consistent solution travels none twice
(`Solution.Consistent.nodup_travelled`), and so no penalty grows by more than one (`raises`).

Along a search, whose weight is fixed somewhere on the way, penalties therefore never fall, and none is
larger than the number of times that penalties were given (`Penalized.bounds`). -/

namespace DeliveryRouting

open Guidance (travelled)

/-! ### Arcs of a solution -/

namespace Solution

variable {m : Model} {s : Solution} {arc : Nat × Nat}

theorem travelled_eq (s : Solution) :
    travelled s = s.vehicles.flatMap fun v => tripArcs (s.nodes v) := by
  rw [travelled, ← map_trip_vehicles s, List.flatMap_map]
  rfl

theorem exists_trip_of_mem_travelled (h : arc ∈ travelled s) :
    ∃ v ∈ s.usedVehicles, arc ∈ tripArcs (s.nodes v) := by
  rw [travelled_eq] at h
  obtain ⟨v, -, harc⟩ := List.mem_flatMap.mp h
  refine ⟨v, mem_usedVehicles.mpr fun none => ?_, harc⟩
  rw [none] at harc
  simp [tripArcs] at harc

/-- **A consistent solution travels no arc twice.** The vehicles that stay at the depot travel
none. -/
theorem Consistent.nodup_travelled (hs : s.Consistent m) : (travelled s).Nodup := by
  rw [travelled_eq]
  refine List.nodup_flatMap.mpr ⟨fun v _ => ?_, ?_⟩
  · exact nodup_tripArcs (hs.nodup_nodes v) (hs.depot_notMem v)
  · refine List.nodup_range.imp fun {v w} other => ?_
    have apart : (s.nodes v).Disjoint (s.nodes w) := fun node hv hw =>
      hs.notMem_nodes_of_ne other hv hw
    exact disjoint_tripArcs apart (hs.depot_notMem v) (hs.depot_notMem w)

end Solution

/-! ### Choices -/

/-- After a look at the arcs `seen` those chosen are `arcs`, by some decisions: each arc takes the place
of all that were chosen before, joins them, or is passed over. -/
inductive Chosen : (seen arcs : List (Nat × Nat)) → Prop
  | nothing : Chosen [] []
  | replaces {seen arcs : List (Nat × Nat)} (before : Chosen seen arcs) (arc : Nat × Nat) :
      Chosen (seen ++ [arc]) [arc]
  | joins {seen arcs : List (Nat × Nat)} (before : Chosen seen arcs) (arc : Nat × Nat) :
      Chosen (seen ++ [arc]) (arcs ++ [arc])
  | passed {seen arcs : List (Nat × Nat)} (before : Chosen seen arcs) (arc : Nat × Nat) :
      Chosen (seen ++ [arc]) arcs

namespace Chosen

variable {g : Guidance} {m : Model} {seen arcs : List (Nat × Nat)}

theorem sublist (h : Chosen seen arcs) : arcs.Sublist seen := by
  induction h with
  | nothing => exact List.Sublist.refl []
  | replaces _ arc _ => exact List.sublist_append_right _ _
  | joins _ arc ih => exact ih.append_right [arc]
  | passed _ arc ih => exact ih.trans (List.sublist_append_left _ _)

/-- The comparisons of utilities are some decisions. -/
theorem foldl_select {selection : Guidance.Selection} (h : Chosen seen selection.arcs)
    (more : List (Nat × Nat)) :
    Chosen (seen ++ more) (more.foldl (g.select m) selection).arcs := by
  induction more generalizing seen selection with
  | nil => simpa using h
  | cons arc more ih =>
    have next : Chosen (seen ++ [arc]) (g.select m selection arc).arcs := by
      unfold Guidance.select
      dsimp only
      split
      · exact h.replaces arc
      · split
        · exact h.joins arc
        · exact h.passed arc
    have rest := ih next
    rwa [List.append_assoc, List.singleton_append] at rest

theorem selected (g : Guidance) (m : Model) (s : Solution) :
    Chosen (travelled s) (g.selected m s) := by
  have start : Chosen [] Guidance.Selection.none.arcs := .nothing
  exact foldl_select start (travelled s)

end Chosen

/-! ### Penalties -/

namespace Guidance

variable {g g' : Guidance} {m : Model} {s : Solution} {arcs : List (Nat × Nat)} {found : Bool}

/-- One more penalty for each of the arcs. -/
def raise (g : Guidance) (arcs : List (Nat × Nat)) : Guidance := arcs.foldl penalizeArc g

theorem penalize_eq (g : Guidance) (m : Model) (s : Solution) :
    g.penalize m s = (g.raise (g.selected m s), !(g.selected m s).isEmpty) := rfl

theorem count_raise (g : Guidance) (arcs : List (Nat × Nat)) (i j : Nat) :
    (g.raise arcs).count i j = g.count i j + arcs.count (i, j) := by
  unfold raise
  induction arcs generalizing g with
  | nil => rfl
  | cons arc arcs ih =>
    obtain ⟨a, b⟩ := arc
    rw [List.foldl_cons, ih, count_penalizeArc, List.count_cons]
    simp only [beq_iff_eq]
    omega

theorem raise_eq (g : Guidance) (arcs : List (Nat × Nat)) :
    g.raise arcs = { g with counts := (g.raise arcs).counts } := by
  unfold raise
  induction arcs generalizing g with
  | nil => rfl
  | cons arc arcs ih =>
    rw [List.foldl_cons, ih]
    rfl

@[simp] theorem count_calibrate (g : Guidance) (s : Solution) (width : Width) (i j : Nat) :
    (g.calibrate s width).count i j = g.count i j := by
  unfold calibrate
  split <;> rfl

/-- **One round of penalties** for a solution: no penalty has grown by more than one, none that is not
on a trip has grown, the weight is as it was, and it is known whether any penalty has grown. -/
structure Raises (s : Solution) (g g' : Guidance) (found : Bool) : Prop where
  count : ∀ i j, g'.count i j = g.count i j ∨ g'.count i j = g.count i j + 1 ∧
    ∃ v ∈ s.usedVehicles, (i, j) ∈ tripArcs (s.nodes v)
  lambda : g'.lambda = g.lambda
  coefficient : g'.coefficient = g.coefficient
  calibrated : g'.calibrated = g.calibrated
  found_iff : found = true ↔ ∃ i j, g.count i j < g'.count i j

/-- A choice among the arcs of a consistent solution, by whatever decisions, makes one round of
penalties. -/
theorem raises (hs : s.Consistent m) (g : Guidance) (choice : Chosen (travelled s) arcs) :
    Raises s g (g.raise arcs) (!arcs.isEmpty) := by
  have once : arcs.Nodup := hs.nodup_travelled.sublist choice.sublist
  have same := raise_eq g arcs
  refine ⟨fun i j => ?count, ?lambda, ?coefficient, ?calibrated, ?found⟩
  case count =>
    rw [count_raise]
    by_cases chosen : (i, j) ∈ arcs
    · right
      have one : arcs.count (i, j) = 1 := List.count_eq_one_of_mem once chosen
      exact ⟨by omega, Solution.exists_trip_of_mem_travelled (choice.sublist.subset chosen)⟩
    · left
      have zero : arcs.count (i, j) = 0 := List.count_eq_zero_of_not_mem chosen
      omega
  case lambda => rw [same]
  case coefficient => rw [same]
  case calibrated => rw [same]
  case found =>
    simp only [count_raise]
    constructor
    · intro some
      obtain ⟨arc, harc⟩ := List.exists_mem_of_ne_nil arcs (by simpa using some)
      have pos : 0 < arcs.count (arc.1, arc.2) := List.count_pos_iff.mpr harc
      exact ⟨arc.1, arc.2, by omega⟩
    · rintro ⟨i, j, grown⟩
      have pos : 0 < arcs.count (i, j) := by omega
      have chosen := List.ne_nil_of_mem (List.count_pos_iff.mp pos)
      simpa using chosen

/-! ### Runs -/

/-- Penalties were given `n` times on the way from one guidance to another, each time for arcs of a
consistent solution that were chosen by some decisions. The weight may be fixed anywhere. -/
inductive Penalized (m : Model) (g : Guidance) : Nat → Guidance → Prop
  | start : Penalized m g 0 g
  | calibrate {n : Nat} {g' : Guidance} (before : Penalized m g n g') (s : Solution) :
      Penalized m g n (g'.calibrate s m.width)
  | penalize {n : Nat} {g' : Guidance} {s : Solution} {arcs : List (Nat × Nat)}
      (before : Penalized m g n g') (hs : s.Consistent m) (choice : Chosen (travelled s) arcs) :
      Penalized m g (n + 1) (g'.raise arcs)

/-- **Penalties never fall, and grow no more often than they are given.** -/
theorem Penalized.bounds {n : Nat} (h : Penalized m g n g') (i j : Nat) :
    g.count i j ≤ g'.count i j ∧ g'.count i j ≤ g.count i j + n := by
  induction h with
  | start => omega
  | calibrate _ s ih =>
    rw [count_calibrate]
    exact ih
  | @penalize n g' s arcs _ hs choice ih =>
    have step := (raises hs g' choice).count i j
    omega

end Guidance

/-! ### Searches -/

namespace Search

open Guidance

variable {m : Model} {p : Params} {t t' : Search} {n : Nat}

theorem guidance_round (m : Model) (t : Search) (d : Descent) : (t.round m d).1.guidance =
    (t.guidance.calibrate d.solution m.width).raise
      ((t.guidance.calibrate d.solution m.width).selected m d.solution) := by
  unfold round penalize settle
  dsimp only
  split <;> rfl

/-- Each round gives penalties once. -/
theorem Rounds.penalized (h : Rounds m p t n t') (ht : t.OnTrack m) :
    Penalized m t.guidance n t'.guidance := by
  induction h with
  | none => exact .start
  | @round n t' d poll before _ moves ih =>
    have hd := ((before.onTrack ht).current.steps moves).consistent
    rw [guidance_round]
    exact (ih.calibrate d.solution).penalize hd (Chosen.selected _ m d.solution)

end Search

/-- **Penalties grow one at a time and on travelled arcs only.** At a consistent solution any
decisions about the arcs that are looked at, and so the comparisons of utilities, raise each penalty by
at most one, those of arcs on trips only, and tell whether any has grown; the weight stays as it was,
and nothing of a search but its guidance is touched. However often that happens, and wherever the weight
is fixed, no penalty ever falls or gets larger than the number of times. The rounds of a search give
penalties once each, and every run makes such rounds. -/
theorem penalties_grow (m : Model) :
    (∀ s : Solution, s.Consistent m → ∀ g : Guidance,
      (∀ arcs, Chosen (travelled s) arcs → g.Raises s (g.raise arcs) (!arcs.isEmpty)) ∧
      g.Raises s (g.penalize m s).1 (g.penalize m s).2) ∧
    (∀ t : Search, (t.penalize m).1 = { t with guidance := (t.penalize m).1.guidance }) ∧
    (∀ g n g', Guidance.Penalized m g n g' → ∀ i j,
      g.count i j ≤ g'.count i j ∧ g'.count i j ≤ g.count i j + n) ∧
    ∀ p : Params,
      (∀ n t, Search.Rounds m p (.start m p (Solution.construct m)) n t →
        t.iterations = n ∧ (∀ i j, t.guidance.count i j ≤ n) ∧
        ∀ k t', Search.Rounds m p t k t' → ∀ i j, t.guidance.count i j ≤ t'.guidance.count i j) ∧
      ∀ (steps : Nat) (signal : Nat → Poll) (first : Nat),
        Search.ComesTo m p (.start m p (Solution.construct m)) steps signal
          ((Search.run m p steps).run signal first).1 := by
  refine ⟨fun s hs g => ⟨fun arcs choice => ?decided, ?compared⟩, fun t => rfl,
    fun g n g' h => h.bounds, fun p => ⟨fun n t rounds => ?rounds, fun steps signal first => ?run⟩⟩
  case decided => exact Guidance.raises hs g choice
  case compared => exact Guidance.raises hs g (Chosen.selected g m s)
  case rounds =>
    have greedy := Search.onTrack_start (p := p) (Solution.reachable_construct m)
    refine ⟨?_, fun i j => ?_, fun k t' more i j => ?_⟩
    · rw [rounds.iterations_eq, Search.start, Nat.zero_add]
    · have fresh : (Search.start m p (Solution.construct m)).guidance.count i j = 0 :=
        Guidance.count_start p.coefficient i j
      have grown := ((rounds.penalized greedy).bounds i j).2
      omega
    · exact ((more.penalized (rounds.onTrack greedy)).bounds i j).1
  case run => exact Search.iterate_comesTo .none (Nat.zero_add steps)

/-- Of the three arcs through both deliveries the legs from and to the depot have the largest
transit. -/
theorem selected_pairTour :
    (Guidance.start 0.1).selected pairModel Solution.pairTour = [(0, 1), (2, 0)] := by
  have fresh (i j : Nat) : (Guidance.start 0.1).utility pairModel i j =
      Float.ofInt (pairModel.transit i j) / (1.0 + Float.ofNat 0) := by
    rw [Guidance.utility, Guidance.count_start]
  have arcs : travelled Solution.pairTour = [(0, 1), (1, 2), (2, 0)] := rfl
  simp only [Guidance.selected, arcs, List.foldl_cons, List.foldl_nil, Guidance.select, fresh]
  decide +kernel

/-- Both legs get a penalty. Other decisions could as well have chosen the arc between the deliveries
alone, and given it a second one the next time. -/
theorem penalties_grow_pairTour :
    Solution.pairTour.Consistent pairModel ∧
    (Guidance.start 0.1).Raises Solution.pairTour
      ((Guidance.start 0.1).raise [(0, 1), (2, 0)]) true ∧
    Chosen (travelled Solution.pairTour) [(1, 2)] ∧
    (Guidance.start 0.1).Raises Solution.pairTour ((Guidance.start 0.1).raise [(1, 2)]) true ∧
    (∃ g, Guidance.Penalized pairModel (Guidance.start 0.1) 2 g ∧ g.count 1 2 = 2 ∧
      g.count 1 2 ≤ (Guidance.start 0.1).count 1 2 + 2) ∧
    ∃ t, Search.Rounds pairModel Search.patientParams (.start pairModel Search.patientParams
        (Solution.construct pairModel)) 1 t ∧ t.iterations = 1 ∧ t.guidance.count 0 1 ≤ 1 := by
  have hs := Solution.reachable_pairTour.consistent
  have between : Chosen (travelled Solution.pairTour) [(1, 2)] :=
    (Chosen.replaces (.passed .nothing (0, 1)) (1, 2)).passed (2, 0)
  have once : Search.Rounds pairModel Search.patientParams (.start pairModel Search.patientParams
      (Solution.construct pairModel)) 1 _ :=
    @Search.Rounds.round _ _ _ _ _
      (Search.start pairModel Search.patientParams (Solution.construct pairModel)).descent ⟨false, 0⟩
      .none (by decide) .refl
  have twice : Guidance.Penalized pairModel (Guidance.start 0.1) 2
      (((Guidance.start 0.1).raise [(1, 2)]).raise [(1, 2)]) :=
    (Guidance.Penalized.start.penalize hs between).penalize hs between
  obtain ⟨penalized, -, bounded, searched⟩ := penalties_grow pairModel
  obtain ⟨decided, compared⟩ := penalized Solution.pairTour hs (Guidance.start 0.1)
  rw [Guidance.penalize_eq, selected_pairTour] at compared
  obtain ⟨counted, atMost, -⟩ := (searched Search.patientParams).1 1 _ once
  refine ⟨hs, compared, between, decided _ between, ⟨_, twice, ?_, (bounded _ 2 _ twice 1 2).2⟩,
    _, once, counted, atMost 0 1⟩
  rw [Guidance.count_raise, Guidance.count_raise, Guidance.count_start]
  rfl

end DeliveryRouting
