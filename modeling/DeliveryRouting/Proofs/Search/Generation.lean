import DeliveryRouting.Proofs.Search.Conservation
import DeliveryRouting.Proofs.Trip.Consistency
import DeliveryRouting.Search.Neighbourhood

/-! # Generated moves

Membership in each of the six neighbourhoods (`mem_relocations` to `mem_exchanges`), and from it
that a generated move is a `Candidate`: a move of its kind between stops and places that exist.

A candidate makes sense (`fault?_of_candidate`): it exchanges no delivery with itself and reverses
more than one stop. The delivery it takes in is a dropped one (`Candidate.inserted?_mem_dropped`),
and the trips it would make stop at deliveries only (`Candidate.deliveries`). -/

namespace DeliveryRouting.Operator

variable {m : Model} {s : Solution} {move : Move} {operator : Operator}

/-! ### Membership -/

theorem mem_indices {a b i : Nat} : i ∈ indices a b ↔ a ≤ i ∧ i < b := by
  simp only [indices, List.mem_map, List.mem_range]
  constructor
  · rintro ⟨j, hj, rfl⟩; omega
  · rintro ⟨ha, hb⟩; exact ⟨i - a, by omega, by omega⟩

theorem mem_targets {origin start length vehicle target : Nat} :
    (vehicle, target) ∈ targets m s origin start length ↔ vehicle < s.trips.length ∧
      (vehicle = origin ∧ target < (s.nodes origin).length + 1 - length ∧ target ≠ start ∨
        vehicle ≠ origin ∧
          hasRoom m s vehicle ((segment (s.nodes origin) start length).map m.demand).sum = true ∧
          target < (s.nodes vehicle).length + 1) := by
  simp only [targets, List.mem_flatMap, Solution.vehicles, List.mem_range]
  constructor
  · rintro ⟨v, hv, h⟩
    split at h
    · next he =>
      simp only [List.mem_map, List.mem_filter, List.mem_range, decide_eq_true_eq,
        Prod.mk.injEq] at h
      obtain ⟨t, ⟨ht, hne⟩, rfl, rfl⟩ := h
      exact ⟨hv, .inl ⟨he, ht, hne⟩⟩
    · next he =>
      split at h
      · next hroom =>
        simp only [List.mem_map, List.mem_range, Prod.mk.injEq] at h
        obtain ⟨t, ht, rfl, rfl⟩ := h
        exact ⟨hv, .inr ⟨he, hroom, ht⟩⟩
      · simp at h
  · rintro ⟨hv, ⟨rfl, ht, hne⟩ | ⟨he, hroom, ht⟩⟩
    · exact ⟨vehicle, hv, by simp [ht, hne]⟩
    · refine ⟨vehicle, hv, ?_⟩
      rw [if_neg he, if_pos hroom]
      exact List.mem_map.mpr ⟨target, List.mem_range.mpr ht, rfl⟩

theorem mem_relocations : move ∈ relocations m s ↔
    ∃ origin position vehicle target, position < (s.nodes origin).length ∧
      (vehicle, target) ∈ targets m s origin position 1 ∧
      move = .relocate origin position vehicle target := by
  simp only [relocations, List.mem_flatMap, List.mem_map, List.mem_range, Prod.exists,
    Solution.mem_usedVehicles]
  constructor
  · rintro ⟨origin, -, position, hp, vehicle, target, ht, rfl⟩
    exact ⟨origin, position, vehicle, target, hp, ht, rfl⟩
  · rintro ⟨origin, position, vehicle, target, hp, ht, rfl⟩
    exact ⟨origin, List.ne_nil_of_length_pos (by omega), position, hp, vehicle, target, ht, rfl⟩

theorem pos_of_mem_runLengths : ∀ length ∈ runLengths, 0 < length := by decide

theorem mem_runRelocations : move ∈ runRelocations m s ↔
    ∃ origin start length vehicle target, length ∈ runLengths ∧
      start + length ≤ (s.nodes origin).length ∧
      (vehicle, target) ∈ targets m s origin start length ∧
      move = .orOpt origin start length vehicle target := by
  simp only [runRelocations, List.mem_flatMap, List.mem_map, List.mem_range, Prod.exists,
    Solution.mem_usedVehicles]
  constructor
  · rintro ⟨origin, -, length, hl, start, hs, vehicle, target, ht, rfl⟩
    have := pos_of_mem_runLengths length hl
    exact ⟨origin, start, length, vehicle, target, hl, by omega, ht, rfl⟩
  · rintro ⟨origin, start, length, vehicle, target, hl, hs, ht, rfl⟩
    have := pos_of_mem_runLengths length hl
    exact ⟨origin, List.ne_nil_of_length_pos (by omega), length, hl, start, by omega, vehicle,
      target, ht, rfl⟩

theorem mem_innerSwaps {vehicle : Nat} : move ∈ innerSwaps s vehicle ↔
    ∃ first second, first < second ∧ second < (s.nodes vehicle).length ∧
      move = .swap vehicle first vehicle second := by
  simp only [innerSwaps, List.mem_flatMap, List.mem_map, List.mem_range, mem_indices]
  constructor
  · rintro ⟨first, -, second, ⟨h, h'⟩, rfl⟩
    exact ⟨first, second, by omega, h', rfl⟩
  · rintro ⟨first, second, h, h', rfl⟩
    exact ⟨first, by omega, second, ⟨by omega, h'⟩, rfl⟩

theorem mem_crossSwaps {first second : Nat} : move ∈ crossSwaps m s first second ↔
    ∃ position target, ∃ hx : position < (s.nodes first).length,
      ∃ hy : target < (s.nodes second).length,
      hasRoom m s first (m.demand (s.nodes second)[target] - m.demand (s.nodes first)[position]) =
        true ∧
      hasRoom m s second
        (-(m.demand (s.nodes second)[target] - m.demand (s.nodes first)[position])) = true ∧
      move = .swap first position second target := by
  simp only [crossSwaps, List.mem_flatMap, List.mem_filterMap, Prod.exists,
    List.mem_zipIdx_iff_getElem?, Option.ite_none_right_eq_some, Option.some.injEq,
    Bool.and_eq_true]
  constructor
  · rintro ⟨x, position, hx, y, target, hy, ⟨h, h'⟩, rfl⟩
    obtain ⟨hp, rfl⟩ := List.getElem?_eq_some_iff.mp hx
    obtain ⟨ht, rfl⟩ := List.getElem?_eq_some_iff.mp hy
    exact ⟨position, target, hp, ht, h, h', rfl⟩
  · rintro ⟨position, target, hp, ht, h, h', rfl⟩
    exact ⟨_, position, List.getElem?_eq_getElem hp, _, target, List.getElem?_eq_getElem ht,
      ⟨h, h'⟩, rfl⟩

theorem mem_swaps : move ∈ swaps m s ↔
    (∃ vehicle, move ∈ innerSwaps s vehicle) ∨
      ∃ first second, first < second ∧ move ∈ crossSwaps m s first second := by
  simp only [swaps, List.mem_flatMap, List.mem_append, List.mem_filter, decide_eq_true_eq,
    Solution.mem_usedVehicles]
  constructor
  · rintro ⟨first, -, h | ⟨second, ⟨-, hlt⟩, h⟩⟩
    · exact .inl ⟨first, h⟩
    · exact .inr ⟨first, second, hlt, h⟩
  · rintro (⟨vehicle, h⟩ | ⟨first, second, hlt, h⟩)
    · obtain ⟨_, second, -, hlt, -⟩ := mem_innerSwaps.mp h
      exact ⟨vehicle, List.ne_nil_of_length_pos (by omega), .inl h⟩
    · obtain ⟨position, target, hx, hy, -⟩ := mem_crossSwaps.mp h
      exact ⟨first, List.ne_nil_of_length_pos (by omega),
        .inr ⟨second, ⟨List.ne_nil_of_length_pos (by omega), hlt⟩, h⟩⟩

theorem mem_reversals : move ∈ reversals s ↔
    ∃ vehicle first last, first + 2 ≤ last ∧ last < (s.nodes vehicle).length ∧
      move = .twoOpt vehicle first last := by
  simp only [reversals, List.mem_flatMap, List.mem_map, List.mem_range, mem_indices,
    Solution.mem_usedVehicles]
  constructor
  · rintro ⟨vehicle, -, first, -, last, ⟨h, h'⟩, rfl⟩
    exact ⟨vehicle, first, last, h, h', rfl⟩
  · rintro ⟨vehicle, first, last, h, h', rfl⟩
    exact ⟨vehicle, List.ne_nil_of_length_pos (by omega), first, by omega, last, ⟨h, h'⟩, rfl⟩

theorem mem_insertions : move ∈ insertions m s ↔
    ∃ node vehicle position, node ∈ s.dropped ∧ vehicle < s.trips.length ∧
      hasRoom m s vehicle (m.demand node) = true ∧ position ≤ (s.nodes vehicle).length ∧
      move = .insertDropped node vehicle position := by
  simp only [insertions, List.mem_flatMap, Solution.vehicles, List.mem_range,
    List.mem_ite_nil_right, List.mem_map]
  constructor
  · rintro ⟨node, hn, vehicle, hv, hroom, position, hp, rfl⟩
    exact ⟨node, vehicle, position, hn, hv, hroom, by omega, rfl⟩
  · rintro ⟨node, vehicle, position, hn, hv, hroom, hp, rfl⟩
    exact ⟨node, hn, vehicle, hv, hroom, position, by omega, rfl⟩

theorem mem_exchanges : move ∈ exchanges m s ↔
    ∃ node vehicle position, node ∈ s.dropped ∧ ∃ hp : position < (s.nodes vehicle).length,
      hasRoom m s vehicle (m.demand node - m.demand (s.nodes vehicle)[position]) = true ∧
      move = .exchangeDropped node vehicle position := by
  simp only [exchanges, List.mem_flatMap, List.mem_filterMap, Prod.exists,
    List.mem_zipIdx_iff_getElem?, Option.ite_none_right_eq_some, Option.some.injEq,
    Solution.mem_usedVehicles]
  constructor
  · rintro ⟨node, hn, vehicle, -, served, position, hserved, hroom, rfl⟩
    obtain ⟨hp, rfl⟩ := List.getElem?_eq_some_iff.mp hserved
    exact ⟨node, vehicle, position, hn, hp, hroom, rfl⟩
  · rintro ⟨node, vehicle, position, hn, hp, hroom, rfl⟩
    exact ⟨node, hn, vehicle, List.ne_nil_of_length_pos (by omega), _, position,
      List.getElem?_eq_getElem hp, hroom, rfl⟩

/-! ### Candidates -/

/-- A place for the `length` stops of `origin` from index `start` on, once they have been taken out:
any index of another trip, and any of their own but the one they come from. -/
def IsPlace (s : Solution) (origin start length destination target : Nat) : Prop :=
  if destination = origin then target + length ≤ (s.nodes origin).length ∧ target ≠ start
  else destination < s.trips.length ∧ target ≤ (s.nodes destination).length

/-- The moves of a kind between stops and places that exist, whatever the vehicles can hold. Of the
two ways to tell of a swap one counts, and a run of two stops is left to the swaps. -/
inductive Candidate (s : Solution) : Operator → Move → Prop
  | relocate {origin position destination target : Nat}
      (stop : position < (s.nodes origin).length)
      (place : IsPlace s origin position 1 destination target) :
      Candidate s .relocate (.relocate origin position destination target)
  | orOpt {origin start length destination target : Nat} (few : length = 2 ∨ length = 3)
      (run : start + length ≤ (s.nodes origin).length)
      (place : IsPlace s origin start length destination target) :
      Candidate s .orOpt (.orOpt origin start length destination target)
  | swap {first position second target : Nat}
      (here : position < (s.nodes first).length) (there : target < (s.nodes second).length)
      (order : first < second ∨ first = second ∧ position < target) :
      Candidate s .swap (.swap first position second target)
  | twoOpt {vehicle first last : Nat} (run : first + 2 ≤ last)
      (stop : last < (s.nodes vehicle).length) : Candidate s .twoOpt (.twoOpt vehicle first last)
  | insertDropped {node vehicle position : Nat} (dropped : node ∈ s.dropped)
      (known : vehicle < s.trips.length) (place : position ≤ (s.nodes vehicle).length) :
      Candidate s .insertDropped (.insertDropped node vehicle position)
  | exchangeDropped {node vehicle position : Nat} (dropped : node ∈ s.dropped)
      (stop : position < (s.nodes vehicle).length) :
      Candidate s .exchangeDropped (.exchangeDropped node vehicle position)

theorem Candidate.operator_eq (h : operator.Candidate s move) : move.operator = operator := by
  cases h <;> rfl

theorem mem_runLengths {length : Nat} : length ∈ runLengths ↔ length = 2 ∨ length = 3 := by
  simp [runLengths]

theorem mem_targets_iff {origin start length vehicle target : Nat} (hlength : 0 < length)
    (run : start + length ≤ (s.nodes origin).length) :
    (vehicle, target) ∈ targets m s origin start length ↔
      IsPlace s origin start length vehicle target ∧ (vehicle ≠ origin →
        hasRoom m s vehicle ((segment (s.nodes origin) start length).map m.demand).sum = true) := by
  rw [mem_targets, IsPlace]
  by_cases own : vehicle = origin
  · subst own
    have known : vehicle < s.trips.length := by
      obtain ⟨node, hnode⟩ := List.exists_mem_of_length_pos
        (show 0 < (s.nodes vehicle).length by omega)
      exact Solution.lt_length_of_mem_nodes hnode
    rw [if_pos rfl]
    simp only [known, true_and, ne_eq, not_true_eq_false, false_and, or_false, false_implies,
      and_true]
    exact and_congr_left fun _ => by omega
  · rw [if_neg own]
    simp only [own, false_and, false_or, ne_eq, not_false_eq_true, true_and, true_implies]
    constructor
    · rintro ⟨known, room, ht⟩
      exact ⟨⟨known, by omega⟩, room⟩
    · rintro ⟨⟨known, ht⟩, room⟩
      exact ⟨known, room, by omega⟩

theorem candidate_of_mem_moves (h : move ∈ operator.moves m s) : operator.Candidate s move := by
  cases operator with
  | relocate =>
    obtain ⟨origin, position, vehicle, target, hp, ht, rfl⟩ := mem_relocations.mp h
    exact .relocate hp ((mem_targets_iff Nat.one_pos hp).mp ht).1
  | orOpt =>
    obtain ⟨origin, start, length, vehicle, target, hl, hrun, ht, rfl⟩ := mem_runRelocations.mp h
    have hlength := pos_of_mem_runLengths length hl
    exact .orOpt (mem_runLengths.mp hl) hrun ((mem_targets_iff hlength hrun).mp ht).1
  | swap =>
    rcases mem_swaps.mp h with ⟨vehicle, h⟩ | ⟨first, second, hlt, h⟩
    · obtain ⟨first, second, hlt, hlast, rfl⟩ := mem_innerSwaps.mp h
      exact .swap (by omega) hlast (.inr ⟨rfl, hlt⟩)
    · obtain ⟨position, target, hx, hy, -, -, rfl⟩ := mem_crossSwaps.mp h
      exact .swap hx hy (.inl hlt)
  | twoOpt =>
    obtain ⟨vehicle, first, last, hlt, hlast, rfl⟩ := mem_reversals.mp h
    exact .twoOpt hlt hlast
  | insertDropped =>
    obtain ⟨node, vehicle, position, hn, hv, -, hp, rfl⟩ := mem_insertions.mp h
    exact .insertDropped hn hv hp
  | exchangeDropped =>
    obtain ⟨node, vehicle, position, hn, hp, -, rfl⟩ := mem_exchanges.mp h
    exact .exchangeDropped hn hp

/-! ### Candidates make sense -/

theorem hasStop_of_lt {vehicle position : Nat} (h : position < (s.nodes vehicle).length) :
    Move.hasStop s vehicle position = true :=
  Move.hasStop_iff.mpr ⟨Solution.lt_length_of_mem_nodes (List.getElem_mem h), h⟩

/-- A place that a run may go to exists once the run has been taken out. -/
theorem canCarry_of_isPlace {origin start length destination target : Nat} (hlength : 0 < length)
    (run : start + length ≤ (s.nodes origin).length)
    (place : IsPlace s origin start length destination target) :
    Move.canCarry s origin start length destination target = true := by
  have horigin : origin < s.trips.length :=
    (Move.hasStop_iff.mp (hasStop_of_lt (show start < (s.nodes origin).length by omega))).1
  unfold IsPlace at place
  split at place
  · next own =>
    subst own
    exact Move.canCarry_iff.mpr ⟨horigin, horigin, run, by rw [if_pos rfl]; omega⟩
  · next other =>
    exact Move.canCarry_iff.mpr ⟨horigin, place.1, run, by rw [if_neg (Ne.symm other)]; omega⟩

/-- **A candidate makes sense.** -/
theorem fault?_of_candidate (hs : s.Consistent m) (h : operator.Candidate s move) :
    move.fault? m s = none := by
  have known : ∀ node ∈ s.dropped, node < m.numNodes := fun node hn =>
    (m.mem_deliveries.mp (hs.mem_deliveries_of_mem_dropped hn)).2
  cases h with
  | relocate stop place =>
    exact Move.fault?_relocate.mpr (canCarry_of_isPlace Nat.one_pos stop place)
  | orOpt few run place =>
    exact Move.fault?_orOpt.mpr (canCarry_of_isPlace (by omega) run place)
  | swap here there order =>
    exact Move.fault?_swap.mpr ⟨by omega, hasStop_of_lt here, hasStop_of_lt there⟩
  | twoOpt run stop => exact Move.fault?_twoOpt.mpr ⟨by omega, hasStop_of_lt stop⟩
  | insertDropped dropped vehicle place =>
    exact Move.fault?_insertDropped.mpr ⟨vehicle, place, known _ dropped⟩
  | exchangeDropped dropped stop =>
    exact Move.fault?_exchangeDropped.mpr ⟨hasStop_of_lt stop, known _ dropped⟩

theorem Candidate.changes_perm (hs : s.Consistent m) (h : operator.Candidate s move) :
    ((move.changes s).flatMap Change.nodes ++ (move.removed? s).toList).Perm
      (move.updated.flatMap s.nodes ++ move.inserted?.toList) :=
  Move.changes_perm (fault?_of_candidate hs h)

theorem Candidate.inserted?_mem_dropped (h : operator.Candidate s move) :
    ∀ node ∈ move.inserted?, node ∈ s.dropped := by
  cases h with
  | relocate | orOpt | swap | twoOpt => simp [Move.inserted?]
  | insertDropped dropped => simpa [Move.inserted?] using dropped
  | exchangeDropped dropped => simpa [Move.inserted?] using dropped

theorem Candidate.deliveries (hs : s.Consistent m) (h : operator.Candidate s move) :
    (∀ change ∈ move.changes s, ∀ node ∈ change.nodes, node ∈ m.deliveries) ∧
      (∀ node ∈ move.removed? s, node ∈ m.deliveries) ∧
      ∀ node ∈ move.inserted?, node ∈ m.deliveries := by
  have conserved := h.changes_perm hs
  have takesIn : ∀ node ∈ move.inserted?, node ∈ m.deliveries := fun node hn =>
    hs.mem_deliveries_of_mem_dropped (h.inserted?_mem_dropped node hn)
  have all : ∀ node ∈ (move.changes s).flatMap Change.nodes ++ (move.removed? s).toList,
      node ∈ m.deliveries := by
    intro node hn
    rcases List.mem_append.mp (conserved.mem_iff.mp hn) with hn | hn
    · obtain ⟨v, -, hv⟩ := List.mem_flatMap.mp hn
      exact hs.mem_deliveries_of_mem_nodes hv
    · exact takesIn node (Option.mem_toList.mp hn)
  refine ⟨fun change hc node hn => ?_, fun node hn => ?_, takesIn⟩
  · exact all node (List.mem_append_left _ (List.mem_flatMap.mpr ⟨change, hc, hn⟩))
  · exact all node (List.mem_append_right _ (Option.mem_toList.mpr hn))

end DeliveryRouting.Operator
