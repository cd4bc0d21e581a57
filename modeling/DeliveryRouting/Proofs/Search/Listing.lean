import DeliveryRouting.Proofs.Search.Generation

/-! # Generated moves are different

A neighbourhood is listed by nested loops. No pass of a loop lists a move twice, and a move tells
each loop which of its passes listed it, by one of the numbers it is made of
(`nodup_flatMap_of_field`). So no neighbourhood lists a move twice (`nodup_moves`). -/

namespace DeliveryRouting

/-- The numbers that a move is made of. -/
def Move.fields : Move → List Nat
  | relocate origin position destination target => [origin, position, destination, target]
  | orOpt origin start length destination target => [origin, start, length, destination, target]
  | swap first position second target => [first, position, second, target]
  | twoOpt vehicle first last => [vehicle, first, last]
  | insertDropped node vehicle position | exchangeDropped node vehicle position =>
    [node, vehicle, position]

namespace Operator

variable {m : Model} {s : Solution}

/-! ### Loops -/

section Loops

variable {α β : Type}

/-- A loop lists nothing twice if no pass does, and what a pass lists tells which pass it was. -/
theorem nodup_flatMap_of_apart {xs : List α} {f : α → List β} (hxs : xs.Nodup)
    (each : ∀ x ∈ xs, (f x).Nodup) (apart : ∀ x x' y, y ∈ f x → y ∈ f x' → x = x') :
    (xs.flatMap f).Nodup := by
  refine List.nodup_flatMap.mpr ⟨each, hxs.imp fun {x x'} hne y hy hy' => hne ?_⟩
  exact apart x x' y hy hy'

theorem nodup_flatMap_of_field (i : Nat) {xs : List Nat} {f : Nat → List Move} (hxs : xs.Nodup)
    (each : ∀ x ∈ xs, (f x).Nodup) (told : ∀ x, ∀ move ∈ f x, move.fields[i]? = some x) :
    (xs.flatMap f).Nodup := by
  refine nodup_flatMap_of_apart hxs each fun x x' move h h' => ?_
  exact Option.some.inj ((told x move h).symm.trans (told x' move h'))

theorem nodup_map_of_field (i : Nat) {xs : List Nat} {f : Nat → Move} (hxs : xs.Nodup)
    (told : ∀ x, (f x).fields[i]? = some x) : (xs.map f).Nodup := by
  refine hxs.map fun x x' same => ?_
  have fields : (f x).fields[i]? = (f x').fields[i]? := by rw [same]
  rw [told, told] at fields
  exact Option.some.inj fields

/-! The loops over the stops of a trip go through the stops with their indices. -/

theorem pairwise_zipIdx (xs : List α) : xs.zipIdx.Pairwise fun a b => a.2 ≠ b.2 := by
  have indices : (xs.zipIdx.map Prod.snd).Nodup := by
    rw [List.zipIdx_map_snd]
    exact List.nodup_range'
  exact List.pairwise_map.mp indices

theorem nodup_flatMap_zipIdx_of_field (i : Nat) {xs : List α} {f : α × Nat → List Move}
    (each : ∀ x ∈ xs.zipIdx, (f x).Nodup)
    (told : ∀ x, ∀ move ∈ f x, move.fields[i]? = some x.2) : (xs.zipIdx.flatMap f).Nodup := by
  refine List.nodup_flatMap.mpr ⟨each, (pairwise_zipIdx xs).imp fun {x x'} hne move h h' => hne ?_⟩
  exact Option.some.inj ((told x move h).symm.trans (told x' move h'))

theorem nodup_filterMap_zipIdx_of_field (i : Nat) {xs : List α} {f : α × Nat → Option Move}
    (told : ∀ x move, f x = some move → move.fields[i]? = some x.2) :
    (xs.zipIdx.filterMap f).Nodup := by
  refine List.pairwise_filterMap.mpr ((pairwise_zipIdx xs).imp ?_)
  rintro x x' hne move h move' h' rfl
  exact hne (Option.some.inj ((told x move h).symm.trans (told x' move h')))

theorem nodup_indices (a b : Nat) : (indices a b).Nodup :=
  List.nodup_range.map fun i j h => by simpa using h

theorem nodup_vehicles (s : Solution) : s.vehicles.Nodup := List.nodup_range

theorem nodup_usedVehicles (s : Solution) : s.usedVehicles.Nodup := (nodup_vehicles s).filter _

theorem nodup_dropped (s : Solution) : s.dropped.Nodup := s.pairwise_dropped.imp ne_of_lt

end Loops

/-! ### Kinds of moves -/

theorem nodup_targets (origin start length : Nat) : (targets m s origin start length).Nodup := by
  have vehicle_of_mem {vehicle : Nat} {place : Nat × Nat} {own : Prop} [Decidable own]
      {room : Bool} {ts ts' : List Nat} (h : place ∈ if own then ts.map (vehicle, ·) else
        if room then ts'.map (vehicle, ·) else []) : place.1 = vehicle := by
    split at h
    · obtain ⟨_, -, rfl⟩ := List.mem_map.mp h
      rfl
    · obtain ⟨-, h⟩ := List.mem_ite_nil_right.mp h
      obtain ⟨_, -, rfl⟩ := List.mem_map.mp h
      rfl
  refine nodup_flatMap_of_apart (nodup_vehicles s) (fun vehicle _ => ?_) ?_
  · have pairs {ts : List Nat} (h : ts.Nodup) : (ts.map (vehicle, ·)).Nodup :=
      h.map fun t t' same => (Prod.mk.inj same).2
    split
    · exact pairs (List.nodup_range.filter _)
    · split
      · exact pairs List.nodup_range
      · exact List.nodup_nil
  · intro v v' place h h'
    rw [← vehicle_of_mem h, ← vehicle_of_mem h']

theorem nodup_relocations : (relocations m s).Nodup := by
  refine nodup_flatMap_of_field 0 (nodup_usedVehicles s) (fun origin _ => ?_) ?_
  · refine nodup_flatMap_of_field 1 List.nodup_range (fun position _ => ?_) ?_
    · refine (nodup_targets origin position 1).map ?_
      rintro ⟨v, t⟩ ⟨v', t'⟩ h
      simpa using h
    · intro position move h
      obtain ⟨_, -, rfl⟩ := List.mem_map.mp h
      rfl
  · intro origin move h
    obtain ⟨_, -, h⟩ := List.mem_flatMap.mp h
    obtain ⟨_, -, rfl⟩ := List.mem_map.mp h
    rfl

theorem nodup_runRelocations : (runRelocations m s).Nodup := by
  have lengths : runLengths.Nodup := by decide
  refine nodup_flatMap_of_field 0 (nodup_usedVehicles s) (fun origin _ => ?_) ?_
  · refine nodup_flatMap_of_field 2 lengths (fun length _ => ?_) ?_
    · refine nodup_flatMap_of_field 1 List.nodup_range (fun start _ => ?_) ?_
      · refine (nodup_targets origin start length).map ?_
        rintro ⟨v, t⟩ ⟨v', t'⟩ h
        simpa using h
      · intro start move h
        obtain ⟨_, -, rfl⟩ := List.mem_map.mp h
        rfl
    · intro length move h
      obtain ⟨_, -, h⟩ := List.mem_flatMap.mp h
      obtain ⟨_, -, rfl⟩ := List.mem_map.mp h
      rfl
  · intro origin move h
    obtain ⟨_, -, h⟩ := List.mem_flatMap.mp h
    obtain ⟨_, -, h⟩ := List.mem_flatMap.mp h
    obtain ⟨_, -, rfl⟩ := List.mem_map.mp h
    rfl

theorem nodup_innerSwaps (vehicle : Nat) : (innerSwaps s vehicle).Nodup := by
  refine nodup_flatMap_of_field 1 List.nodup_range (fun first _ => ?_) ?_
  · exact nodup_map_of_field 3 (nodup_indices _ _) fun _ => rfl
  · intro first move h
    obtain ⟨_, -, rfl⟩ := List.mem_map.mp h
    rfl

theorem nodup_crossSwaps (first second : Nat) : (crossSwaps m s first second).Nodup := by
  refine nodup_flatMap_zipIdx_of_field 1 (fun x _ => ?_) ?_
  · refine nodup_filterMap_zipIdx_of_field 3 fun y move h => ?_
    obtain ⟨-, h⟩ := Option.ite_none_right_eq_some.mp h
    cases h
    rfl
  · intro x move h
    obtain ⟨_, -, h⟩ := List.mem_filterMap.mp h
    obtain ⟨-, h⟩ := Option.ite_none_right_eq_some.mp h
    cases h
    rfl

theorem nodup_swaps : (swaps m s).Nodup := by
  refine nodup_flatMap_of_field 0 (nodup_usedVehicles s) (fun first _ => ?_) ?_
  · refine (nodup_innerSwaps first).append ?_ ?_
    · refine nodup_flatMap_of_field 2 ((nodup_usedVehicles s).filter _)
        (fun second _ => nodup_crossSwaps first second) ?_
      intro second move h
      obtain ⟨_, _, _, _, -, -, rfl⟩ := mem_crossSwaps.mp h
      rfl
    · -- a swap of one trip names its vehicle twice, one of two trips names two vehicles
      intro move h h'
      obtain ⟨_, _, -, -, rfl⟩ := mem_innerSwaps.mp h
      obtain ⟨second, hsecond, h'⟩ := List.mem_flatMap.mp h'
      obtain ⟨_, _, _, _, -, -, same⟩ := mem_crossSwaps.mp h'
      have later : first < second := by simpa using (List.mem_filter.mp hsecond).2
      have := (Move.swap.inj same).2.2.1
      omega
  · intro first move h
    rcases List.mem_append.mp h with h | h
    · obtain ⟨_, _, -, -, rfl⟩ := mem_innerSwaps.mp h
      rfl
    · obtain ⟨_, -, h⟩ := List.mem_flatMap.mp h
      obtain ⟨_, _, _, _, -, -, rfl⟩ := mem_crossSwaps.mp h
      rfl

theorem nodup_reversals : (reversals s).Nodup := by
  refine nodup_flatMap_of_field 0 (nodup_usedVehicles s) (fun vehicle _ => ?_) ?_
  · refine nodup_flatMap_of_field 1 List.nodup_range (fun first _ => ?_) ?_
    · exact nodup_map_of_field 2 (nodup_indices _ _) fun _ => rfl
    · intro first move h
      obtain ⟨_, -, rfl⟩ := List.mem_map.mp h
      rfl
  · intro vehicle move h
    obtain ⟨_, -, h⟩ := List.mem_flatMap.mp h
    obtain ⟨_, -, rfl⟩ := List.mem_map.mp h
    rfl

theorem nodup_insertions : (insertions m s).Nodup := by
  refine nodup_flatMap_of_field 0 (nodup_dropped s) (fun node _ => ?_) ?_
  · refine nodup_flatMap_of_field 1 (nodup_vehicles s) (fun vehicle _ => ?_) ?_
    · split
      · exact nodup_map_of_field 2 List.nodup_range fun _ => rfl
      · exact List.nodup_nil
    · intro vehicle move h
      obtain ⟨-, h⟩ := List.mem_ite_nil_right.mp h
      obtain ⟨_, -, rfl⟩ := List.mem_map.mp h
      rfl
  · intro node move h
    obtain ⟨_, -, h⟩ := List.mem_flatMap.mp h
    obtain ⟨-, h⟩ := List.mem_ite_nil_right.mp h
    obtain ⟨_, -, rfl⟩ := List.mem_map.mp h
    rfl

theorem nodup_exchanges : (exchanges m s).Nodup := by
  refine nodup_flatMap_of_field 0 (nodup_dropped s) (fun node _ => ?_) ?_
  · refine nodup_flatMap_of_field 1 (nodup_usedVehicles s) (fun vehicle _ => ?_) ?_
    · refine nodup_filterMap_zipIdx_of_field 2 fun x move h => ?_
      obtain ⟨-, h⟩ := Option.ite_none_right_eq_some.mp h
      cases h
      rfl
    · intro vehicle move h
      obtain ⟨_, -, h⟩ := List.mem_filterMap.mp h
      obtain ⟨-, h⟩ := Option.ite_none_right_eq_some.mp h
      cases h
      rfl
  · intro node move h
    obtain ⟨_, -, h⟩ := List.mem_flatMap.mp h
    obtain ⟨_, -, h⟩ := List.mem_filterMap.mp h
    obtain ⟨-, h⟩ := Option.ite_none_right_eq_some.mp h
    cases h
    rfl

/-- **No neighbourhood lists a move twice.** -/
theorem nodup_moves (operator : Operator) : (operator.moves m s).Nodup := by
  cases operator with
  | relocate => exact nodup_relocations
  | orOpt => exact nodup_runRelocations
  | swap => exact nodup_swaps
  | twoOpt => exact nodup_reversals
  | insertDropped => exact nodup_insertions
  | exchangeDropped => exact nodup_exchanges

end Operator

end DeliveryRouting
