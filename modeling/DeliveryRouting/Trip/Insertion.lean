import DeliveryRouting.Trip.Solution

/-! # Trips: insertions

An insertion puts a node on the trip of a vehicle. Its detour is the transit it adds to the trip.
Among the insertions of a node the one with the smallest detour counts, and of several the first by
vehicle, then by position. -/

namespace DeliveryRouting

/-- A feasible insertion of a node. -/
structure Insertion where
  node : Nat
  vehicle : Nat
  /-- the index the node will have on the trip -/
  position : Nat
  /-- the transit added to the trip -/
  detour : Int
  deriving Repr, DecidableEq, Inhabited

/-- The first element with the smallest key. -/
def firstMin {α : Type} (key : α → Int) (xs : List α) : Option α :=
  xs.foldl (fun best x =>
    match best with
    | none => some x
    | some b => if key x < key b then some x else some b) none

section FirstMin

variable {α : Type} {key : α → Int}

theorem firstMin_cons_cons (key : α → Int) (b x : α) (xs : List α) :
    firstMin key (b :: x :: xs) = firstMin key ((if key x < key b then x else b) :: xs) := by
  simp only [firstMin, List.foldl_cons]
  split <;> rfl

/-- What is chosen stands behind larger elements only, and before no smaller one. -/
theorem exists_split_firstMin_cons (b : α) (xs : List α) :
    ∃ l a r, b :: xs = l ++ a :: r ∧ firstMin key (b :: xs) = some a ∧
      (∀ x ∈ l, key a < key x) ∧ ∀ x ∈ r, key a ≤ key x := by
  induction xs generalizing b with
  | nil => exact ⟨[], b, [], rfl, rfl, by simp, by simp⟩
  | cons x xs ih =>
    obtain ⟨l, a, r, split, chosen, before, after⟩ := ih (if key x < key b then x else b)
    rw [← firstMin_cons_cons] at chosen
    by_cases hx : key x < key b
    · -- the element in front gives way to the smaller one
      rw [if_pos hx] at split
      have ahead : key a < key b := by
        cases l with
        | nil =>
          obtain ⟨rfl, -⟩ := List.cons.inj split
          exact hx
        | cons y l =>
          obtain ⟨rfl, -⟩ := List.cons.inj split
          exact Int.lt_trans (before x List.mem_cons_self) hx
      exact ⟨b :: l, a, r, by rw [split]; rfl, chosen,
        List.forall_mem_cons.mpr ⟨ahead, before⟩, after⟩
    · rw [if_neg hx] at split
      rw [Int.not_lt] at hx
      cases l with
      | nil =>
        obtain ⟨rfl, rfl⟩ := List.cons.inj split
        exact ⟨[], b, x :: xs, rfl, chosen, before, List.forall_mem_cons.mpr ⟨hx, after⟩⟩
      | cons y l =>
        obtain ⟨rfl, rfl⟩ := List.cons.inj split
        obtain ⟨ahead, rest⟩ := List.forall_mem_cons.mp before
        have behind : key a < key x := Int.lt_of_lt_of_le ahead hx
        exact ⟨b :: x :: l, a, r, rfl, chosen,
          List.forall_mem_cons.mpr ⟨ahead, List.forall_mem_cons.mpr ⟨behind, rest⟩⟩, after⟩

theorem firstMin_eq_none_iff {xs : List α} : firstMin key xs = none ↔ xs = [] := by
  cases xs with
  | nil => simp [firstMin]
  | cons b xs =>
    obtain ⟨l, a, r, -, chosen, -⟩ := @exists_split_firstMin_cons _ key b xs
    simp [chosen]

/-- The choice is the first of the smallest elements. -/
theorem split_of_firstMin {xs : List α} {a : α} (h : firstMin key xs = some a) :
    ∃ l r, xs = l ++ a :: r ∧ (∀ x ∈ l, key a < key x) ∧ ∀ x ∈ r, key a ≤ key x := by
  cases xs with
  | nil => cases h
  | cons b xs =>
    obtain ⟨l, a', r, split, chosen, before, after⟩ := @exists_split_firstMin_cons _ key b xs
    cases chosen.symm.trans h
    exact ⟨l, r, split, before, after⟩

/-- What is chosen is one of the elements, and none has a smaller key. -/
theorem mem_and_le_of_firstMin {xs : List α} {a : α} (h : firstMin key xs = some a) :
    a ∈ xs ∧ ∀ x ∈ xs, key a ≤ key x := by
  obtain ⟨l, r, rfl, before, after⟩ := split_of_firstMin h
  refine ⟨by simp, fun x hx => ?_⟩
  rcases List.mem_append.mp hx with hx | hx
  · exact Int.le_of_lt (before x hx)
  · rcases List.mem_cons.mp hx with rfl | hx
    · exact Int.le_refl _
    · exact after x hx

end FirstMin

namespace Solution

/-- The insertion of `node` at `position` on the trip of `vehicle`, if the vehicle can run it. -/
def insertionAt? (m : Model) (s : Solution) (node vehicle position : Nat) : Option Insertion :=
  let nodes := splice (s.nodes vehicle) position [node]
  match Schedule.compute m vehicle nodes with
  | .ok _ => some ⟨node, vehicle, position, m.keep (tripCost m nodes - (s.trip vehicle).cost)⟩
  | .error _ => none

/-- The feasible insertions of `node` on the trip of `vehicle`, by position. A trip that cannot
take up the demand has none. -/
def insertions (m : Model) (s : Solution) (node vehicle : Nat) : List Insertion :=
  if m.keep ((s.trip vehicle).load + m.demand node) > m.capacity vehicle then []
  else (List.range ((s.nodes vehicle).length + 1)).filterMap (s.insertionAt? m node vehicle)

/-- The best insertion of `node` over all vehicles. -/
def bestInsertion (m : Model) (s : Solution) (node : Nat) : Option Insertion :=
  firstMin Insertion.detour (s.vehicles.flatMap (s.insertions m node))

/-- The feasible insertions on the trip of a vehicle that may not exist, of a node that may not
exist. -/
def insertionsOf (m : Model) (s : Solution) (node vehicle : Nat) :
    Except Obstacle (List Insertion) :=
  if s.trips.length ≤ vehicle then .error .unknownVehicle
  else if m.numNodes ≤ node then .error .unknownNode
  else .ok (s.insertions m node vehicle)

/-- The best insertion of a node that may not exist. Without vehicles nobody asks whether it
does. -/
def bestInsertionOf (m : Model) (s : Solution) (node : Nat) :
    Except Obstacle (Option Insertion) :=
  if s.trips.isEmpty then .ok none
  else if m.numNodes ≤ node then .error .unknownNode
  else .ok (s.bestInsertion m node)

end Solution

end DeliveryRouting
