import DeliveryRouting.Search.Move

/-! # Search: neighbourhoods

The neighbourhood of a solution under a kind of move is the list of the moves of this kind that are
worth a look, in a fixed order. Places of one's own trip that change nothing are left out, and so
are trips whose capacity could not hold what the move brings; a two-opt reverses three stops or
more, as a run of two is what a swap exchanges. -/

namespace DeliveryRouting.Operator

/-- The lengths of the runs that or-opt moves. -/
def runLengths : List Nat := [2, 3]

/-- The indices from `a` on below `b`. -/
def indices (a b : Nat) : List Nat := (List.range (b - a)).map (a + ·)

/-- The trip of `vehicle` can hold `extra` more. -/
def hasRoom (m : Model) (s : Solution) (vehicle : Nat) (extra : Int) : Bool :=
  decide (m.keep ((s.trip vehicle).load + extra) ≤ m.capacity vehicle)

/-- The places where `length` stops of `origin` from index `start` on may go, by vehicle. -/
def targets (m : Model) (s : Solution) (origin start length : Nat) : List (Nat × Nat) :=
  let carried := segment (s.nodes origin) start length
  s.vehicles.flatMap fun vehicle =>
    if vehicle = origin then
      ((List.range ((s.nodes origin).length + 1 - length)).filter (· ≠ start)).map (vehicle, ·)
    else if hasRoom m s vehicle (carried.map m.demand).sum then
      (List.range ((s.nodes vehicle).length + 1)).map (vehicle, ·)
    else []

/-- Every delivery to every place but its own. -/
def relocations (m : Model) (s : Solution) : List Move :=
  s.usedVehicles.flatMap fun origin =>
    (List.range (s.nodes origin).length).flatMap fun position =>
      (targets m s origin position 1).map fun (vehicle, target) =>
        .relocate origin position vehicle target

/-- Every run of two or three deliveries to every place but its own. -/
def runRelocations (m : Model) (s : Solution) : List Move :=
  s.usedVehicles.flatMap fun origin =>
    runLengths.flatMap fun length =>
      (List.range ((s.nodes origin).length + 1 - length)).flatMap fun start =>
        (targets m s origin start length).map fun (vehicle, target) =>
          .orOpt origin start length vehicle target

/-- Every two deliveries of one trip. -/
def innerSwaps (s : Solution) (vehicle : Nat) : List Move :=
  let n := (s.nodes vehicle).length
  (List.range n).flatMap fun first =>
    (indices (first + 1) n).map fun second => .swap vehicle first vehicle second

/-- Every delivery of one trip and every delivery of another that either could hold instead. -/
def crossSwaps (m : Model) (s : Solution) (first second : Nat) : List Move :=
  (s.nodes first).zipIdx.flatMap fun (x, position) =>
    (s.nodes second).zipIdx.filterMap fun (y, target) =>
      let exchanged := m.demand y - m.demand x
      if hasRoom m s first exchanged && hasRoom m s second (-exchanged) then
        some (.swap first position second target)
      else none

/-- Every two deliveries, those of one trip before those of two. -/
def swaps (m : Model) (s : Solution) : List Move :=
  s.usedVehicles.flatMap fun first =>
    innerSwaps s first ++
      (s.usedVehicles.filter (first < ·)).flatMap (crossSwaps m s first)

/-- Every run of three stops or more. -/
def reversals (s : Solution) : List Move :=
  s.usedVehicles.flatMap fun vehicle =>
    let n := (s.nodes vehicle).length
    (List.range n).flatMap fun first =>
      (indices (first + 2) n).map fun last => .twoOpt vehicle first last

/-- Every dropped delivery to every place of every trip. -/
def insertions (m : Model) (s : Solution) : List Move :=
  s.dropped.flatMap fun node =>
    s.vehicles.flatMap fun vehicle =>
      if hasRoom m s vehicle (m.demand node) then
        (List.range ((s.nodes vehicle).length + 1)).map fun position =>
          .insertDropped node vehicle position
      else []

/-- Every dropped delivery in the place of every served one. -/
def exchanges (m : Model) (s : Solution) : List Move :=
  s.dropped.flatMap fun node =>
    s.usedVehicles.flatMap fun vehicle =>
      (s.nodes vehicle).zipIdx.filterMap fun (served, position) =>
        if hasRoom m s vehicle (m.demand node - m.demand served) then
          some (.exchangeDropped node vehicle position)
        else none

/-- The moves of a kind that are worth a look, in order. -/
def moves (m : Model) (s : Solution) : Operator → List Move
  | relocate => relocations m s
  | orOpt => runRelocations m s
  | swap => swaps m s
  | twoOpt => reversals s
  | insertDropped => insertions m s
  | exchangeDropped => exchanges m s

end DeliveryRouting.Operator
