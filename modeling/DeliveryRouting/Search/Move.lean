import DeliveryRouting.Search.Guidance

/-! # Search: moves

A move changes the stops of one trip or of two. There are six kinds.

* relocate: a delivery goes to another place, on its own trip or on another one
* or-opt: the same for a run of consecutive deliveries, which keeps its direction
* swap: two deliveries exchange their places, on one trip or on two
* two-opt: a run of stops of a trip is served in the opposite direction
* insert: a dropped delivery is put on a trip
* exchange: a dropped delivery takes the place of a served one, which is dropped

A place that deliveries go to is counted after they have been taken out. A move is priced by the
change of the augmented cost of its trips and of the penalties for dropped deliveries, and is
accepted if the price stays below a threshold and its trips can be run. -/

namespace DeliveryRouting

/-- A kind of move. -/
inductive Operator where
  | relocate
  | orOpt
  | swap
  | twoOpt
  | insertDropped
  | exchangeDropped
  deriving Repr, DecidableEq, Inhabited

/-- The name of a kind of move. -/
def Operator.name : Operator → String
  | .relocate => "Relocate"
  | .orOpt => "Or-Opt"
  | .swap => "Swap"
  | .twoOpt => "Two-Opt"
  | .insertDropped => "Insert-Unassigned"
  | .exchangeDropped => "Exchange-Unassigned"

/-- A change of one trip or of two. -/
inductive Move where
  | relocate (origin position destination target : Nat)
  | orOpt (origin start length destination target : Nat)
  | swap (first position second target : Nat)
  | twoOpt (vehicle first last : Nat)
  | insertDropped (node vehicle position : Nat)
  | exchangeDropped (node vehicle position : Nat)
  deriving Repr, DecidableEq, Inhabited

/-- The stops of a vehicle after a move. -/
structure Change where
  vehicle : Nat
  nodes : List Nat
  deriving Repr, DecidableEq, Inhabited

/-- Why a move makes no sense. -/
inductive MoveFault where
  | swapsWithItself
  | reversesNothing
  | badReference
  deriving Repr, DecidableEq

/-- The list `xs` without the `length` entries from index `start` on. -/
def cut {α : Type} (xs : List α) (start length : Nat) : List α :=
  xs.take start ++ xs.drop (start + length)

/-- The `length` entries of `xs` from index `start` on. -/
def segment {α : Type} (xs : List α) (start length : Nat) : List α := (xs.drop start).take length

/-- The list `xs` with the entries from index `first` to index `last` in reverse. -/
def reverseSegment {α : Type} (xs : List α) (first last : Nat) : List α :=
  xs.take first ++ (segment xs first (last + 1 - first)).reverse ++ xs.drop (last + 1)

section Segments

variable {α : Type} (xs : List α)

/-- A segment and what is left without it make up the whole. -/
theorem segment_append_cut_perm (start length : Nat) :
    (segment xs start length ++ cut xs start length).Perm xs := by
  unfold segment cut
  refine .trans (List.perm_append_comm_assoc ..) ?_
  rw [← List.drop_drop, List.take_append_drop, List.take_append_drop]

theorem reverseSegment_perm {first last : Nat} (h : first ≤ last + 1) :
    (reverseSegment xs first last).Perm xs := by
  unfold reverseSegment segment
  have rest : xs.drop (last + 1) = (xs.drop first).drop (last + 1 - first) := by
    rw [List.drop_drop, Nat.add_sub_cancel' h]
  rw [List.append_assoc, rest]
  refine .trans (.append_left _ (.append_right _ (List.reverse_perm _))) ?_
  rw [List.take_append_drop, List.take_append_drop]

end Segments

namespace Move

/-- The kind of a move. -/
def operator : Move → Operator
  | relocate .. => .relocate
  | orOpt .. => .orOpt
  | swap .. => .swap
  | twoOpt .. => .twoOpt
  | insertDropped .. => .insertDropped
  | exchangeDropped .. => .exchangeDropped

/-- The changes when the `length` stops of `origin` from `start` on go to index `target` of
`destination`. -/
def carry (s : Solution) (origin start length destination target : Nat) : List Change :=
  let carried := segment (s.nodes origin) start length
  let rest := cut (s.nodes origin) start length
  if origin = destination then [⟨origin, splice rest target carried⟩]
  else [⟨origin, rest⟩, ⟨destination, splice (s.nodes destination) target carried⟩]

/-- The trips that a move changes, with their new stops. -/
def changes (s : Solution) : Move → List Change
  | relocate origin position destination target => carry s origin position 1 destination target
  | orOpt origin start length destination target => carry s origin start length destination target
  | swap first position second target =>
    let x := (s.nodes first).getD position depot
    let y := (s.nodes second).getD target depot
    if first = second then [⟨first, ((s.nodes first).set position y).set target x⟩]
    else [⟨first, (s.nodes first).set position y⟩, ⟨second, (s.nodes second).set target x⟩]
  | twoOpt vehicle first last => [⟨vehicle, reverseSegment (s.nodes vehicle) first last⟩]
  | insertDropped node vehicle position => [⟨vehicle, splice (s.nodes vehicle) position [node]⟩]
  | exchangeDropped node vehicle position => [⟨vehicle, (s.nodes vehicle).set position node⟩]

/-- The vehicles whose trips a move changes. -/
def updated : Move → List Nat
  | relocate origin _ destination _ | orOpt origin _ _ destination _ =>
    if origin = destination then [origin] else [origin, destination]
  | swap first _ second _ => if first = second then [first] else [first, second]
  | twoOpt vehicle .. | insertDropped _ vehicle _ | exchangeDropped _ vehicle _ => [vehicle]

/-- The dropped delivery that a move serves, if any. -/
def inserted? : Move → Option Nat
  | insertDropped node .. | exchangeDropped node .. => some node
  | _ => none

/-- The served delivery that a move drops, if any. -/
def removed? (s : Solution) : Move → Option Nat
  | exchangeDropped _ vehicle position => some ((s.nodes vehicle).getD position depot)
  | _ => none

/-- The run of `length` stops of `origin` from `start` on exists, and so does index `target` of
`destination` once it has been taken out. -/
def canCarry (s : Solution) (origin start length destination target : Nat) : Bool :=
  let left := (s.nodes destination).length - if origin = destination then length else 0
  decide (origin < s.trips.length) && decide (destination < s.trips.length) &&
    decide (start + length ≤ (s.nodes origin).length) && decide (target ≤ left)

/-- The stop at index `position` of `vehicle` exists. -/
def hasStop (s : Solution) (vehicle position : Nat) : Bool :=
  decide (vehicle < s.trips.length) && decide (position < (s.nodes vehicle).length)

/-- A move whose stops and places exist has no fault, unless it exchanges a delivery with itself
or reverses a run that ends where it starts. -/
def fault? (m : Model) (s : Solution) : Move → Option MoveFault
  | relocate origin position destination target =>
    if canCarry s origin position 1 destination target then none else some .badReference
  | orOpt origin start length destination target =>
    if canCarry s origin start length destination target then none else some .badReference
  | swap first position second target =>
    if first = second ∧ position = target then some .swapsWithItself
    else if hasStop s first position && hasStop s second target then none
    else some .badReference
  | twoOpt vehicle first last =>
    if last ≤ first then some .reversesNothing
    else if hasStop s vehicle last then none else some .badReference
  | insertDropped node vehicle position =>
    if decide (vehicle < s.trips.length) && decide (position ≤ (s.nodes vehicle).length) &&
        decide (node < m.numNodes) then none
    else some .badReference
  | exchangeDropped node vehicle position =>
    if hasStop s vehicle position && decide (node < m.numNodes) then none
    else some .badReference

/-- The change of the augmented cost that a move makes, less the penalty it saves and with the one
it incurs. -/
def delta (m : Model) (g : Guidance) (s : Solution) (move : Move) : Float :=
  let trips := (move.changes s).foldl (fun sum change =>
    sum + (g.tripCost m change.nodes - g.tripCost m (s.nodes change.vehicle))) 0.0
  let dropping := match move.removed? s with
    | some node => trips + Float.ofInt (m.dropPenalty node)
    | none => trips
  match move.inserted? with
  | some node => dropping - Float.ofInt (m.dropPenalty node)
  | none => dropping

end Move

/-- A move that can be made: its changes with their schedules, and its price. -/
structure EvaluatedMove where
  changes : List (Change × Schedule)
  delta : Float

namespace Move

/-- The changes of a move with their schedules, if all its trips can be run. -/
def schedules? (m : Model) (s : Solution) (move : Move) : Option (List (Change × Schedule)) :=
  (move.changes s).mapM fun change =>
    (Schedule.compute m change.vehicle change.nodes).toOption.map (change, ·)

/-- The move, if its price is below `threshold` and its trips can be run. -/
def evaluate (m : Model) (g : Guidance) (s : Solution) (threshold : Float) (move : Move) :
    Option EvaluatedMove :=
  let delta := move.delta m g s
  if delta ≥ threshold then none
  else (move.schedules? m s).map (⟨·, delta⟩)

end Move

/-- Make a move. -/
def EvaluatedMove.apply (m : Model) (s : Solution) (e : EvaluatedMove) : Solution :=
  e.changes.foldl (fun s (change, schedule) =>
    s.replaceTrip m change.vehicle change.nodes schedule) s

end DeliveryRouting
