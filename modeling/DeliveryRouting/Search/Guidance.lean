import DeliveryRouting.Trip.Solution
import Std.Data.HashMap

/-! # Search: guidance

At a local optimum the search gives a penalty to the arcs that seem worst, those with the largest
transit for the penalties they have already, and goes on with the augmented cost: the transit of an
arc and `lambda` for each of its penalties. Arcs it keeps coming back to become dear, which drives
it elsewhere. The weight `lambda` is fixed once, by the mean transit of an arc at the first local
optimum that travels any. -/

namespace DeliveryRouting

/-- The penalties of arcs and their weight. -/
structure Guidance where
  counts : Std.HashMap (Nat × Nat) Nat
  lambda : Float
  /-- the weight in terms of the mean transit of an arc -/
  coefficient : Float
  calibrated : Bool

namespace Guidance

/-- No penalties, and a weight yet to be fixed. -/
def start (coefficient : Float) : Guidance := ⟨∅, 0.0, coefficient, false⟩

variable (g : Guidance)

/-- The number of penalties of an arc. -/
def count (i j : Nat) : Nat := g.counts.getD (i, j) 0

@[simp] theorem count_start (coefficient : Float) (i j : Nat) :
    (start coefficient).count i j = 0 := by
  simp [start, count]

/-- Transit and penalties of an arc. -/
def arcCost (m : Model) (i j : Nat) : Float :=
  let transit := Float.ofInt (m.transit i j)
  if g.lambda == 0.0 then transit else transit + g.lambda * Float.ofNat (g.count i j)

/-- Transit and penalties of a trip, summed along its arcs. -/
def tripCost (m : Model) (nodes : List Nat) : Float :=
  (tripArcs nodes).foldl (fun sum (i, j) => sum + g.arcCost m i j) 0.0

/-- Fix the weight by a local optimum, unless it is fixed or there is no arc to fix it by. -/
def calibrate (s : Solution) (width : Width := .word) : Guidance :=
  if g.calibrated || s.numArcs == 0 then g
  else { g with
    lambda := g.coefficient * Float.ofInt (s.transportCost width) / Float.ofNat s.numArcs
    calibrated := true }

/-- How much an arc deserves another penalty. -/
def utility (m : Model) (i j : Nat) : Float :=
  Float.ofInt (m.transit i j) / (1.0 + Float.ofNat (g.count i j))

/-- Utilities this close count as equal. -/
def utilityTolerance : Float := 1e-9

/-- The arcs of the largest utility among those looked at, and that utility. -/
structure Selection where
  utility : Float
  arcs : List (Nat × Nat)

/-- No arc looked at yet. -/
def Selection.none : Selection := ⟨-1.0 / 0.0, []⟩

/-- Look at another arc. -/
def select (m : Model) (selection : Selection) (arc : Nat × Nat) : Selection :=
  let utility := g.utility m arc.1 arc.2
  if utility > selection.utility + utilityTolerance then ⟨utility, [arc]⟩
  else if utility ≥ selection.utility - utilityTolerance then
    { selection with arcs := selection.arcs ++ [arc] }
  else selection

/-- The arcs travelled by a solution, trip by trip. -/
def travelled (s : Solution) : List (Nat × Nat) := s.trips.flatMap fun t => tripArcs t.nodes

/-- The travelled arcs of the largest utility. -/
def selected (m : Model) (s : Solution) : List (Nat × Nat) :=
  ((travelled s).foldl (g.select m) Selection.none).arcs

/-- One more penalty for an arc. -/
def penalizeArc (arc : Nat × Nat) : Guidance :=
  { g with counts := g.counts.insert arc (g.count arc.1 arc.2 + 1) }

theorem count_penalizeArc (a b i j : Nat) :
    (g.penalizeArc (a, b)).count i j = g.count i j + if (a, b) = (i, j) then 1 else 0 := by
  simp only [penalizeArc, count, Std.HashMap.getD_insert]
  grind

/-- One more penalty for each travelled arc of the largest utility, and whether there is any. -/
def penalize (m : Model) (s : Solution) : Guidance × Bool :=
  let arcs := g.selected m s
  (arcs.foldl penalizeArc g, !arcs.isEmpty)

/-- The penalised arcs between `n` nodes with their counts, ascending. -/
def penalties (n : Nat) : List (Nat × Nat × Nat) :=
  (List.range n).flatMap fun i => (List.range n).filterMap fun j =>
    if g.count i j = 0 then .none else some (i, j, g.count i j)

end Guidance

end DeliveryRouting
