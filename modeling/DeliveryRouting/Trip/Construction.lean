import DeliveryRouting.Trip.Insertion

/-! # Trips: construction

A first solution is built greedily: among the best insertions of all dropped deliveries the one
that lowers the objective most is made, as long as there is one that lowers it at all. Of several
the one of the lowest node is taken. Every insertion serves one delivery more, so the number of
nodes bounds the number of insertions. -/

namespace DeliveryRouting.Solution

/-- What an insertion does to the objective: its detour less the penalty it saves. -/
def gain (m : Model) (i : Insertion) : Int := m.keep (i.detour - m.dropPenalty i.node)

/-- The insertion that lowers the objective most among the best insertions of `nodes`. -/
def cheapestInsertion (m : Model) (s : Solution) (nodes : List Nat) : Option Insertion :=
  firstMin (gain m) (nodes.filterMap (s.bestInsertion m))

/-- The solution after the next insertion that lowers the objective, if there is one. -/
def extend? (m : Model) (s : Solution) : Option Solution :=
  match s.cheapestInsertion m s.dropped with
  | none => none
  | some i =>
    if gain m i < 0 then (s.insert m i.node i.vehicle i.position).toOption else none

/-- Up to `steps` insertions that lower the objective. -/
def extend (m : Model) : Nat → Solution → Solution
  | 0, s => s
  | steps + 1, s =>
    match s.extend? m with
    | none => s
    | some s' => extend m steps s'

/-- The greedy solution. -/
def construct (m : Model) : Solution := extend m m.numNodes (empty m)

end DeliveryRouting.Solution
