/-! # Model: what makes a problem inconsistent

A routing problem arrives as lists that have to fit together. A fault names the first list, row or
cell that does not. -/

namespace DeliveryRouting

/-- The first inconsistency of a routing problem. -/
inductive ModelFault where
  | raggedRow (row expected actual : Nat)
  | negativeDuration (origin destination : Nat)
  | demandsLength (expected actual : Nat)
  | windowsLength (expected actual : Nat)
  | capacitiesLength (expected actual : Nat)
  | prioritiesLength (expected actual : Nat)
  deriving Repr, DecidableEq

/-- The wording of a fault. -/
def ModelFault.message : ModelFault → String
  | .raggedRow row expected actual =>
    s!"duration matrix row {row} has {actual} entries, expected {expected}"
  | .negativeDuration origin destination =>
    s!"duration from node {origin} to node {destination} is negative"
  | .demandsLength expected actual =>
    s!"demands has {actual} entries but the matrix has {expected} nodes"
  | .windowsLength expected actual =>
    s!"time_windows has {actual} entries but the matrix has {expected} nodes"
  | .capacitiesLength expected actual =>
    s!"vehicle_capacities has {actual} entries but there are {expected} drivers"
  | .prioritiesLength expected actual =>
    s!"priorities has {actual} entries but the matrix has {expected} nodes"

end DeliveryRouting
