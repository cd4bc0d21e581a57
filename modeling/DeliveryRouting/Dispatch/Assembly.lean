import DeliveryRouting.Dispatch.Response
import DeliveryRouting.Search.Outcome
import DeliveryRouting.Time.Clock

/-! # Dispatch: from outcomes to responses

A driver who may run several trips has as many vehicles, one after the other. The trips of a driver
stand together and are numbered in the order of the outcome, the drivers stand in the order in
which they first occur there. -/

namespace DeliveryRouting

/-- Why an outcome does not fit a request. -/
inductive AssemblyFault where
  | time (fault : Clock.InvalidTime)
  | unknownDriver (index : Nat)
  | unknownNode (node : Nat)
  deriving Repr, DecidableEq

/-! ### Groups -/

section Groups

variable {α : Type}

/-- The groups with one more item in that of the key; a new key comes last. -/
def addToGroup (key : Nat) (item : α) : List (Nat × List α) → List (Nat × List α)
  | [] => [(key, [item])]
  | (k, items) :: rest =>
    if k = key then (k, items ++ [item]) :: rest else (k, items) :: addToGroup key item rest

/-- The items by their keys, the keys in the order in which they first occur. -/
def groupByKey (items : List (Nat × α)) : List (Nat × List α) :=
  items.foldl (fun groups (key, item) => addToGroup key item groups) []

end Groups

/-! ### Assembly -/

namespace Response

/-- A stop by its delivery, with its place in the trip. -/
def stop (r : Request) (s : OutcomeStop) (order : Nat) : Except AssemblyFault Stop :=
  match r.delivery? s.node with
  | none => .error (.unknownNode s.node)
  | some d => do
    let arrival ← (Clock.ofSeconds s.arrival r.shiftStart).mapError .time
    return { order, id := d.id, place := d.place, arrival }

/-- The stops of a route. -/
def stops (r : Request) (route : OutcomeRoute) : Except AssemblyFault (List Stop) :=
  (route.stops.zipIdx 1).mapM fun (s, order) => stop r s order

/-- The index of the driver of a vehicle when each runs at most `trips` trips, at least one. -/
def driverOf (trips vehicle : Nat) : Nat := vehicle / max trips 1

/-- The stops of a route with the driver's index and id. -/
def driven (r : Request) (trips : Nat) (route : OutcomeRoute) :
    Except AssemblyFault (Nat × Int × List Stop) :=
  let index := driverOf trips route.vehicle
  match r.drivers[index]? with
  | none => .error (.unknownDriver index)
  | some driver => do return (index, driver, ← stops r route)

/-- The trips of a driver, numbered from one. -/
def numbered (trips : List (Int × List Stop)) : List Trip :=
  (trips.zipIdx 1).map fun ((driver, stops), number) => { driver, number, stops }

/-- The id of the delivery that a node stands for. -/
def idOf (r : Request) (node : Nat) : Except AssemblyFault Int :=
  match r.delivery? node with
  | some d => .ok d.id
  | none => .error (.unknownNode node)

/-- The response to a request that an outcome stands for. -/
def assemble (r : Request) (trips : Nat) (o : Outcome) : Except AssemblyFault Response := do
  let driven ← o.routes.mapM (driven r trips)
  let unserved ← o.dropped.mapM (idOf r)
  return { trips := (groupByKey driven).flatMap fun (_, group) => numbered group, unserved }

end Response

end DeliveryRouting
