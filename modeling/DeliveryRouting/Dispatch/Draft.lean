import DeliveryRouting.Dispatch.Request
import DeliveryRouting.Time.Clock

/-! # Dispatch: drafts

A draft is a routing problem that lacks its durations, with the points they are wanted for: the
depot first, then the deliveries in their order. Times count in seconds from the start of the
shift. A binding window is cut off at the end of the shift, any other window is the whole shift. -/

namespace DeliveryRouting

/-- Why a request cannot be turned into a problem. -/
inductive RequestFault where
  | time (fault : Clock.InvalidTime)
  | demand (id amount : Int)
  | shift (start finish : String)
  deriving Repr, DecidableEq

/-- The wording of a fault. -/
def RequestFault.message : RequestFault → String
  | time fault => fault.message
  | demand id amount => s!"request {id} has demand {amount}, expected at least 1"
  | shift start finish => s!"shift ends at {finish}, before it starts at {start}"

/-- A routing problem that lacks its durations. -/
structure Draft where
  points : List Point
  problem : Problem
  deriving Inhabited

/-- The problem of a draft with the durations of a table. -/
def Draft.withDurations (d : Draft) (table : TravelTable) : Problem :=
  { d.problem with durations := table.toRows }

namespace Request

/-- The length of the shift in seconds. -/
def shiftLength (r : Request) : Except RequestFault Int := do
  let length ← (Clock.toSeconds r.shiftEnd r.shiftStart).mapError .time
  if length < 0 then throw (.shift r.shiftStart r.shiftEnd)
  return length

/-- The window of a delivery in a shift that starts at `base` and lasts `length` seconds. -/
def window (base : String) (length : Int) (d : Delivery) : Except RequestFault Window :=
  match d.hardWindow? with
  | some (opens, closes) => do
    let opens ← (Clock.toSeconds opens base).mapError .time
    let closes ← (Clock.toSeconds closes base).mapError .time
    return (Window.mk opens closes).clampToShift length
  | none => .ok (Window.shift length)

/-- The window of a delivery with something to deliver. -/
def checkedWindow (base : String) (length : Int) (d : Delivery) : Except RequestFault Window := do
  if d.demand < 1 then throw (.demand d.id d.demand)
  window base length d

/-- The draft of a request. -/
def draft (r : Request) : Except RequestFault Draft := do
  let length ← r.shiftLength
  let windows ← r.deliveries.mapM (checkedWindow r.shiftStart length)
  return {
    points := r.depot.point :: r.deliveries.map fun d => d.place.point
    problem := {
      demands := 0 :: r.deliveries.map Delivery.demand
      windows := Window.shift length :: windows
      drivers := r.drivers.length
      capacity := r.capacity
      capacities := r.capacities
      priorities := some (Priority.ordinary ::
        r.deliveries.map fun d => d.priority.getD Priority.ordinary) } }

end Request

end DeliveryRouting
