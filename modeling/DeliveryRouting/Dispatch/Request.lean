import DeliveryRouting.Json.Codec
import DeliveryRouting.Model.Basic
import DeliveryRouting.Travel.GreatCircle

/-! # Dispatch: requests

A request asks for the trips of a shift: where the depot is, who drives and with what capacity, and
what has to be delivered. Clock times are texts here; whether they are any good shows when the
request is turned into a problem. -/

namespace DeliveryRouting

/-- A place on earth in degrees. -/
structure Coordinates where
  lat : Float
  lon : Float
  deriving Inhabited

/-- The point of a place. -/
def Coordinates.point (c : Coordinates) : Point := ⟨c.lon, c.lat⟩

/-- How binding the window of a delivery is. -/
inductive WindowKind where
  /-- the window has to be kept -/
  | hard
  /-- any time during the shift will do -/
  | asap
  deriving Repr, DecidableEq, Inhabited

/-- Something to deliver. -/
structure Delivery where
  id : Int
  place : Coordinates
  demand : Int
  kind : WindowKind := .asap
  opens : Option String := none
  closes : Option String := none
  priority : Option Int := none
  deriving Inhabited

/-- The bounds of the window, if the delivery has one that is binding and bounded on both sides. -/
def Delivery.hardWindow? (d : Delivery) : Option (String × String) :=
  match d.kind, d.opens, d.closes with
  | .hard, some opens, some closes => some (opens, closes)
  | _, _, _ => none

/-- What is asked for. -/
structure Request where
  jobId : Option String := none
  planVersion : Option Int := none
  depot : Coordinates
  shiftStart : String := "08:00"
  shiftEnd : String := "18:00"
  /-- the ids of the drivers -/
  drivers : List Int
  capacity : Int := 5
  /-- one capacity for each driver, in place of `capacity` -/
  capacities : Option (List Int) := none
  deliveries : List Delivery
  deriving Inhabited

/-- The delivery that a node stands for: the deliveries are counted from one. -/
def Request.delivery? (r : Request) : (node : Nat) → Option Delivery
  | 0 => none
  | i + 1 => r.deliveries[i]?

open Json (Value)

/-! ### Coordinates -/

namespace Coordinates

/-- The fields of a place. -/
def record : Json.Record where
  name := "Coordinates"
  closed := true
  fields := [{ name := "lat", form := .number }, { name := "lon", form := .number }]

/-- The place that a value of its form stands for. -/
def ofValue (v : Value) : Coordinates := ⟨(v.member "lat").asFloat, (v.member "lon").asFloat⟩

/-- The value that stands for a place. -/
def toValue (c : Coordinates) : Value := .record [("lat", .float c.lat), ("lon", .float c.lon)]

/-- How places are written. -/
def codec : Json.Codec Coordinates := ⟨.record record, ofValue, toValue⟩

end Coordinates

/-! ### Window kinds -/

namespace WindowKind

/-- The name of a kind. -/
def name : WindowKind → String
  | hard => "HARD"
  | asap => "ASAP"

/-- The kind with a name. -/
def ofName (s : String) : WindowKind := if s = hard.name then hard else asap

/-- The form of a kind. -/
def form : Json.Form := .oneOf "WindowKind" [
  (hard.name, some "Must be served inside `[window_start, window_end]`"),
  (asap.name, some "Any time during the shift")]

/-- How kinds are written. -/
def codec : Json.Codec WindowKind := ⟨form, fun v => ofName v.asText, fun k => .text k.name⟩

end WindowKind

/-! ### Deliveries -/

/-- The note on a clock time. -/
def clockNote : String := "\"HH:MM\""

namespace Delivery

/-- The fields of a delivery. -/
def record : Json.Record where
  name := "DeliveryRequest"
  closed := true
  fields := [
    { name := "request_id", form := .integer },
    { name := "lat", form := .number },
    { name := "lon", form := .number },
    { name := "demand", form := .integer, note? := "Units loaded on the vehicle, at least 1" },
    { name := "window_kind", form := WindowKind.form,
      fallback? := some (.text WindowKind.asap.name) },
    { name := "window_start", form := .optional .text, note? := clockNote },
    { name := "window_end", form := .optional .text, note? := clockNote },
    { name := "priority", form := .optional .integer,
      note? := "Lower is more urgent, 2 when absent" }]

/-- The delivery that a value of its form stands for. -/
def ofValue (v : Value) : Delivery where
  id := (v.member "request_id").asInt
  place := Coordinates.ofValue v
  demand := (v.member "demand").asInt
  kind := WindowKind.ofName (v.member "window_kind").asText
  opens := (v.member "window_start").asOption Value.asText
  closes := (v.member "window_end").asOption Value.asText
  priority := (v.member "priority").asOption Value.asInt

/-- The value that stands for a delivery. -/
def toValue (d : Delivery) : Value := .record [
  ("request_id", .int d.id),
  ("lat", .float d.place.lat),
  ("lon", .float d.place.lon),
  ("demand", .int d.demand),
  ("window_kind", .text d.kind.name),
  ("window_start", .ofOption .text d.opens),
  ("window_end", .ofOption .text d.closes),
  ("priority", .ofOption .int d.priority)]

/-- How deliveries are written. -/
def codec : Json.Codec Delivery := ⟨.record record, ofValue, toValue⟩

end Delivery

/-! ### Requests -/

namespace Request

/-- The fields of a request. -/
def record : Json.Record where
  name := "SolveRequest"
  closed := true
  fields := [
    { name := "job_id", form := .optional .text },
    { name := "plan_version", form := .optional .integer },
    { name := "depot", form := .record Coordinates.record },
    { name := "shift_start", form := .text, fallback? := some (.text "08:00"),
      note? := clockNote ++ ", reference for every time of the request and the response" },
    { name := "shift_end", form := .text, fallback? := some (.text "18:00"), note? := clockNote },
    { name := "drivers", form := .list .integer, note? := "Ids of the drivers on shift" },
    { name := "vehicle_capacity", form := .integer, fallback? := some (.int 5) },
    { name := "vehicle_capacities", form := .optional (.list .integer),
      note? := "One capacity per driver, overrides `vehicle_capacity`" },
    { name := "requests", form := .list (.record Delivery.record) }]

/-- The request that a value of its form stands for. -/
def ofValue (v : Value) : Request where
  jobId := (v.member "job_id").asOption Value.asText
  planVersion := (v.member "plan_version").asOption Value.asInt
  depot := Coordinates.ofValue (v.member "depot")
  shiftStart := (v.member "shift_start").asText
  shiftEnd := (v.member "shift_end").asText
  drivers := (v.member "drivers").items.map Value.asInt
  capacity := (v.member "vehicle_capacity").asInt
  capacities := (v.member "vehicle_capacities").asOption fun c => c.items.map Value.asInt
  deliveries := (v.member "requests").items.map Delivery.ofValue

/-- The value that stands for a request. -/
def toValue (r : Request) : Value := .record [
  ("job_id", .ofOption .text r.jobId),
  ("plan_version", .ofOption .int r.planVersion),
  ("depot", r.depot.toValue),
  ("shift_start", .text r.shiftStart),
  ("shift_end", .text r.shiftEnd),
  ("drivers", .list (r.drivers.map .int)),
  ("vehicle_capacity", .int r.capacity),
  ("vehicle_capacities", .ofOption (fun c => .list (c.map .int)) r.capacities),
  ("requests", .list (r.deliveries.map Delivery.toValue))]

/-- How requests are written. -/
def codec : Json.Codec Request := ⟨.record record, ofValue, toValue⟩

end Request

end DeliveryRouting
