import DeliveryRouting.Dispatch.Request

/-! # Dispatch: responses

A response names the trips of each driver with their stops, and the deliveries that no trip
serves. -/

namespace DeliveryRouting

namespace Response

/-- A stop of a trip. -/
structure Stop where
  /-- its place in the trip, counted from one -/
  order : Nat
  id : Int
  place : Coordinates
  arrival : String
  deriving Inhabited

/-- A trip of a driver. -/
structure Trip where
  driver : Int
  /-- its place among the trips of the driver, counted from one -/
  number : Nat
  stops : List Stop
  deriving Inhabited

end Response

/-- The trips, and the ids of the deliveries that none of them serves. -/
structure Response where
  trips : List Response.Trip
  unserved : List Int
  deriving Inhabited

namespace Response

/-- Nothing to serve. -/
def empty : Response := ⟨[], []⟩

/-- No delivery of a request is served. -/
def allUnserved (r : Request) : Response := ⟨[], r.deliveries.map Delivery.id⟩

open Json (Value)

namespace Stop

/-- The fields of a stop. -/
def record : Json.Record where
  name := "Stop"
  closed := false
  fields := [
    { name := "order", form := .size, note? := "1-based position in the trip" },
    { name := "request_id", form := .integer },
    { name := "lat", form := .number },
    { name := "lon", form := .number },
    { name := "arrival", form := .text, note? := clockNote }]

/-- The stop that a value of its form stands for. -/
def ofValue (v : Value) : Stop where
  order := (v.member "order").asInt.toNat
  id := (v.member "request_id").asInt
  place := Coordinates.ofValue v
  arrival := (v.member "arrival").asText

/-- The value that stands for a stop. -/
def toValue (s : Stop) : Value := .record [
  ("order", .int s.order),
  ("request_id", .int s.id),
  ("lat", .float s.place.lat),
  ("lon", .float s.place.lon),
  ("arrival", .text s.arrival)]

/-- How stops are written. -/
def codec : Json.Codec Stop := ⟨.record record, ofValue, toValue⟩

end Stop

namespace Trip

/-- The fields of a trip. -/
def record : Json.Record where
  name := "Trip"
  closed := false
  fields := [
    { name := "driver_id", form := .integer },
    { name := "trip_number", form := .size, note? := "1-based trip number of the driver" },
    { name := "stops", form := .list (.record Stop.record) }]

/-- The trip that a value of its form stands for. -/
def ofValue (v : Value) : Trip where
  driver := (v.member "driver_id").asInt
  number := (v.member "trip_number").asInt.toNat
  stops := (v.member "stops").items.map Stop.ofValue

/-- The value that stands for a trip. -/
def toValue (t : Trip) : Value := .record [
  ("driver_id", .int t.driver),
  ("trip_number", .int t.number),
  ("stops", .list (t.stops.map Stop.toValue))]

/-- How trips are written. -/
def codec : Json.Codec Trip := ⟨.record record, ofValue, toValue⟩

end Trip

/-- The fields of a response. -/
def record : Json.Record where
  name := "SolveResponse"
  closed := false
  fields := [
    { name := "routes", form := .list (.record Trip.record) },
    { name := "unserved", form := .list .integer,
      note? := "Ids of the requests no trip can serve" }]

/-- The response that a value of its form stands for. -/
def ofValue (v : Value) : Response where
  trips := (v.member "routes").items.map Trip.ofValue
  unserved := (v.member "unserved").items.map Value.asInt

/-- The value that stands for a response. -/
def toValue (r : Response) : Value := .record [
  ("routes", .list (r.trips.map Trip.toValue)),
  ("unserved", .list (r.unserved.map .int))]

/-- How responses are written. -/
def codec : Json.Codec Response := ⟨.record record, ofValue, toValue⟩

end Response

end DeliveryRouting
