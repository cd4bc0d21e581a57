import DeliveryRouting.Json.Codec
import DeliveryRouting.Travel.Answer

/-! # Travel: where durations come from

Durations are looked up at a routing server, estimated along great circles, or given as a table. A
lookup always gives a table with a duration for every two points: where the server does not answer
with one, or the given table is for another number of points, an estimate at a fixed speed takes
its place. -/

namespace DeliveryRouting

/-- A source of travel durations. -/
inductive Provider where
  | osrm (url : String)
  | greatCircle (speedKmh : Float)
  | custom (table : TravelTable)

namespace Provider

/-- The speed of an estimate that takes the place of something else, in kilometres per hour. -/
def fallbackSpeed : Float := 30.0

/-- The estimate that takes the place of something else. -/
def estimate (points : List Point) : TravelTable := GreatCircle.table points fallbackSpeed

/-- The durations between points, where a routing server, if it is asked, sends `body` or nothing
at all. -/
def lookup (provider : Provider) (body : Option String) (points : List Point) : TravelTable :=
  match provider with
  | osrm _ =>
    match body.map (TableAnswer.read · points.length) with
    | some (.ok table) => table
    | _ => estimate points
  | greatCircle speedKmh => GreatCircle.table points speedKmh
  | custom table =>
    if table.covers points.length then table else estimate points

end Provider

/-! ### How tables and providers are written -/

open Json (Value)

namespace TravelTable

/-- The fields of a table. -/
def record : Json.Record where
  name := "TravelDurations"
  closed := false
  fields := [
    { name := "durations", form := .list .integer },
    { name := "num_locations", form := .size }]

/-- The table that a value of its form stands for. -/
def ofValue (v : Value) : TravelTable where
  durations := (v.member "durations").items.map Value.asInt
  locations := (v.member "num_locations").asInt.toNat

/-- The value that stands for a table. -/
def toValue (t : TravelTable) : Value :=
  .record [("durations", .list (t.durations.map .int)), ("num_locations", .int t.locations)]

/-- How tables are written. -/
def codec : Json.Codec TravelTable := ⟨.record record, ofValue, toValue⟩

end TravelTable

namespace Provider

/-- The form of a provider. -/
def form : Json.Form := .tagged "TravelDurationProvider" [
  ("osrm", ⟨"Osrm", false, [{ name := "url", form := .text }]⟩),
  ("as_the_crow_flies", ⟨"AsTheCrowFlies", false, [{ name := "speed_kmh", form := .number }]⟩),
  ("custom", ⟨"Custom", false, [{ name := "durations", form := .record TravelTable.record }]⟩)]

/-- The provider that a value of its form stands for. -/
def ofValue : Value → Provider
  | .record [("osrm", v)] => .osrm (v.member "url").asText
  | .record [("as_the_crow_flies", v)] => .greatCircle (v.member "speed_kmh").asFloat
  | v => .custom (TravelTable.ofValue ((v.member "custom").member "durations"))

/-- The value that stands for a provider. -/
def toValue : Provider → Value
  | osrm url => .record [("osrm", .record [("url", .text url)])]
  | greatCircle speedKmh =>
    .record [("as_the_crow_flies", .record [("speed_kmh", .float speedKmh)])]
  | custom table => .record [("custom", .record [("durations", table.toValue)])]

/-- How providers are written. -/
def codec : Json.Codec Provider := ⟨form, ofValue, toValue⟩

end Provider

end DeliveryRouting
