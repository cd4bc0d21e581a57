import DeliveryRouting.Json.Codec
import DeliveryRouting.Model.Window

/-! # Model: how windows are written

A window is written by its two bounds, in seconds from the start of the shift. -/

namespace DeliveryRouting.Window

open Json (Value)

/-- The fields of a window. -/
def record : Json.Record where
  name := "TimeWindow"
  closed := false
  fields := [{ name := "start", form := .integer }, { name := "end", form := .integer }]

/-- How windows are written. -/
def codec : Json.Codec Window where
  form := .record record
  ofValue v := ⟨(v.member "start").asInt, (v.member "end").asInt⟩
  toValue w := .record [("start", .int w.opens), ("end", .int w.closes)]

end DeliveryRouting.Window
