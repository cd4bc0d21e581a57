import DeliveryRouting.Dispatch.Request

/-! # Dispatch: a demonstration

Twelve orders around one depot and three drivers with five units each, to see what the planner
does. -/

namespace DeliveryRouting.Demo

/-- An order for any time of the shift. -/
def order (id : Int) (lat lon : Float) (demand : Int) : Delivery :=
  { id, place := ⟨lat, lon⟩, demand }

/-- An urgent order with a binding window. -/
def urgent (id : Int) (lat lon : Float) (demand : Int) (opens closes : String) : Delivery :=
  { order id lat lon demand with
    kind := .hard, opens := some opens, closes := some closes, priority := some 1 }

/-- The orders downtown, then those to the north, the south, the east, the west and the far
north. -/
def orders : List Delivery := [
  urgent 101 (-16.7210) (-43.8610) 2 "09:00" "11:00",
  order 102 (-16.7265) (-43.8590) 1,
  order 103 (-16.7050) (-43.8600) 3,
  urgent 104 (-16.7080) (-43.8550) 2 "10:00" "12:00",
  order 105 (-16.7400) (-43.8700) 1,
  order 106 (-16.7380) (-43.8650) 2,
  urgent 107 (-16.7150) (-43.8450) 1 "08:30" "10:00",
  order 108 (-16.7180) (-43.8480) 2,
  order 109 (-16.7200) (-43.8800) 3,
  order 110 (-16.7230) (-43.8750) 1,
  urgent 111 (-16.6950) (-43.8550) 2 "14:00" "16:00",
  order 112 (-16.6980) (-43.8520) 1]

/-- The request for them. -/
def request : Request where
  depot := ⟨-16.734440968489228, -43.877211192130325⟩
  drivers := [1, 2, 3]
  deliveries := orders

end DeliveryRouting.Demo
