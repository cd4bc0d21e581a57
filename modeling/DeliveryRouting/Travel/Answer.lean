import DeliveryRouting.Decimal.Layout
import DeliveryRouting.Json.Form
import DeliveryRouting.Travel.GreatCircle

/-! # Travel: the answers of a routing server

A routing server is asked for the durations between points by an address that lists them, and
answers with a table of seconds, in which a pair of points without a way is null. An answer is
taken whole or not at all: it has to say that all went well and to hold a duration for every two
points. -/

namespace DeliveryRouting

/-- What a routing server answers. -/
structure TableAnswer where
  code : String
  message : Option String
  /-- seconds between points, row after row -/
  durations : Option (List (List (Option Float)))

/-- Why an answer is of no use. -/
inductive TableFault where
  | refused (code message : String)
  | incomplete
  | unreadable (fault : Json.Fault)

namespace TableFault

/-- The wording of a fault. -/
def message : TableFault → String
  | refused code message => s!"API error: {code} - {message}"
  | incomplete => "Incomplete response"
  | unreadable fault => s!"Deserialization error: {fault.message}"

end TableFault

namespace TableAnswer

/-- The code of an answer that all went well. -/
def good : String := "Ok"

/-- The message of an answer that gives none. -/
def noMessage : String := "OSRM error"

/-- The form of an answer; the fields it does not name are of no interest. -/
def record : Json.Record where
  name := "TableResponse"
  closed := false
  fields := [
    { name := "code", form := .text },
    { name := "message", form := .optional .text },
    { name := "durations", form := .optional (.list (.list (.optional .number))) }]

/-- The answer that a value of the form stands for. -/
def ofValue (v : Json.Value) : TableAnswer where
  code := (v.member "code").asText
  message := (v.member "message").asOption Json.Value.asText
  durations := (v.member "durations").asOption fun rows =>
    rows.items.map fun row => row.items.map (·.asOption Json.Value.asFloat)

/-- The durations of a row, if it has one for each of `n` points. -/
def row? (n : Nat) (row : List (Option Float)) : Option (List Int) :=
  if row.length = n then row.mapM (·.map GreatCircle.wholeSeconds) else none

/-- The durations of all rows, if there is one for every two of `n` points. -/
def cells? (n : Nat) (rows : List (List (Option Float))) : Option (List Int) :=
  if rows.length = n then (rows.mapM (row? n)).map List.flatten else none

/-- The table of an answer for `n` points. -/
def table (a : TableAnswer) (n : Nat) : Except TableFault TravelTable :=
  if a.code ≠ good then .error (.refused a.code (a.message.getD noMessage))
  else match a.durations.bind (cells? n) with
    | some durations => .ok ⟨durations, n⟩
    | none => .error .incomplete

/-- The table that the text of an answer for `n` points holds. -/
def read (text : String) (n : Nat) : Except TableFault TravelTable :=
  match (Json.Form.record record).readText text with
  | .ok v => (ofValue v).table n
  | .error fault => .error (.unreadable fault)

/-! ### Addresses -/

/-- Coordinates are written without exponents. -/
def coordinateLayout : Decimal.Layout where
  plain := none
  pointZero := false
  exponentWidth := 1
  tie := .up

/-- A point in an address. -/
def coordinates (p : Point) : String :=
  coordinateLayout.write p.x ++ "," ++ coordinateLayout.write p.y

/-- The text without the slashes at its end. -/
def withoutSlashes (s : String) : String :=
  String.ofList (s.toList.reverse.dropWhile (· == '/')).reverse

/-- Where a server gives the table of some points. -/
def address (server : String) (points : List Point) : String :=
  withoutSlashes server ++ "/table/v1/driving/" ++
    String.intercalate ";" (points.map coordinates)

end TableAnswer

end DeliveryRouting
