/-! # JSON: values

The value of a JSON text. Whole numbers and other numbers are kept apart, and the members of an
object keep their order. The accessors give what a value of the expected kind holds and something
empty for any other: they are meant for values whose kinds have been checked. -/

namespace DeliveryRouting.Json

/-- The value of a JSON text. -/
inductive Value where
  | null
  | bool (b : Bool)
  | int (n : Int)
  | float (x : Float)
  | text (s : String)
  | list (items : List Value)
  | record (members : List (String × Value))
  deriving Inhabited

namespace Value

/-- The whole number. -/
def asInt : Value → Int
  | int n => n
  | _ => 0

/-- The number. -/
def asFloat : Value → Float
  | float x => x
  | int n => Float.ofInt n
  | _ => 0.0

/-- The text. -/
def asText : Value → String
  | text s => s
  | _ => ""

/-- The items of a list. -/
def items : Value → List Value
  | list items => items
  | _ => []

/-- The member of an object, null if there is none. -/
def member (v : Value) (name : String) : Value :=
  match v with
  | record members => (members.lookup name).getD null
  | _ => null

/-- Nothing for null, otherwise what `read` makes of the value. -/
def asOption {α : Type} (read : Value → α) : Value → Option α
  | null => none
  | v => some (read v)

/-- Null for nothing, otherwise what `write` makes of it. -/
def ofOption {α : Type} (write : α → Value) : Option α → Value
  | none => null
  | some a => write a

end Value

end DeliveryRouting.Json
