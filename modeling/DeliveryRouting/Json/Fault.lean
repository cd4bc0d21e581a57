import DeliveryRouting.Decimal.Layout
import DeliveryRouting.Text.Quoted

/-! # JSON: what can be wrong with a text

A text can break the rules of JSON, it can end too early, or it can be good JSON that is not what
is wanted. Each fault says what was found or expected; `Fault.message` words it. -/

namespace DeliveryRouting.Json

/-- Something found in place of what is wanted. -/
inductive Found where
  | null
  | bool (b : Bool)
  | integer (n : Int)
  | float (x : Float)
  | text (s : String)
  | sequence
  | map
  | unitVariant

/-- A text that is good JSON and not what is wanted. -/
inductive DataFault where
  | missingField (name : String)
  | duplicateField (name : String)
  | unknownField (name : String) (known : List String)
  | unknownVariant (name : String) (known : List String)
  | wrongType (found : Found) (expected : String)
  | wrongValue (found : Found) (expected : String)
  | wrongLength (length : Nat) (expected : String)

/-- What a text ends in the middle of. -/
inductive Place where
  | value
  | text
  | list
  | object
  deriving Repr, DecidableEq

/-- A rule of JSON that a text breaks. -/
inductive Breach where
  | expectedValue
  | expectedWord
  | expectedColon
  | expectedListEnd
  | expectedObjectEnd
  | trailingComma
  | trailingCharacters
  | keyIsNoText
  | controlCharacter
  | unknownEscape
  | loneSurrogate
  | brokenSurrogatePair
  | badNumber
  | hugeNumber
  deriving Repr, DecidableEq

/-- What is wrong with a text. -/
inductive Fault where
  | data (fault : DataFault)
  | endsIn (place : Place)
  | breach (rule : Breach)

/-- Numbers are written with the fewest digits, positionally from the fifth place behind the point
to the sixteenth before it, whole numbers with a zero behind the point. -/
def numberLayout : Decimal.Layout where
  plain := some (-5, 15)
  pointZero := true
  exponentWidth := 2
  tie := .even

/-- The wording of something found. -/
def Found.describe : Found → String
  | null => "null"
  | bool b => s!"boolean `{b}`"
  | integer n => s!"integer `{n}`"
  | float x => s!"floating point `{numberLayout.write x}`"
  | text s => "string " ++ Text.quote s
  | sequence => "sequence"
  | map => "map"
  | unitVariant => "unit variant"

/-- A name between the marks that set off what stands in a text. -/
def mark (name : String) : String := "`" ++ name ++ "`"

/-- The names that would have been known. -/
def alternatives : List String → String
  | [] => "there are no fields"
  | [a] => "expected " ++ mark a
  | [a, b] => "expected " ++ mark a ++ " or " ++ mark b
  | names => "expected one of " ++ String.intercalate ", " (names.map mark)

/-- The wording of a fault in the data. -/
def DataFault.message : DataFault → String
  | missingField name => "missing field " ++ mark name
  | duplicateField name => "duplicate field " ++ mark name
  | unknownField name known => "unknown field " ++ mark name ++ ", " ++ alternatives known
  | unknownVariant name known => "unknown variant " ++ mark name ++ ", " ++ alternatives known
  | wrongType found expected => "invalid type: " ++ found.describe ++ ", expected " ++ expected
  | wrongValue found expected => "invalid value: " ++ found.describe ++ ", expected " ++ expected
  | wrongLength length expected => s!"invalid length {length}, expected " ++ expected

/-- The name of a place in a text. -/
def Place.describe : Place → String
  | value => "a value"
  | text => "a string"
  | list => "a list"
  | object => "an object"

/-- The wording of a breach. -/
def Breach.message : Breach → String
  | expectedValue => "expected value"
  | expectedWord => "expected ident"
  | expectedColon => "expected `:`"
  | expectedListEnd => "expected `,` or `]`"
  | expectedObjectEnd => "expected `,` or `\x7d`"
  | trailingComma => "trailing comma"
  | trailingCharacters => "trailing characters"
  | keyIsNoText => "key must be a string"
  | controlCharacter => "control character (\\u0000-\\u001F) found while parsing a string"
  | unknownEscape => "invalid escape"
  | loneSurrogate => "lone leading surrogate in hex escape"
  | brokenSurrogatePair => "unexpected end of hex escape"
  | badNumber => "invalid number"
  | hugeNumber => "number out of range"

/-- The wording of a fault. -/
def Fault.message : Fault → String
  | data f => f.message
  | endsIn place => "EOF while parsing " ++ place.describe
  | breach b => b.message

end DeliveryRouting.Json
