import DeliveryRouting.Text.Numeral
import DeliveryRouting.Text.Quoted

/-! # Time: the clock

A clock time is written `HH:MM`, the hours counting on past midnight, and stands for a number of
minutes. Within a shift the program counts whole seconds from the start of the shift, the `base`;
`toSeconds` and `ofSeconds` go between the two, flooring to the minute on the way back. -/

namespace DeliveryRouting.Clock

/-- A text that is no clock time. -/
structure InvalidTime where
  text : String
  deriving Repr, DecidableEq

/-- The wording of the complaint. -/
def InvalidTime.message (e : InvalidTime) : String := "invalid HH:MM time " ++ Text.quote e.text

/-- Largest number of hours a clock time may name. -/
def maxHours : Nat := 0x7FFFFFFFFFFFFFFF

/-- The hours are a numeral in range, the minutes two digits below sixty. -/
def wellFormed (hours minutes : List Char) : Bool :=
  Numeral.isNumeral hours && Numeral.isNumeral minutes && minutes.length == 2 &&
    decide (Numeral.value hours ≤ maxHours) && decide (Numeral.value minutes < 60)

/-- Minutes from midnight that a text names: the part before its first colon are the hours, all
that follows are the minutes. -/
def minutes? (text : List Char) : Option Int :=
  match text.span (· != ':') with
  | (hours, _ :: minutes) =>
    if wellFormed hours minutes then
      some ((Numeral.value hours : Int) * 60 + (Numeral.value minutes : Int))
    else none
  | (_, []) => none

/-- Minutes from midnight, or the text itself as the complaint. -/
def readMinutes (text : String) : Except InvalidTime Int :=
  match minutes? text.toList with
  | some n => .ok n
  | none => .error ⟨text⟩

/-- The clock time a number of minutes from midnight, floored to the hour before it. -/
def formatMinutes (n : Int) : String :=
  String.ofList (Numeral.signed 2 (n / 60) ++ ':' :: Numeral.signed 2 (n % 60))

/-- Seconds from `base` to `time`, negative when `time` is earlier. -/
def toSeconds (time base : String) : Except InvalidTime Int := do
  let later ← readMinutes time
  let earlier ← readMinutes base
  return (later - earlier) * 60

/-- The clock time `seconds` after `base`, floored to the minute. -/
def ofSeconds (seconds : Int) (base : String) : Except InvalidTime String := do
  let start ← readMinutes base
  return formatMinutes (start + seconds / 60)

end DeliveryRouting.Clock
