import DeliveryRouting.Text.Numeral
import DeliveryRouting.Time.Timespan

/-! # Time: points in time

A point in time is the number of nanoseconds since the first of January 1970 in universal time. It
is written by its date in the Gregorian calendar, which is carried on both ways, and its time of
day, with as many digits behind the seconds as it takes. -/

namespace DeliveryRouting

/-- A point in time. -/
structure Timestamp where
  /-- since the first of January 1970 -/
  nanoseconds : Int
  deriving Repr, DecidableEq, Inhabited

namespace Timestamp

/-- Days from the first of March of the year zero to the first of January 1970. -/
def epochDay : Int := 719468

/-- Days in four hundred years. -/
def daysOfEra : Int := 146097

/-- The year, month and day of the month, by the number of days since the first of January 1970.
Years are counted from March, so that the leap day is their last. -/
def date (day : Int) : Int × Int × Int :=
  let shifted := day + epochDay
  let era := shifted / daysOfEra
  let dayOfEra := shifted % daysOfEra
  let yearOfEra := (dayOfEra - dayOfEra / 1460 + dayOfEra / 36524 - dayOfEra / 146096) / 365
  let dayOfYear := dayOfEra - (365 * yearOfEra + yearOfEra / 4 - yearOfEra / 100)
  let fromMarch := (5 * dayOfYear + 2) / 153
  let dayOfMonth := dayOfYear - (153 * fromMarch + 2) / 5 + 1
  let month := if fromMarch < 10 then fromMarch + 3 else fromMarch - 9
  let year := yearOfEra + era * 400 + if month ≤ 2 then 1 else 0
  (year, month, dayOfMonth)

/-- The digits behind the seconds, with the point in front, without zeros at the end. -/
def fraction (nanoseconds : Nat) : List Char :=
  if nanoseconds = 0 then []
  else '.' :: ((Numeral.padded 9 nanoseconds).reverse.dropWhile (· == '0')).reverse

/-- The date and the time of day. -/
def write (t : Timestamp) : String :=
  let seconds := t.nanoseconds / Timespan.second
  let (year, month, day) := date (seconds / 86400)
  let second := (seconds % 86400).toNat
  let two := fun n => Numeral.padded 2 n
  String.ofList (Numeral.signed 4 year ++ '-' :: two month.toNat ++ '-' :: two day.toNat ++
    'T' :: two (second / 3600) ++ ':' :: two (second / 60 % 60) ++ ':' :: two (second % 60) ++
    fraction (t.nanoseconds % Timespan.second).toNat ++ ['Z'])

end Timestamp

end DeliveryRouting
