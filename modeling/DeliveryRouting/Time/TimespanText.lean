import DeliveryRouting.Text.Numeral
import DeliveryRouting.Text.Quoted
import DeliveryRouting.Time.Timespan

/-! # Time: how spans are written

There are three ways to write a span. The formal one, `P1DT2H30M`, has a designator in front and
letters of either case for the units. The casual one, `1 day 2h 30m`, takes the usual names of the
units, blanks and commas between the amounts and a sign in front or `ago` behind, and ends perhaps
in the time of day as `02:30:00`. Both want the units in descending order. At last a whole number
stands for so many seconds, whatever its sign. -/

namespace DeliveryRouting.Timespan

/-! ### Numbers -/

/-- The digits in front of a text, as a number. -/
def number? (cs : List Char) : Option (Nat × List Char) :=
  let digits := cs.takeWhile Char.isDigit
  if digits.isEmpty then none else some (Numeral.value digits, cs.dropWhile Char.isDigit)

/-- Most digits of a fraction. -/
def fractionDigits : Nat := 9

/-- A fraction in billionths, if there is a point or a comma in front of the text. At least one
digit follows that. -/
def fraction? (cs : List Char) : Option (Option Nat × List Char) :=
  match cs with
  | c :: rest =>
    if c = '.' ∨ c = ',' then
      let digits := (rest.takeWhile Char.isDigit).take fractionDigits
      if digits.isEmpty then none
      else some (some (Numeral.value digits * 10 ^ (fractionDigits - digits.length)),
        rest.drop digits.length)
    else some (none, cs)
  | [] => some (none, cs)

/-- Something present. -/
def require (condition : Bool) : Option Unit := if condition then some () else none

/-- The sign in front of a text, whether it is a minus. -/
def sign? (cs : List Char) : Option Bool × List Char :=
  match cs with
  | '+' :: rest => (some false, rest)
  | '-' :: rest => (some true, rest)
  | _ => (none, cs)

/-! ### The formal way -/

/-- The unit of days or more that a letter stands for. -/
def dateLetter? : Char → Option TimeUnit
  | 'Y' | 'y' => some .year
  | 'M' | 'm' => some .month
  | 'W' | 'w' => some .week
  | 'D' | 'd' => some .day
  | _ => none

/-- The unit below days that a letter stands for. -/
def clockLetter? : Char → Option TimeUnit
  | 'H' | 'h' => some .hour
  | 'M' | 'm' => some .minute
  | 'S' | 's' => some .second
  | _ => none

/-- The amounts in units below rank `below`, a letter behind each. A fraction ends them. -/
def letteredAmounts (letter? : Char → Option TimeUnit) (below : Nat) (cs : List Char) :
    Option (List Amount × List Char) :=
  match number? cs with
  | none => some ([], cs)
  | some (count, cs) => do
    let (billionths, cs) ← fraction? cs
    match cs with
    | [] => none
    | c :: cs =>
      let unit ← letter? c
      if _h : unit.rank < below then
        let amount : Amount := ⟨count, billionths, unit⟩
        if billionths.isSome then
          require unit.isDivisible
          return ([amount], cs)
        else
          let (more, cs) ← letteredAmounts letter? unit.rank cs
          return (amount :: more, cs)
      else none
termination_by below

/-- The amounts behind the designator, at least one in all and at least one behind the letter that
sets off the units below days. -/
def formalAmounts (cs : List Char) : Option (List Amount) := do
  let (dates, cs) ← letteredAmounts dateLetter? (TimeUnit.year.rank + 1) cs
  match cs with
  | [] =>
    require !dates.isEmpty
    return dates
  | c :: cs =>
    require (c = 'T' ∨ c = 't')
    let (clock, cs) ← letteredAmounts clockLetter? (TimeUnit.hour.rank + 1) cs
    require (cs.isEmpty && !clock.isEmpty)
    return dates ++ clock

/-! ### The casual way -/

/-- A blank. -/
def isBlank (c : Char) : Bool := c == ' ' || c == '\t' || c == '\n' || c == '\r' || c == '\x0c'

/-- The names of the units. -/
def names : List (String × TimeUnit) := [
  ("years", .year), ("year", .year), ("yrs", .year), ("yr", .year), ("y", .year),
  ("months", .month), ("month", .month), ("mos", .month), ("mo", .month),
  ("weeks", .week), ("week", .week), ("wks", .week), ("wk", .week), ("w", .week),
  ("days", .day), ("day", .day), ("d", .day),
  ("hours", .hour), ("hour", .hour), ("hrs", .hour), ("hr", .hour), ("h", .hour),
  ("minutes", .minute), ("minute", .minute), ("mins", .minute), ("min", .minute), ("m", .minute),
  ("seconds", .second), ("second", .second), ("secs", .second), ("sec", .second), ("s", .second),
  ("milliseconds", .millisecond), ("millisecond", .millisecond), ("millis", .millisecond),
  ("milli", .millisecond), ("msecs", .millisecond), ("msec", .millisecond), ("ms", .millisecond),
  ("microseconds", .microsecond), ("microsecond", .microsecond), ("micros", .microsecond),
  ("micro", .microsecond), ("usecs", .microsecond), ("usec", .microsecond), ("us", .microsecond),
  ("\u00b5secs", .microsecond), ("\u00b5sec", .microsecond), ("\u00b5s", .microsecond),
  ("\u03bcsecs", .microsecond), ("\u03bcsec", .microsecond), ("\u03bcs", .microsecond),
  ("nanoseconds", .nanosecond), ("nanosecond", .nanosecond), ("nanos", .nanosecond),
  ("nano", .nanosecond), ("nsecs", .nanosecond), ("nsec", .nanosecond), ("ns", .nanosecond)]

/-- The longer of two names, the first if there is nothing to choose. -/
def longer (best : Option (List Char × TimeUnit)) (name : List Char × TimeUnit) :
    Option (List Char × TimeUnit) :=
  match best with
  | some (cs, unit) => if cs.length < name.1.length then some name else some (cs, unit)
  | none => some name

/-- The unit with the longest name in front of a text. -/
def unit? (cs : List Char) : Option (TimeUnit × List Char) :=
  let fitting := (names.map fun (name, unit) => (name.toList, unit)).filter fun (name, _) =>
    cs.take name.length == name
  (fitting.foldl longer none).map fun (name, unit) => (unit, cs.drop name.length)

/-- A comma in front of a text, behind which a blank has to stand. -/
def comma? (cs : List Char) : Option (Bool × List Char) :=
  match cs with
  | ',' :: c :: rest => if isBlank c then some (true, rest) else none
  | [','] => none
  | _ => some (false, cs)

/-- Minutes and seconds behind the hours and a colon. -/
def clockAmounts (hours : Nat) (cs : List Char) : Option (List Amount × List Char) := do
  let (minutes, cs) ← number? cs
  match cs with
  | ':' :: cs => do
    let (seconds, cs) ← number? cs
    let (billionths, cs) ← fraction? cs
    return ([⟨hours, none, .hour⟩, ⟨minutes, none, .minute⟩, ⟨seconds, billionths, .second⟩], cs)
  | _ => none

/-- The amounts in units below rank `below`, of which the first has the given count. A fraction
ends them, and so does the time of day, which goes without names. -/
def namedAmounts (below count : Nat) (cs : List Char) : Option (List Amount × List Char) := do
  if let ':' :: rest := cs then
    require (TimeUnit.hour.rank < below)
    return ← clockAmounts count rest
  let (billionths, cs) ← fraction? cs
  let (unit, cs) ← unit? (cs.dropWhile isBlank)
  let (comma, cs) ← comma? cs
  if _h : unit.rank < below then
    let amount : Amount := ⟨count, billionths, unit⟩
    if billionths.isSome then
      require (unit.isDivisible && !comma)
      return ([amount], cs)
    else match number? (cs.dropWhile isBlank) with
      | none =>
        require !comma
        return ([amount], cs)
      | some (count, cs) =>
        let (more, cs) ← namedAmounts unit.rank count cs
        return (amount :: more, cs)
  else none
termination_by below

/-- What stands behind the amounts: whether it is the word that turns them back. -/
def direction? (cs : List Char) : Option Bool :=
  match cs with
  | [] => some false
  | c :: _ =>
    let word := cs.dropWhile isBlank
    if isBlank c then
      if word.isEmpty then some false
      else if word = "ago".toList then some true
      else none
    else none

/-- A span written casually, behind its sign. -/
def casual? (sign : Option Bool) (cs : List Char) : Option Timespan := do
  let (count, cs) ← number? cs
  let (amounts, cs) ← namedAmounts (TimeUnit.year.rank + 1) count cs
  let turned ← direction? cs
  require !(turned && sign.isSome)
  return ⟨turned || sign.getD false, amounts⟩

/-! ### All ways -/

/-- The span that a text writes, in the formal or the casual way. -/
def read? (cs : List Char) : Option Timespan :=
  let (sign, rest) := sign? cs
  match rest with
  | c :: formal =>
    if c = 'P' ∨ c = 'p' then (formalAmounts formal).map fun amounts => ⟨sign.getD false, amounts⟩
    else casual? sign rest
  | [] => none

/-- The number of 64 bits with sign that a text writes. -/
def wholeNumber? (cs : List Char) : Option Int := do
  let (sign, digits) := sign? cs
  require (Numeral.isNumeral digits)
  let n : Int := if sign.getD false then -Numeral.value digits else Numeral.value digits
  require (-0x8000000000000000 ≤ n ∧ n < 0x8000000000000000)
  return n

/-- A text that writes no span. -/
structure Invalid where
  text : String
  deriving Repr, DecidableEq

/-- The wording of the complaint. -/
def Invalid.message (e : Invalid) : String :=
  "invalid duration " ++ Text.quote e.text ++ ", expected e.g. \"30s\", \"2m\" or \"PT1M\""

/-- The length in nanoseconds of the span that a text writes. -/
def read (text : String) : Except Invalid Int :=
  match (read? text.toList).bind nanoseconds? with
  | some n => .ok n
  | none => match wholeNumber? text.toList with
    | some seconds => .ok (seconds.natAbs * second)
    | none => .error ⟨text⟩

end DeliveryRouting.Timespan
