import DeliveryRouting.Arithmetic

/-! # Time: spans

A span of time is a sum of amounts in ever smaller units, forward or backward. Days and weeks have
a fixed length, months and years have none, so that of those only none at all can be counted. The
amount in the smallest unit may have a fraction, given in billionths, if that unit measures the
time of day and can be divided. -/

namespace DeliveryRouting

/-- A unit of time. -/
inductive TimeUnit where
  | nanosecond
  | microsecond
  | millisecond
  | second
  | minute
  | hour
  | day
  | week
  | month
  | year
  deriving Repr, DecidableEq, Inhabited

namespace TimeUnit

/-- The place of a unit among all, the smallest first. -/
def rank (u : TimeUnit) : Nat := u.ctorIdx

/-- The length of a unit in nanoseconds, zero if it has no fixed length. -/
def length : TimeUnit → Nat
  | nanosecond => 1
  | microsecond => 1000
  | millisecond => 1000000
  | second => 1000000000
  | minute => 60000000000
  | hour => 3600000000000
  | day => 86400000000000
  | week => 604800000000000
  | month => 0
  | year => 0

/-- The unit measures the time of day. -/
def isClock (u : TimeUnit) : Bool := decide (u.rank ≤ hour.rank)

/-- The unit can be divided. -/
def isDivisible (u : TimeUnit) : Bool := u.isClock && decide (u ≠ nanosecond)

/-- The largest amount of a unit in a span that has days or more, which has to stay within some
twenty thousand years. -/
def most : TimeUnit → Nat
  | nanosecond => 0x7FFFFFFFFFFFFFFF
  | microsecond => 631107417600000000
  | millisecond => 631107417600000
  | second => 631107417600
  | minute => 10518456960
  | hour => 175307616
  | day => 7304484
  | week => 1043497
  | month => 0
  | year => 0

end TimeUnit

/-- So many of a unit. -/
structure Amount where
  count : Nat
  /-- a fraction of the unit -/
  billionths : Option Nat
  unit : TimeUnit
  deriving Repr, DecidableEq, Inhabited

/-- The length of an amount in nanoseconds. -/
def Amount.nanoseconds (a : Amount) : Nat :=
  a.count * a.unit.length + a.billionths.getD 0 * a.unit.length / 1000000000

/-- A sum of amounts, forward or backward. -/
structure Timespan where
  backward : Bool
  amounts : List Amount
  deriving Repr, DecidableEq, Inhabited

namespace Timespan

/-- The length of the span in nanoseconds, negative if it goes backward. -/
def total (s : Timespan) : Int :=
  let length : Int := (s.amounts.map Amount.nanoseconds).sum
  if s.backward then -length else length

/-- Nanoseconds in a second. -/
def second : Int := 1000000000

/-- The span measures the time of day only. -/
def isClock (s : Timespan) : Bool := s.amounts.all fun a => a.unit.isClock

/-- The count is a number of 64 bits with the sign of the span. -/
def fits (s : Timespan) (count : Nat) : Bool :=
  decide (count < 0x8000000000000000 ∨ s.backward ∧ count = 0x8000000000000000)

/-- The whole seconds of a length are a number of 64 bits with sign. -/
def inRange (nanoseconds : Int) : Bool :=
  let seconds := nanoseconds.tdiv second
  decide (-0x8000000000000000 ≤ seconds ∧ seconds < 0x8000000000000000)

/-- The length of the span in nanoseconds, if it has a fixed one that is not out of all bounds. -/
def nanoseconds? (s : Timespan) : Option Int :=
  let bounded :=
    if s.isClock then s.amounts.all (fun a => s.fits a.count) && inRange s.total
    else s.amounts.all fun a => decide (a.count ≤ a.unit.most)
  if bounded then some s.total else none

end Timespan

end DeliveryRouting
