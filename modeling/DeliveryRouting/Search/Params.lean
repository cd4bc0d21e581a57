import DeliveryRouting.Model.Basic
import DeliveryRouting.Time.Timespan

/-! # Search: parameters

The search ends when any of its limits is reached: on the time since its start, on the number of
its iterations, or on the number of iterations in a row that brought no better solution. -/

namespace DeliveryRouting

/-- Something that ends the search. -/
inductive Limit where
  /-- nanoseconds since the start of the search -/
  | time (nanoseconds : Int)
  | iterations (most : Nat)
  | stalledIterations (most : Nat)
  deriving Repr, DecidableEq, Inhabited

/-- The limit is reached after this much time, this many iterations, and this many of them in a
row without a better solution. -/
def Limit.reached (elapsed : Int) (iterations stalled : Nat) : Limit → Bool
  | .time nanoseconds => decide (nanoseconds ≤ elapsed)
  | .iterations most => decide (most ≤ iterations)
  | .stalledIterations most => decide (most ≤ stalled)

/-- The time that a limit allows, if it is one on the time. -/
def Limit.time? : Limit → Option Int
  | .time nanoseconds => some nanoseconds
  | _ => none

/-- What can be asked of the search. -/
structure Params where
  limits : List Limit
  /-- most trips of a driver; none counts as one -/
  trips : Nat
  service : Int
  /-- the weight of the penalties in terms of the mean transit of an arc -/
  coefficient : Float
  /-- number of threads that look for insertions, which does not show in the result -/
  threads : Nat
  /-- where the orders of the neighbourhoods come from -/
  seed : UInt64
  /-- the integers that the search counts in -/
  width : Width := .word
  deriving Inhabited

namespace Params

/-- Five seconds, or five thousand iterations without a better solution. -/
def standard : Params where
  limits := [.time (5 * Timespan.second), .stalledIterations 5000]
  trips := defaultTrips
  service := defaultService
  coefficient := 0.1
  threads := 4
  seed := 0

/-- The parameters with one limit on the time, after all others. -/
def withTimeLimit (p : Params) (nanoseconds : Int) : Params :=
  { p with limits := p.limits.filter (fun l => l.time?.isNone) ++ [.time nanoseconds] }

/-- The first limit on the time. -/
def timeLimit? (p : Params) : Option Int := p.limits.findSome? Limit.time?

theorem timeLimit_withTimeLimit (p : Params) (nanoseconds : Int) :
    (p.withTimeLimit nanoseconds).timeLimit? = some nanoseconds := by
  have others : (p.limits.filter fun l => l.time?.isNone).findSome? Limit.time? = none := by simp
  rw [timeLimit?, withTimeLimit, List.findSome?_append, others]
  rfl

/-- One of the limits is reached. -/
def exhausted (p : Params) (elapsed : Int) (iterations stalled : Nat) : Bool :=
  p.limits.any (Limit.reached elapsed iterations stalled)

end Params

end DeliveryRouting
