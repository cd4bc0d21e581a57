/-! # Model: priorities

A lower priority number is more urgent. What it costs to leave a delivery out depends only on
whether the delivery is urgent. -/

namespace DeliveryRouting.Priority

/-- The priority of a delivery that names none. -/
def ordinary : Int := 2

/-- Priorities up to this one are urgent. -/
def urgent : Int := 1

/-- Cost of leaving an urgent delivery out. -/
def urgentPenalty : Int := 1000000

/-- Cost of leaving any other delivery out. -/
def ordinaryPenalty : Int := 100000

/-- Cost of leaving out a delivery of the given priority. -/
def dropPenalty (priority : Int) : Int :=
  if priority ≤ urgent then urgentPenalty else ordinaryPenalty

end DeliveryRouting.Priority
