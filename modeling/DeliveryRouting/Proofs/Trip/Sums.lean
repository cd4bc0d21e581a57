import DeliveryRouting.Proofs.Model.Layout
import DeliveryRouting.Proofs.Trip.Timing
import Mathlib.Algebra.Order.BigOperators.Group.List

/-! # Trips: the sums of a schedule

A schedule is made by adding up: demands to a load, durations and the time of service to transits,
transits to a time. Here this is done step by step, and a parameter says how a machine holds each sum
that it forms (`Schedule.computeBy`, `costBy`). Kept as the model keeps them, the sums lead to
`Schedule.compute` (`Schedule.computeBy_keep`); held as they are, they lead to the schedule and the
cost in integers without a bound. What sums are formed can be told by a machine that halts at one of
them (`Schedule.Forms`). A machine that checks every sum does not get to an end unless both agree
(`Schedule.compute_eq_exact`).

However long a trip is, its sums have bounds. The time at a stop was tested against the end of the
shift and the load against the capacity before anything was added to them, so each sum exceeds a limit
that has been kept by one transit or one demand at most (`Schedule.computeBy_of_within`,
`Schedule.within_of_forms`). The cost of a trip is summed without any test; but the sum is never
larger than the time at which the vehicle is back, so it has a bound if the trip has a schedule
(`costBy_of_compute`). -/

namespace DeliveryRouting

/-- What is added up. -/
inductive Quantity
  | time
  | load
  deriving DecidableEq

theorem foldlM_eq_ok_foldl {α β ε : Type} {f : β → α → Except ε β} {value : β → α → β}
    (I : β → List α → Prop)
    (step : ∀ b x xs, I b (x :: xs) → f b x = .ok (value b x) ∧ I (value b x) xs)
    {start : β} {xs : List α} (h : I start xs) :
    xs.foldlM f start = .ok (xs.foldl value start) := by
  induction xs generalizing start with
  | nil => rfl
  | cons x xs ih =>
    obtain ⟨head, rest⟩ := step start x xs h
    rw [List.foldlM_cons, head]
    exact ih rest

/-! ### Bounds -/

theorem le_foldl_max (xs : List Int) (start : Int) :
    start ≤ xs.foldl max start ∧ ∀ x ∈ xs, x ≤ xs.foldl max start := by
  induction xs generalizing start with
  | nil => simp
  | cons x xs ih =>
    obtain ⟨hstart, hxs⟩ := ih (max start x)
    rw [List.foldl_cons]
    exact ⟨by omega, List.forall_mem_cons.mpr ⟨by omega, hxs⟩⟩

namespace TravelMatrix

theorem maxDuration_nonneg (t : TravelMatrix) : 0 ≤ t.maxDuration := by
  rw [maxDuration, ← Array.foldl_toList]
  exact (le_foldl_max _ _).1

theorem duration_le_maxDuration (t : TravelMatrix) (i j : Nat) :
    t.duration i j ≤ t.maxDuration := by
  unfold TravelMatrix.duration
  split
  · exact t.maxDuration_nonneg
  · rw [Array.getD_eq_getD_getElem?]
    cases cell : t.cells[i * t.nodes + j]? with
    | none => exact t.maxDuration_nonneg
    | some duration =>
      have listed : duration ∈ t.cells.toList :=
        Array.mem_toList_iff.mpr (Array.mem_of_getElem? cell)
      rw [maxDuration, ← Array.foldl_toList]
      exact (le_foldl_max _ _).2 duration listed

end TravelMatrix

namespace Model

variable {m : Model}

/-- The largest demand of a delivery. -/
def largestDemand (m : Model) : Int := (m.deliveries.map m.demand).foldl max 0

/-- The end of the shift, one arc and one delivery later. -/
def timeBound (m : Model) : Int :=
  max m.shiftLength 0 + m.travel.maxDuration + max m.service 0

/-- The capacity of a vehicle and one delivery more. -/
def loadBound (m : Model) (vehicle : Nat) : Int := max (m.capacity vehicle) 0 + m.largestDemand

/-- What serving a delivery takes off the time, if it takes a negative time. -/
def rebate (m : Model) : Int := max (-m.service) 0

/-- What the nodes take off a load, those with a negative demand. -/
def relief (m : Model) (nodes : List Nat) : Int :=
  (nodes.map fun node => max (-m.demand node) 0).sum

theorem demand_le_largestDemand {node : Nat} (h : node ∈ m.deliveries) :
    m.demand node ≤ m.largestDemand :=
  (le_foldl_max _ _).2 _ (List.mem_map_of_mem h)

theorem loadBound_nonneg (m : Model) (vehicle : Nat) : 0 ≤ m.loadBound vehicle :=
  Int.add_nonneg (Int.le_max_right _ _) (le_foldl_max _ _).1

theorem load_le_loadBound {load : Int} {vehicle node : Nat}
    (hasRoom : load ≤ max (m.capacity vehicle) 0) (delivery : node ∈ m.deliveries) :
    load + m.demand node ≤ m.loadBound vehicle := by
  have largest := m.demand_le_largestDemand delivery
  unfold loadBound
  omega

theorem relief_cons (node : Nat) (nodes : List Nat) :
    m.relief (node :: nodes) = max (-m.demand node) 0 + m.relief nodes := by
  rw [relief, List.map_cons, List.sum_cons, relief]

theorem relief_nonneg (nodes : List Nat) : 0 ≤ m.relief nodes := by
  refine List.sum_nonneg fun n hn => ?_
  obtain ⟨node, -, rfl⟩ := List.mem_map.mp hn
  exact Int.le_max_right _ _

theorem rebate_nonneg : 0 ≤ m.rebate := Int.le_max_right _ _

theorem leg_le (i j : Nat) : m.leg i j ≤ m.travel.maxDuration + max m.service 0 := by
  have longest := m.travel.duration_le_maxDuration i j
  unfold leg serviceAt
  split <;> omega

theorem time_le_timeBound {time : Int} (inShift : time ≤ max m.shiftLength 0) (i j : Nat) :
    time + m.leg i j ≤ m.timeBound := by
  have longest := m.leg_le i j
  unfold timeBound
  omega

theorem shiftLength_le_timeBound : max m.shiftLength 0 ≤ m.timeBound := by
  have longest := m.travel.maxDuration_nonneg
  unfold timeBound
  omega

section Forward

variable (forward : ∀ i j, 0 ≤ m.travel.duration i j)
include forward

theorem neg_rebate_le_leg (i j : Nat) : -m.rebate ≤ m.leg i j := by
  have ahead := forward i j
  unfold leg serviceAt rebate
  split <;> omega

theorem leg_depot_nonneg (i : Nat) : 0 ≤ m.leg i depot := by
  have ahead := forward i depot
  rw [leg, serviceAt_depot]
  omega

end Forward

theorem leg_nonneg (forward : ∀ i j, 0 ≤ m.travel.duration i j) (lasts : 0 ≤ m.service)
    (i j : Nat) : 0 ≤ m.leg i j := by
  have ahead := forward i j
  unfold leg serviceAt
  split <;> omega

/-- What a trip adds up is never negative. -/
structure Accumulates (m : Model) : Prop where
  duration : ∀ i j, 0 ≤ m.travel.duration i j
  service : 0 ≤ m.service
  demand : ∀ node ∈ m.deliveries, 0 ≤ m.demand node

theorem accumulates_of_build {p : Problem} {trips : Nat} {service : Int} {width : Width}
    (fits : build p trips service width = .ok m) (lasts : 0 ≤ service)
    (takesUp : ∀ node ∈ m.deliveries, 0 ≤ m.demand node) : m.Accumulates := by
  refine ⟨duration_nonneg_of_build fits, ?_, takesUp⟩
  rw [service_of_build fits]
  exact lasts

namespace Accumulates

variable (acc : m.Accumulates)
include acc

theorem rebate_eq_zero : m.rebate = 0 := by
  have service := acc.service
  unfold rebate
  omega

theorem relief_eq_zero {nodes : List Nat} (deliveries : ∀ node ∈ nodes, node ∈ m.deliveries) :
    m.relief nodes = 0 := by
  induction nodes with
  | nil => rfl
  | cons node nodes ih =>
    obtain ⟨delivery, deliveries⟩ := List.forall_mem_cons.mp deliveries
    have demand := acc.demand node delivery
    rw [relief_cons, ih deliveries]
    omega

theorem leg_nonneg (i j : Nat) : 0 ≤ m.leg i j := Model.leg_nonneg acc.duration acc.service i j

end Accumulates

end Model

namespace Quantity

/-- The bound of a sum that is formed for a vehicle. -/
def bound (m : Model) (vehicle : Nat) : Quantity → Int
  | time => m.timeBound
  | load => m.loadBound vehicle

/-- The sum is neither negative nor above its bound. -/
def Within (q : Quantity) (m : Model) (vehicle : Nat) (n : Int) : Prop :=
  0 ≤ n ∧ n ≤ q.bound m vehicle

end Quantity

/-! ### Step by step -/

section Steps

variable {ε : Type} (hold : Quantity → Int → Except ε Int) (m : Model)

/-- The transit of an arc, summed by a machine that holds sums in its own way. -/
def transitBy (i j : Nat) : Except ε Int := hold .time (m.travel.duration i j + m.serviceAt j)

/-- A time and the transit of an arc, summed by a machine that holds sums in its own way. -/
def reachBy (last : Nat) (time : Int) (node : Nat) : Except ε Int := do
  let transit ← transitBy hold m last node
  hold .time (time + transit)

/-- The transit along a trip, summed by a machine that holds sums in its own way. -/
def costBy (nodes : List Nat) : Except ε Int :=
  (tripArcs nodes).foldlM (fun sum arc => reachBy hold m arc.1 sum arc.2) 0

namespace Schedule

/-- The earliest arrival at a stop, summed by a machine that holds sums in its own way. -/
def arrivalBy (last : Nat) (time : Int) (node : Nat) : Except ε Int := do
  let reached ← reachBy hold m last time node
  .ok ((m.window node).serviceStart reached)

/-- The schedule of the rest of a trip, made by a machine that holds sums in its own way. -/
def walkBy (capacity : Int) (last : Nat) (time load : Int) :
    List Nat → Except ε (Except Obstacle Schedule)
  | [] => do
    let finish ← reachBy hold m last time depot
    .ok (if finish > m.shiftLength then .error .returnsLate else .ok ⟨[], finish, load⟩)
  | node :: rest =>
    if m.numNodes ≤ node then .ok (.error .unknownNode)
    else do
      let load ← hold .load (load + m.demand node)
      if load > capacity then .ok (.error .overloaded)
      else
        let time ← arrivalBy hold m last time node
        if time > (m.window node).closes ∨ time > m.shiftLength then .ok (.error .arrivesLate)
        else
          let rest ← walkBy capacity node time load rest
          .ok (rest.map fun s => { s with arrivals := time :: s.arrivals })

/-- The schedule of a trip, made by a machine that holds sums in its own way. -/
def computeBy (vehicle : Nat) (nodes : List Nat) : Except ε (Except Obstacle Schedule) :=
  if nodes = [] then .ok (.ok empty)
  else if m.numVehicles ≤ vehicle then .ok (.error .unknownVehicle)
  else walkBy hold m (m.capacity vehicle) depot 0 0 nodes

end Schedule

end Steps

section Kept

variable {ε : Type} {hold : Quantity → Int → Except ε Int} {m : Model} {capacity time load : Int}
  {last node vehicle : Nat} {nodes : List Nat}

namespace Schedule

theorem walkBy_nil_of_kept
    (back : reachBy hold m last time depot = .ok (m.keep (time + m.transit last depot))) :
    walkBy hold m capacity last time load [] = .ok (walk m capacity last time load []) := by
  unfold walkBy
  rw [back]
  rfl

/-- A stop is as it should be if its sums are, and so are the stops after it. No time is added above
the capacity, and nothing at all after the end of the shift. -/
theorem walkBy_cons_of_kept
    (loaded : hold .load (load + m.demand node) = .ok (m.keep (load + m.demand node)))
    (reached : reachBy hold m last time node = .ok (m.keep (time + m.transit last node)))
    (rest : m.keep (load + m.demand node) ≤ capacity → arrival m last time node ≤ m.shiftLength →
      walkBy hold m capacity node (arrival m last time node) (m.keep (load + m.demand node)) nodes =
        .ok (walk m capacity node (arrival m last time node) (m.keep (load + m.demand node)) nodes)) :
    walkBy hold m capacity last time load (node :: nodes) =
      .ok (walk m capacity last time load (node :: nodes)) := by
  unfold walkBy walk
  have arrives : arrivalBy hold m last time node = .ok (arrival m last time node) := by
    rw [arrivalBy, reached]
    rfl
  rw [loaded, arrives]
  simp only [bind, Except.bind]
  split_ifs with unknown full late
  · rfl
  · rfl
  · rfl
  · rw [rest (by omega) (by omega)]
    cases walk m capacity node (arrival m last time node) (m.keep (load + m.demand node)) nodes <;> rfl

theorem computeBy_of_walkBy (walks : nodes ≠ [] → vehicle < m.numVehicles →
      walkBy hold m (m.capacity vehicle) depot 0 0 nodes =
        .ok (walk m (m.capacity vehicle) depot 0 0 nodes)) :
    computeBy hold m vehicle nodes = .ok (compute m vehicle nodes) := by
  unfold computeBy compute
  split_ifs with none unknown
  · rfl
  · rfl
  · exact walks none (by omega)

end Schedule

end Kept

/-! ### Sums as the model keeps them, and as they are -/

namespace Schedule

section Models

variable {ε : Type} (hold : Quantity → Int → Except ε Int) (m : Model) (nodes : List Nat)

theorem walkBy_keep (capacity : Int) (last : Nat) (time load : Int) :
    walkBy (fun _ n => .ok (m.keep n)) m capacity last time load nodes =
      (.ok (walk m capacity last time load nodes) : Except ε _) := by
  induction nodes generalizing last time load with
  | nil => exact walkBy_nil_of_kept rfl
  | cons node nodes ih => exact walkBy_cons_of_kept rfl rfl fun _ _ => ih ..

/-- **Kept as the model keeps them, the sums lead to its schedule.** -/
theorem computeBy_keep (vehicle : Nat) :
    computeBy (fun _ n => .ok (m.keep n)) m vehicle nodes =
      (.ok (compute m vehicle nodes) : Except ε _) :=
  computeBy_of_walkBy fun _ _ => walkBy_keep m nodes ..

/-- A machine that holds sums in its own way does not ask for the integers of the model. -/
theorem walkBy_model_exact (capacity : Int) (last : Nat) (time load : Int) :
    walkBy hold m.exact capacity last time load nodes =
      walkBy hold m capacity last time load nodes := by
  induction nodes generalizing last time load with
  | nil => rfl
  | cons node nodes ih =>
    unfold walkBy
    simp only [ih]
    rfl

/-- **Held as they are, the sums lead to the schedule in integers without a bound.** -/
theorem computeBy_exact (vehicle : Nat) :
    computeBy (fun _ => .ok) m vehicle nodes = (.ok (compute m.exact vehicle nodes) : Except ε _) := by
  rw [← computeBy_keep m.exact nodes vehicle]
  unfold computeBy
  rw [walkBy_model_exact]
  rfl

end Models

end Schedule

theorem tripCost_exact (m : Model) (nodes : List Nat) :
    tripCost m.exact nodes = transitFrom m depot nodes :=
  tripCost_eq_keep m.exact nodes

theorem tripCost_exact_eq_foldl (m : Model) (nodes : List Nat) : tripCost m.exact nodes =
    (tripArcs nodes).foldl (fun sum arc => sum + m.leg arc.1 arc.2) 0 := by
  rw [tripCost, Model.keep_exact, List.sum_eq_foldl, List.foldl_map]
  rfl

/-- **Held as they are, the sums lead to the cost in integers without a bound.** -/
theorem costBy_exact {ε : Type} (m : Model) (nodes : List Nat) :
    costBy (fun _ => .ok) m nodes = (.ok (tripCost m.exact nodes) : Except ε _) := by
  rw [tripCost_exact_eq_foldl]
  exact foldlM_eq_ok_foldl (fun _ _ => True) (fun _ _ _ _ => ⟨rfl, trivial⟩) trivial

/-! ### Checking -/

/-- The number, provided that the model keeps it as it is. -/
def Model.check (m : Model) (n : Int) : Except Unit Int := if m.Holds n then .ok n else .error ()

namespace Schedule

section More

variable {ε : Type} {hold hold' : Quantity → Int → Except ε Int} {m : Model}
  {capacity time load sum : Int} {last node vehicle : Nat} {nodes : List Nat}
  {result : Except Obstacle Schedule}
  (more : ∀ q n k, hold q n = .ok k → hold' q n = .ok k)
include more

theorem reachBy_mono (h : reachBy hold m last time node = .ok sum) :
    reachBy hold' m last time node = .ok sum := by
  unfold reachBy transitBy at h ⊢
  cases leg : hold .time (m.travel.duration last node + m.serviceAt node) with
  | error e => rw [leg] at h; cases h
  | ok transit =>
    rw [leg] at h
    rw [more _ _ _ leg]
    exact more _ _ _ h

/-- A machine that holds more sums than another one comes to the same end, if that comes to one. -/
theorem walkBy_mono (h : walkBy hold m capacity last time load nodes = .ok result) :
    walkBy hold' m capacity last time load nodes = .ok result := by
  induction nodes generalizing last time load result with
  | nil =>
    unfold walkBy at h ⊢
    cases back : reachBy hold m last time depot with
    | error e => rw [back] at h; cases h
    | ok finish =>
      rw [back] at h
      rw [reachBy_mono more back]
      exact h
  | cons node nodes ih =>
    unfold walkBy at h ⊢
    split at h
    · next unknown => rwa [if_pos unknown]
    next known =>
    rw [if_neg known]
    cases loaded : hold .load (load + m.demand node) with
    | error e => rw [loaded] at h; cases h
    | ok load' =>
      rw [loaded] at h
      rw [more _ _ _ loaded]
      simp only [bind, Except.bind] at h ⊢
      split at h
      · next full => rwa [if_pos full]
      next room =>
      rw [if_neg room]
      unfold arrivalBy at h ⊢
      cases reached : reachBy hold m last time node with
      | error e => rw [reached] at h; cases h
      | ok time' =>
        rw [reached] at h
        rw [reachBy_mono more reached]
        simp only [bind, Except.bind] at h ⊢
        split at h
        · next late => rwa [if_pos late]
        next early =>
        rw [if_neg early]
        cases walked : walkBy hold m capacity node ((m.window node).serviceStart time') load' nodes with
        | error e => rw [walked] at h; cases h
        | ok rest =>
          rw [walked] at h
          rw [ih walked]
          exact h

theorem computeBy_mono (h : computeBy hold m vehicle nodes = .ok result) :
    computeBy hold' m vehicle nodes = .ok result := by
  unfold computeBy at h ⊢
  split at h
  · next none => rwa [if_pos none]
  next some =>
  rw [if_neg some]
  split at h
  · next unknown => rwa [if_pos unknown]
  next known =>
  rw [if_neg known]
  exact walkBy_mono more h

end More

variable {m : Model} {vehicle : Nat} {nodes : List Nat} {result : Except Obstacle Schedule}

/-- **Where every sum passes the check, the schedule is that in integers without a bound.** -/
theorem compute_eq_exact (h : computeBy (fun _ => m.check) m vehicle nodes = .ok result) :
    compute m vehicle nodes = compute m.exact vehicle nodes := by
  have held {n k : Int} (checked : m.check n = .ok k) : m.keep n = k ∧ n = k := by
    unfold Model.check at checked
    split at checked
    · next holds =>
      cases checked
      exact ⟨holds, rfl⟩
    · cases checked
  have kept : computeBy (fun _ n => .ok (m.keep n)) m vehicle nodes =
      (.ok result : Except Unit _) :=
    computeBy_mono (fun _ _ _ checked => congrArg Except.ok (held checked).1) h
  have exact : computeBy (fun _ => .ok) m vehicle nodes = (.ok result : Except Unit _) :=
    computeBy_mono (fun _ _ _ checked => congrArg Except.ok (held checked).2) h
  rw [computeBy_keep] at kept
  rw [computeBy_exact] at exact
  rw [Except.ok.inj kept, Except.ok.inj exact]

end Schedule

/-! ### Sums within their bounds -/

/-- What is kept of a time after one more arc, if the sums are kept as they are. -/
theorem Model.keep_reach {m : Model} {time : Int} {last node : Nat} (leg : m.Holds (m.leg last node))
    (sum : m.Holds (time + m.leg last node)) :
    m.keep (time + m.transit last node) = time + m.leg last node := by
  rw [transit, show m.keep (m.leg last node) = _ from leg]
  exact sum

namespace Schedule

section Within

variable {ε : Type} {hold : Quantity → Int → Except ε Int} {m : Model} {early light time load : Int}
  {last node vehicle : Nat} {nodes : List Nat} (forward : ∀ i j, 0 ≤ m.travel.duration i j)
  (single : m.rebate ≤ early)
  (times : ∀ n, -early ≤ n → n ≤ m.timeBound → hold .time n = .ok n ∧ m.Holds n)
  (loads : ∀ n, -light ≤ n → n ≤ m.loadBound vehicle → hold .load n = .ok n ∧ m.Holds n)
include forward single times

theorem reachBy_of_within (since : -early ≤ time + m.leg last node)
    (inShift : time ≤ max m.shiftLength 0) :
    reachBy hold m last time node = .ok (time + m.leg last node) ∧
      m.keep (time + m.transit last node) = time + m.leg last node := by
  have least := Model.neg_rebate_le_leg forward last node
  have most : 0 + m.leg last node ≤ m.timeBound := m.time_le_timeBound (by omega) last node
  obtain ⟨leg, keepsLeg⟩ := times (m.leg last node) (by omega) (by omega)
  obtain ⟨sum, keepsSum⟩ := times _ since (m.time_le_timeBound inShift last node)
  refine ⟨?_, Model.keep_reach keepsLeg keepsSum⟩
  unfold reachBy transitBy
  rw [← Model.leg, leg]
  exact sum

include loads

/-- What has passed every test is at most the length of the shift and the capacity, so that the sums
of the next stop are within the bounds, whatever comes of its own tests. What they may fall short of
zero is left for the stops to come. -/
theorem walkBy_of_within (deliveries : ∀ node ∈ nodes, node ∈ m.deliveries)
    (since : m.rebate * nodes.length ≤ early + time) (inShift : time ≤ max m.shiftLength 0)
    (aboard : m.relief nodes ≤ light + load) (hasRoom : load ≤ max (m.capacity vehicle) 0) :
    walkBy hold m (m.capacity vehicle) last time load nodes =
      .ok (walk m (m.capacity vehicle) last time load nodes) := by
  induction nodes generalizing last time load with
  | nil =>
    have ahead := Model.leg_depot_nonneg forward last
    rw [List.length_nil] at since
    obtain ⟨back, kept⟩ : reachBy hold m last time depot = .ok (time + m.leg last depot) ∧ _ :=
      reachBy_of_within forward single times (by omega) inShift
    exact walkBy_nil_of_kept (back.trans (congrArg Except.ok kept.symm))
  | cons node nodes ih =>
    obtain ⟨delivery, deliveries⟩ := List.forall_mem_cons.mp deliveries
    have least := Model.neg_rebate_le_leg forward last node
    have later := Int.mul_nonneg m.rebate_nonneg (Int.natCast_nonneg nodes.length)
    rw [List.length_cons, Int.natCast_add, Int.mul_add, Int.natCast_one, Int.mul_one] at since
    rw [Model.relief_cons] at aboard
    have lighter := m.relief_nonneg nodes
    have below := Model.load_le_loadBound hasRoom delivery
    obtain ⟨loaded, kept⟩ := loads (load + m.demand node) (by omega) below
    have loadKept : m.keep (load + m.demand node) = load + m.demand node := kept
    obtain ⟨reached, timeKept⟩ : reachBy hold m last time node = .ok (time + m.leg last node) ∧ _ :=
      reachBy_of_within forward single times (by omega) inShift
    have earliest : time + m.leg last node ≤ arrival m last time node :=
      timeKept ▸ Int.le_max_left _ _
    refine walkBy_cons_of_kept (loaded.trans (congrArg Except.ok loadKept.symm))
      (reached.trans (congrArg Except.ok timeKept.symm)) fun room inTime => ?_
    exact ih deliveries (by omega) (by omega) (by omega) (by omega)

omit single times loads in
/-- **Sums outside the bounds play no part.** For a vehicle that does not exist no sums are formed. -/
theorem computeBy_of_within (single : m.rebate ≤ early)
    (times : ∀ n, -early ≤ n → n ≤ m.timeBound → hold .time n = .ok n ∧ m.Holds n)
    (loads : vehicle < m.numVehicles →
      ∀ n, -light ≤ n → n ≤ m.loadBound vehicle → hold .load n = .ok n ∧ m.Holds n)
    (deliveries : ∀ node ∈ nodes, node ∈ m.deliveries) (since : m.rebate * nodes.length ≤ early)
    (aboard : m.relief nodes ≤ light) :
    computeBy hold m vehicle nodes = .ok (compute m vehicle nodes) :=
  computeBy_of_walkBy fun _ here => walkBy_of_within forward single times (loads here) deliveries
    (by omega) (Int.le_max_right _ _) (by omega) (Int.le_max_right _ _)

end Within

/-- **The schedule is that in integers without a bound if the model holds whatever is within the
bounds.** -/
theorem compute_eq_exact_of_within {early light : Int} {m : Model} {vehicle : Nat} {nodes : List Nat}
    (forward : ∀ i j, 0 ≤ m.travel.duration i j) (single : m.rebate ≤ early)
    (times : ∀ n, -early ≤ n → n ≤ m.timeBound → m.Holds n)
    (loads : vehicle < m.numVehicles → ∀ n, -light ≤ n → n ≤ m.loadBound vehicle → m.Holds n)
    (deliveries : ∀ node ∈ nodes, node ∈ m.deliveries) (since : m.rebate * nodes.length ≤ early)
    (aboard : m.relief nodes ≤ light) : compute m vehicle nodes = compute m.exact vehicle nodes := by
  have counted : computeBy (fun _ => .ok) m vehicle nodes =
      (.ok (compute m vehicle nodes) : Except Unit _) :=
    computeBy_of_within forward single (fun n low high => ⟨rfl, times n low high⟩)
      (fun here n low high => ⟨rfl, loads here n low high⟩) deliveries since aboard
  rw [computeBy_exact] at counted
  exact (Except.ok.inj counted).symm

/-- Where nothing negative is added up, all sums that play a part are within the bounds from zero on. -/
theorem computeBy_of_accumulates {ε : Type} {hold : Quantity → Int → Except ε Int} {m : Model}
    {vehicle : Nat} {nodes : List Nat} (acc : m.Accumulates)
    (held : vehicle < m.numVehicles → ∀ q n, Quantity.Within q m vehicle n → hold q n = .ok n)
    (deliveries : ∀ node ∈ nodes, node ∈ m.deliveries) :
    computeBy hold m vehicle nodes = .ok (compute m.exact vehicle nodes) := by
  have counted : computeBy hold m.exact vehicle nodes = .ok (compute m.exact vehicle nodes) := by
    refine computeBy_of_walkBy fun _ here => ?_
    have none : m.exact.rebate = 0 := acc.rebate_eq_zero
    have nothing : m.exact.relief nodes = 0 := acc.relief_eq_zero deliveries
    have times (n : Int) (low : -0 ≤ n) (high : n ≤ m.exact.timeBound) :
        hold .time n = .ok n ∧ m.exact.Holds n := ⟨held here .time n ⟨low, high⟩, rfl⟩
    have loads (n : Int) (low : -0 ≤ n) (high : n ≤ m.exact.loadBound vehicle) :
        hold .load n = .ok n ∧ m.exact.Holds n := ⟨held here .load n ⟨low, high⟩, rfl⟩
    refine walkBy_of_within acc.duration (Int.le_of_eq none) times loads deliveries ?_
      (Int.le_max_right _ _) (Int.le_of_eq nothing) (Int.le_max_right _ _)
    rw [none, Int.zero_mul]
    exact Int.le_refl 0
  unfold computeBy at counted ⊢
  rw [walkBy_model_exact] at counted
  exact counted

/-- A machine that halts at one sum, and holds all others as they are. -/
def haltAt (q : Quantity) (n : Int) : Quantity → Int → Except Unit Int :=
  fun q' n' => if q' = q ∧ n' = n then .error () else .ok n'

/-- The sum is formed on the way to the schedule of a trip, or to the obstacle that it meets. -/
def Forms (m : Model) (vehicle : Nat) (nodes : List Nat) (q : Quantity) (n : Int) : Prop :=
  computeBy (haltAt q n) m vehicle nodes = .error ()

/-- **All sums are within their bounds**, however many stops a trip has and whether it can be run or
not. -/
theorem within_of_forms {m : Model} {vehicle : Nat} {nodes : List Nat} {q : Quantity} {n : Int}
    (acc : m.Accumulates) (deliveries : ∀ node ∈ nodes, node ∈ m.deliveries)
    (h : Forms m vehicle nodes q n) : q.Within m vehicle n := by
  by_contra outside
  have held : ∀ q' n', Quantity.Within q' m vehicle n' → haltAt q n q' n' = .ok n' := by
    intro q' n' within
    refine if_neg ?_
    rintro ⟨rfl, rfl⟩
    exact outside within
  rw [Forms, computeBy_of_accumulates acc (fun _ => held) deliveries] at h
  cases h

end Schedule

/-! ### Costs -/

section Costs

variable {m : Model}

theorem neg_le_transitFrom (forward : ∀ i j, 0 ≤ m.travel.duration i j) (last : Nat)
    (nodes : List Nat) : -(m.rebate * nodes.length) ≤ transitFrom m last nodes := by
  induction nodes generalizing last with
  | nil =>
    rw [transitFrom_nil, List.length_nil]
    have ahead := Model.leg_depot_nonneg forward last
    omega
  | cons node nodes ih =>
    have least := Model.neg_rebate_le_leg forward last node
    have later := ih node
    rw [transitFrom_cons, List.length_cons, Int.natCast_add, Int.mul_add, Int.natCast_one,
      Int.mul_one]
    omega

variable {ε : Type} {hold : Quantity → Int → Except ε Int} {vehicle : Nat} {nodes : List Nat}
  {s : Schedule} (acc : m.Accumulates) (h : Schedule.compute m.exact vehicle nodes = .ok s)
include acc h

theorem tripCost_within : Quantity.time.Within m vehicle (tripCost m.exact nodes) := by
  rw [tripCost_exact]
  refine ⟨transitFrom_nonneg acc.leg_nonneg depot nodes,
    Int.le_trans ?_ m.shiftLength_le_timeBound⟩
  by_cases stops : nodes = []
  · rw [stops, transitFrom_nil, Model.leg_self, Model.serviceAt_depot]
    exact Int.le_max_right _ _
  · have inShift := Schedule.transitFrom_le_shiftLength h stops
    omega

/-- The sum does not exceed the bound when all of the arcs are added to it. -/
def StaysBelow (m : Model) (bound sum : Int) (arcs : List (Nat × Nat)) : Prop :=
  0 ≤ sum ∧ sum + (arcs.map fun arc => m.leg arc.1 arc.2).sum ≤ bound

omit acc h in
theorem StaysBelow.next {bound sum : Int} {arc : Nat × Nat} {arcs : List (Nat × Nat)}
    (forward : ∀ i j, 0 ≤ m.leg i j) (h : StaysBelow m bound sum (arc :: arcs)) :
    m.leg arc.1 arc.2 ≤ bound ∧ sum + m.leg arc.1 arc.2 ≤ bound ∧
      StaysBelow m bound (sum + m.leg arc.1 arc.2) arcs := by
  obtain ⟨since, below⟩ := h
  rw [List.map_cons, List.sum_cons] at below
  have ahead := forward arc.1 arc.2
  have later : 0 ≤ (arcs.map fun arc => m.leg arc.1 arc.2).sum := by
    refine List.sum_nonneg fun transit h => ?_
    obtain ⟨arc, -, rfl⟩ := List.mem_map.mp h
    exact forward arc.1 arc.2
  exact ⟨by omega, by omega, by omega, by omega⟩

/-- **The cost of a trip with a schedule is summed within the bounds.** -/
theorem costBy_of_compute (held : ∀ n, Quantity.time.Within m vehicle n → hold .time n = .ok n) :
    costBy hold m nodes = .ok (tripCost m.exact nodes) := by
  have bounded := (tripCost_within acc h).2
  have whole : StaysBelow m (tripCost m.exact nodes) 0 (tripArcs nodes) := by
    refine ⟨Int.le_refl 0, ?_⟩
    rw [Int.zero_add]
    exact Int.le_refl _
  rw [tripCost_exact_eq_foldl] at whole bounded ⊢
  refine foldlM_eq_ok_foldl (StaysBelow m _) (fun sum arc arcs below => ?_) whole
  have since := below.1
  have ahead := acc.leg_nonneg arc.1 arc.2
  obtain ⟨single, sums, below⟩ := below.next acc.leg_nonneg
  have leg := held (m.leg arc.1 arc.2) ⟨ahead, Int.le_trans single bounded⟩
  have reached := held (sum + m.leg arc.1 arc.2) ⟨by omega, Int.le_trans sums bounded⟩
  refine ⟨?_, below⟩
  unfold reachBy transitBy
  rw [← Model.leg, leg]
  exact reached

end Costs

end DeliveryRouting
