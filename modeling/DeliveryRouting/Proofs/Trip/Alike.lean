import DeliveryRouting.Proofs.Model.Layout
import DeliveryRouting.Proofs.Trip.Timing
import DeliveryRouting.Trip.Solution

/-! # Problems that look alike

What a problem says about staying at a node, about the demand and the priority of the depot and
about when the depot opens is never looked at, and of the priority of a delivery only the penalty
is. Problems that agree on the rest look alike (`Problem.Alike`), and so do their models
(`Model.alike_of_build`): they agree on transits, vehicles and the shift, and on whatever is known of
deliveries.

As a trip stops at deliveries only, its schedule and its transit are the same in models that look
alike (`Model.Alike.compute`, `Model.Alike.tripCost`). -/

namespace DeliveryRouting

/-- The problems agree on all that a plan can depend on. -/
structure Problem.Alike (p p' : Problem) : Prop where
  size : p.durations.length = p'.durations.length
  durations : ∀ i j, i ≠ j → (p.durations.getD i []).getD j 0 = (p'.durations.getD i []).getD j 0
  demands : p.demands.tail = p'.demands.tail
  windows : p.windows.tail = p'.windows.tail
  closing : p.windows.head?.map Window.closes = p'.windows.head?.map Window.closes
  capacities : p.driverCapacities = p'.driverCapacities
  urgency : ∀ node, node ≠ depot →
    ((p.site node).priority ≤ Priority.urgent ↔ (p'.site node).priority ≤ Priority.urgent)

/-- The models agree on all that a search can depend on. -/
structure Model.Alike (m m' : Model) : Prop where
  hasDepot : depot < m.numNodes
  numNodes : m.numNodes = m'.numNodes
  vehicles : m.vehicles = m'.vehicles
  shiftLength : m.shiftLength = m'.shiftLength
  width : m.width = m'.width
  transit : ∀ i j, i < m.numNodes → j < m.numNodes → m.transit i j = m'.transit i j
  demand : ∀ node ∈ m.deliveries, m.demand node = m'.demand node
  window : ∀ node ∈ m.deliveries, m.window node = m'.window node
  dropPenalty : ∀ node ∈ m.deliveries, m.dropPenalty node = m'.dropPenalty node

/-! ### Problems and their models -/

/-- Beyond the first entries two lists with the same tail agree. -/
theorem getD_of_tail_eq {α : Type} {xs ys : List α} (same : xs.tail = ys.tail) {i : Nat}
    (hi : i ≠ 0) (fallback : α) : xs.getD i fallback = ys.getD i fallback := by
  obtain ⟨i, rfl⟩ := Nat.exists_eq_succ_of_ne_zero hi
  have drop (zs : List α) : zs.getD (i + 1) fallback = zs.tail.getD i fallback := by
    rw [List.getD_eq_getElem?_getD, List.getD_eq_getElem?_getD, List.getElem?_tail]
  rw [drop, drop, same]

namespace Problem.Alike

variable {p p' : Problem} (h : p.Alike p')
include h

theorem transit (service : Int) (i j : Nat) : p.transit service i j = p'.transit service i j := by
  unfold Problem.transit
  by_cases hij : i = j
  · rw [if_pos hij, if_pos hij]
  · rw [if_neg hij, if_neg hij, h.durations i j hij]

theorem shiftLength : p.shiftLength = p'.shiftLength := by
  rw [Problem.shiftLength, Problem.shiftLength, h.closing]

/-- Of a delivery the problems say the same, but for how urgent or not it is. -/
theorem site {node : Nat} (delivery : node ≠ depot) :
    (p.site node).demand = (p'.site node).demand ∧ (p.site node).window = (p'.site node).window ∧
      Priority.dropPenalty (p.site node).priority =
        Priority.dropPenalty (p'.site node).priority := by
  refine ⟨getD_of_tail_eq h.demands delivery 0, ?_, ?_⟩
  · rw [Problem.site, Problem.site, if_neg delivery, if_neg delivery]
    exact getD_of_tail_eq h.windows delivery default
  · unfold Priority.dropPenalty
    exact if_congr (h.urgency node delivery) rfl rfl

end Problem.Alike

/-- **Problems that look alike have models that look alike.** -/
theorem Model.alike_of_build {p p' : Problem} {trips : Nat} {service : Int} {width : Width}
    {m m' : Model} (h : p.Alike p') (several : 0 < p.durations.length)
    (fits : Model.build p trips service width = .ok m)
    (fits' : Model.build p' trips service width = .ok m') : m.Alike m' := by
  have size : m.numNodes = m'.numNodes := by
    rw [numNodes_of_build fits, numNodes_of_build fits', h.size]
  have site {node : Nat} (hn : node ∈ m.deliveries) :
      node ≠ depot ∧ m.site node = p.site node ∧ m'.site node = p'.site node := by
    obtain ⟨delivery, known⟩ := m.mem_deliveries.mp hn
    exact ⟨delivery, site_of_build fits known, site_of_build fits' (size ▸ known)⟩
  refine ⟨?hasDepot, size, ?vehicles, ?shift, ?width, fun i j hi hj => ?transit, fun node hn => ?demand,
    fun node hn => ?window, fun node hn => ?penalty⟩
  case hasDepot =>
    rw [numNodes_of_build fits]
    exact several
  case vehicles =>
    rw [(build_eq_ok_iff.mp fits).2.2, (build_eq_ok_iff.mp fits').2.2]
    simp only [layout, Problem.vehicles, h.capacities]
  case shift => rw [shiftLength_of_build fits, shiftLength_of_build fits', h.shiftLength]
  case width => rw [width_of_build fits, width_of_build fits']
  case transit =>
    rw [transit, transit, leg_of_build fits hi hj, leg_of_build fits' (size ▸ hi) (size ▸ hj),
      h.transit, keep, keep, width_of_build fits, width_of_build fits']
  case demand =>
    obtain ⟨delivery, here, there⟩ := site hn
    rw [Model.demand, Model.demand, here, there, (h.site delivery).1]
  case window =>
    obtain ⟨delivery, here, there⟩ := site hn
    rw [Model.window, Model.window, here, there, (h.site delivery).2.1]
  case penalty =>
    obtain ⟨delivery, here, there⟩ := site hn
    rw [Model.dropPenalty, Model.dropPenalty, here, there, (h.site delivery).2.2]

/-! ### Trips -/

namespace Model.Alike

variable {m m' : Model} (h : m.Alike m') {nodes : List Nat}
include h

theorem numVehicles : m.numVehicles = m'.numVehicles := by
  rw [Model.numVehicles, Model.numVehicles, h.vehicles]

theorem capacity (vehicle : Nat) : m.capacity vehicle = m'.capacity vehicle := by
  rw [Model.capacity, Model.capacity, h.vehicles]

theorem keep (n : Int) : m.keep n = m'.keep n := by rw [Model.keep, Model.keep, h.width]

theorem walk {last : Nat} (hlast : last < m.numNodes) (stops : ∀ node ∈ nodes, node ∈ m.deliveries)
    (capacity time load : Int) :
    Schedule.walk m capacity last time load nodes = Schedule.walk m' capacity last time load nodes := by
  induction nodes generalizing last time load with
  | nil => simp only [Schedule.walk, h.transit last depot hlast h.hasDepot, h.shiftLength, h.keep]
  | cons node rest ih =>
    obtain ⟨hnode, hrest⟩ := List.forall_mem_cons.mp stops
    have known : node < m.numNodes := (m.mem_deliveries.mp hnode).2
    have arrival : Schedule.arrival m last time node = Schedule.arrival m' last time node := by
      rw [Schedule.arrival, Schedule.arrival, h.window node hnode, h.transit last node hlast known,
        h.keep]
    simp only [Schedule.walk, h.numNodes, h.demand node hnode, h.window node hnode, h.shiftLength,
      h.keep, arrival, ih known hrest]

theorem compute (stops : ∀ node ∈ nodes, node ∈ m.deliveries) (vehicle : Nat) :
    Schedule.compute m vehicle nodes = Schedule.compute m' vehicle nodes := by
  unfold Schedule.compute
  rw [h.numVehicles, h.capacity, h.walk h.hasDepot stops]

theorem tripCost (known : ∀ node ∈ nodes, node < m.numNodes) :
    DeliveryRouting.tripCost m nodes = DeliveryRouting.tripCost m' nodes := by
  have transits : ∀ arc ∈ tripArcs nodes, m.transit arc.1 arc.2 = m'.transit arc.1 arc.2 := by
    intro arc harc
    obtain ⟨hi, hj⟩ := lt_of_mem_tripArcs known harc
    exact h.transit arc.1 arc.2 hi hj
  rw [DeliveryRouting.tripCost, DeliveryRouting.tripCost, h.keep]
  exact congrArg (fun costs => m'.keep costs.sum) (List.map_congr_left transits)

theorem replaceTrip (known : ∀ node ∈ nodes, node < m.numNodes) (s : Solution) (vehicle : Nat)
    (schedule : Schedule) :
    s.replaceTrip m vehicle nodes schedule = s.replaceTrip m' vehicle nodes schedule := by
  unfold Solution.replaceTrip
  rw [h.tripCost known]

end Model.Alike

end DeliveryRouting
