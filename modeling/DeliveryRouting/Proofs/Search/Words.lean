import DeliveryRouting.Proofs.Search.AlikeMoves
import DeliveryRouting.Proofs.Time.Words
import DeliveryRouting.Proofs.Trip.Sums

/-! # Search: counting trips in machine words

A search computes schedules of many trips, most of which cannot be run, and takes the cost of those
that can: when it looks for an insertion, makes one, or makes a move. Here these steps are taken by a
machine that counts in words. Nothing is asked of it but that it holds a number that fits a word
(`Clock.Faithful`): it may stop at any other number, or wrap around.

The sums of a trip have bounds that do not depend on how many stops it has (`Quantity.bound`). If they
fit a word, such a machine takes each of these steps as it is taken in integers without a bound, from
every solution that a search can come to, and the model itself computes the same schedules and costs
(`trips_counted_in_words`). -/

namespace DeliveryRouting

open Clock (Fits)

/-- The machine holds every number that fits a word as it is. -/
def Clock.Faithful {ε : Type} (word : Int → Except ε Int) : Prop := ∀ n, Fits n → word n = .ok n

theorem Clock.faithful_check : Faithful check := fun _ => check_of_fits

theorem Clock.faithful_keep (m : Model) :
    Faithful fun n => (.ok (m.keep n) : Except Unit Int) := by
  intro n fits
  refine congrArg Except.ok ?_
  cases h : m.width with
  | word =>
    rw [Model.keep, h]
    exact Width.holds_word_iff.mpr fits
  | unbounded => rw [Model.keep, h, Width.keep_unbounded]

theorem Clock.faithful_wrap : Faithful fun n => (.ok (wrap n) : Except Unit Int) :=
  fun _ fits => congrArg Except.ok (wrap_eq_self fits)

/-! ### Step by step -/

namespace Solution

section Steps

variable {ε : Type} (word : Int → Except ε Int) (m : Model) (s : Solution)

/-- The insertion at one place, found by a machine that holds numbers in its own way. -/
def insertionAtBy (node vehicle position : Nat) : Except ε (Option Insertion) := do
  let nodes := splice (s.nodes vehicle) position [node]
  match ← Schedule.computeBy (fun _ => word) m vehicle nodes with
  | .ok _ =>
    let cost ← costBy (fun _ => word) m nodes
    let detour ← word (cost - (s.trip vehicle).cost)
    .ok (some ⟨node, vehicle, position, detour⟩)
  | .error _ => .ok none

/-- The solution in which a vehicle has got another trip, made by a machine that holds numbers in its
own way. -/
def replaceTripBy (vehicle : Nat) (nodes : List Nat) (schedule : Schedule) : Except ε Solution := do
  let cost ← costBy (fun _ => word) m nodes
  .ok {
    trips := s.trips.set vehicle ⟨nodes, schedule, cost⟩
    servedBy := claim vehicle (release vehicle s.servedBy (s.nodes vehicle)) nodes }

/-- Another trip for a vehicle, if it can run it, by a machine that holds numbers in its own way. -/
def rerouteBy (vehicle : Nat) (nodes : List Nat) : Except ε (Except Obstacle Solution) :=
  if s.trips.length ≤ vehicle then .ok (.error .unknownVehicle)
  else do
    match ← Schedule.computeBy (fun _ => word) m vehicle nodes with
    | .ok schedule =>
      let s' ← s.replaceTripBy word m vehicle nodes schedule
      .ok (.ok s')
    | .error obstacle => .ok (.error obstacle)

/-- The solution after an insertion, made by a machine that holds numbers in its own way. -/
def insertBy (node vehicle position : Nat) : Except ε (Except Obstacle Solution) :=
  if s.trips.length ≤ vehicle then .ok (.error .unknownVehicle)
  else if (s.nodes vehicle).length < position then .ok (.error .positionOutOfRange)
  else s.rerouteBy word m vehicle (splice (s.nodes vehicle) position [node])

/-- The solution after a move, made by a machine that holds numbers in its own way. -/
def applyBy (e : EvaluatedMove) : Except ε Solution :=
  e.changes.foldlM (fun s c => s.replaceTripBy word m c.1.vehicle c.1.nodes c.2) s

end Steps

/-! ### Within words -/

section Words

variable {ε : Type} {word : Int → Except ε Int} {m : Model} {s : Solution}
  {node vehicle position : Nat} {nodes : List Nat} {schedule : Schedule}
  (faithful : Clock.Faithful word) (acc : m.Accumulates) (time : Fits m.timeBound)

include faithful time

theorem word_of_time {n : Int} (h : Quantity.time.Within m vehicle n) : word n = .ok n := by
  obtain ⟨since, below⟩ : 0 ≤ n ∧ n ≤ m.timeBound := h
  refine faithful n ?_
  unfold Fits at time ⊢
  omega

theorem word_of_detour {n n' : Int} (h : Quantity.time.Within m vehicle n)
    (h' : Quantity.time.Within m vehicle n') : word (n - n') = .ok (n - n') := by
  obtain ⟨since, below⟩ : 0 ≤ n ∧ n ≤ m.timeBound := h
  obtain ⟨since', below'⟩ : 0 ≤ n' ∧ n' ≤ m.timeBound := h'
  refine faithful _ ?_
  unfold Fits at time ⊢
  omega

theorem word_of_within (load : Fits (m.loadBound vehicle)) (q : Quantity) (n : Int)
    (h : q.Within m vehicle n) : word n = .ok n := by
  cases q with
  | time => exact word_of_time faithful time h
  | load =>
    obtain ⟨since, below⟩ : 0 ≤ n ∧ n ≤ m.loadBound vehicle := h
    refine faithful n ?_
    unfold Fits at load ⊢
    omega

include acc

/-- **Every trip over deliveries is tested as it should be**, whether it can be run or not. -/
theorem computeBy_of_faithful (load : vehicle < m.numVehicles → Fits (m.loadBound vehicle))
    (deliveries : ∀ node ∈ nodes, node ∈ m.deliveries) :
    Schedule.computeBy (fun _ => word) m vehicle nodes =
      .ok (Schedule.compute m.exact vehicle nodes) :=
  Schedule.computeBy_of_accumulates acc (fun here => word_of_within faithful time (load here))
    deliveries

theorem costBy_of_faithful (h : Schedule.compute m.exact vehicle nodes = .ok schedule) :
    costBy (fun _ => word) m nodes = .ok (tripCost m.exact nodes) :=
  costBy_of_compute acc h (fun _ => word_of_time faithful time)

omit faithful in
/-- **The model itself computes what it would in integers without a bound.** -/
theorem compute_of_fits (load : vehicle < m.numVehicles → Fits (m.loadBound vehicle))
    (deliveries : ∀ node ∈ nodes, node ∈ m.deliveries) :
    Schedule.compute m vehicle nodes = Schedule.compute m.exact vehicle nodes ∧
      ∀ s, Schedule.compute m vehicle nodes = .ok s → tripCost m nodes = tripCost m.exact nodes := by
  have kept := computeBy_of_faithful (Clock.faithful_keep m) acc time load deliveries
  rw [Schedule.computeBy_keep] at kept
  have same := Except.ok.inj kept
  refine ⟨same, fun s computed => ?_⟩
  have within := tripCost_within acc (same ▸ computed)
  rw [tripCost_exact] at within ⊢
  rw [tripCost_eq_keep]
  exact Except.ok.inj (word_of_time (Clock.faithful_keep m) time within)

theorem replaceTripBy_of_faithful (h : Schedule.compute m.exact vehicle nodes = .ok schedule) :
    s.replaceTripBy word m vehicle nodes schedule =
      .ok (s.replaceTrip m.exact vehicle nodes schedule) := by
  rw [replaceTripBy, costBy_of_faithful faithful acc time h]
  rfl

theorem applyBy_of_faithful {e : EvaluatedMove}
    (computed : ∀ c ∈ e.changes, Schedule.compute m.exact c.1.vehicle c.1.nodes = .ok c.2) :
    s.applyBy word m e = .ok (e.apply m.exact s) := by
  refine foldlM_eq_ok_foldl
    (fun _ changes => ∀ c ∈ changes, Schedule.compute m.exact c.1.vehicle c.1.nodes = .ok c.2)
    (fun s c changes computed => ?_) computed
  obtain ⟨here, later⟩ := List.forall_mem_cons.mp computed
  exact ⟨replaceTripBy_of_faithful faithful acc time here, later⟩

section Insertions

variable (hs : s.Consistent m.exact) (load : vehicle < m.numVehicles → Fits (m.loadBound vehicle))
  (delivery : node ∈ m.deliveries)
include hs load delivery

/-- A detour may be negative, but it is the difference of two costs within the bound. -/
theorem insertionAtBy_of_faithful : s.insertionAtBy word m node vehicle position =
    .ok (s.insertionAt? m.exact node vehicle position) := by
  have deliveries := hs.deliveries_splice delivery vehicle position
  unfold insertionAtBy insertionAt?
  dsimp only
  rw [computeBy_of_faithful faithful acc time load deliveries]
  cases computed : Schedule.compute m.exact vehicle (splice (s.nodes vehicle) position [node]) with
  | error obstacle => rfl
  | ok schedule =>
    have before := tripCost_within acc (hs.compute_nodes vehicle)
    have after := tripCost_within acc computed
    rw [← hs.cost_trip vehicle] at before
    have detour := word_of_detour faithful time after before
    simp only [bind, Except.bind, costBy_of_faithful faithful acc time computed, detour,
      Model.keep_exact]

theorem insertBy_of_faithful : s.insertBy word m node vehicle position =
    .ok (s.insert m.exact node vehicle position) := by
  have deliveries := hs.deliveries_splice delivery vehicle position
  unfold insertBy insert rerouteBy reroute
  split_ifs with unknown beyond
  · rfl
  · rfl
  · rw [computeBy_of_faithful faithful acc time load deliveries]
    cases computed : Schedule.compute m.exact vehicle (splice (s.nodes vehicle) position [node]) with
    | error obstacle => rfl
    | ok schedule =>
      simp only [bind, Except.bind, replaceTripBy_of_faithful faithful acc time computed]

end Insertions

end Words

end Solution

/-! ### The theorem -/

open Solution

/-- **Trips are counted within bounds that do not depend on their length.** Where service takes no
negative time and deliveries no negative load, every time that is summed for the schedule of a trip over
deliveries is at most the length of the shift, the longest duration and the time of service together,
and every load at most the capacity and the largest demand, whether the trip can be run or not. A trip
that can be run costs no more than passes until its vehicle is back, which is before the shift ends.
All this is said in integers without a bound.

So if the bounds fit a word, the model finds the same schedules of all trips over deliveries, and the
same costs of all that can be run; and so does any machine that counts in words. From every solution
that a search can come to it finds and makes the insertions of dropped deliveries as they should be,
tests the trips of every generated move, and makes the move if they can be run, whatever it is priced
at. -/
theorem trips_counted_in_words {p : Problem} {trips : Nat} {service : Int} {width : Width} {m : Model}
    (fits : Model.build p trips service width = .ok m) (lasts : 0 ≤ service)
    (takesUp : ∀ node ∈ m.deliveries, 0 ≤ m.demand node) :
    (∀ vehicle nodes, Schedule.computeBy (fun _ => .ok) m vehicle nodes =
        (.ok (Schedule.compute m.exact vehicle nodes) : Except Unit _) ∧
      costBy (fun _ => .ok) m nodes = (.ok (tripCost m.exact nodes) : Except Unit _)) ∧
    (∀ vehicle nodes, (∀ node ∈ nodes, node ∈ m.deliveries) → ∀ n,
      (Schedule.Forms m vehicle nodes .time n → 0 ≤ n ∧ n ≤ m.timeBound) ∧
      (Schedule.Forms m vehicle nodes .load n → 0 ≤ n ∧ n ≤ m.loadBound vehicle)) ∧
    (∀ vehicle nodes s, nodes ≠ [] → Schedule.compute m.exact vehicle nodes = .ok s →
      tripCost m.exact nodes ≤ s.finish ∧ s.finish ≤ m.shiftLength) ∧
    (Fits m.timeBound → (∀ vehicle < m.numVehicles, Fits (m.loadBound vehicle)) →
      ∀ vehicle nodes, (∀ node ∈ nodes, node ∈ m.deliveries) →
        Schedule.compute m vehicle nodes = Schedule.compute m.exact vehicle nodes ∧
        ∀ s, Schedule.compute m vehicle nodes = .ok s → tripCost m nodes = tripCost m.exact nodes) ∧
    ∀ (ε : Type) (word : Int → Except ε Int), Clock.Faithful word → Fits m.timeBound →
      (∀ vehicle < m.numVehicles, Fits (m.loadBound vehicle)) →
      (∀ vehicle nodes, (∀ node ∈ nodes, node ∈ m.deliveries) →
        Schedule.computeBy (fun _ => word) m vehicle nodes =
          .ok (Schedule.compute m.exact vehicle nodes) ∧
        ∀ s, Schedule.compute m.exact vehicle nodes = .ok s →
          costBy (fun _ => word) m nodes = .ok (tripCost m.exact nodes)) ∧
      ∀ s, Reachable m.exact s →
        (∀ node ∈ s.dropped, ∀ vehicle position,
          s.insertionAtBy word m node vehicle position =
            .ok (s.insertionAt? m.exact node vehicle position) ∧
          s.insertBy word m node vehicle position = .ok (s.insert m.exact node vehicle position)) ∧
        ∀ operator : Operator, ∀ move ∈ operator.moves m.exact s,
          (∀ change ∈ move.changes s,
            Schedule.computeBy (fun _ => word) m change.vehicle change.nodes =
              .ok (Schedule.compute m.exact change.vehicle change.nodes)) ∧
          ∀ changes, move.schedules? m.exact s = some changes → ∀ price,
            s.applyBy word m ⟨changes, price⟩ =
              .ok (EvaluatedMove.apply m.exact s ⟨changes, price⟩) := by
  have acc := Model.accumulates_of_build fits lasts takesUp
  refine ⟨fun vehicle nodes => ⟨Schedule.computeBy_exact m nodes vehicle, costBy_exact m nodes⟩,
    fun vehicle nodes deliveries n => ⟨fun h => ?time, fun h => ?load⟩,
    fun vehicle nodes s stops h => ⟨?cost, Schedule.finish_le_shiftLength (m := m.exact) h stops⟩,
    fun time load vehicle nodes deliveries => ?model,
    fun ε word faithful time load => ⟨fun vehicle nodes deliveries => ⟨?schedules, ?costs⟩,
      fun s reachable => ⟨fun node dropped vehicle position => ?insertions,
        fun operator move generated => ⟨fun change hc => ?tests, fun changes runs price => ?moves⟩⟩⟩⟩
  case time => exact Schedule.within_of_forms acc deliveries h
  case load => exact Schedule.within_of_forms acc deliveries h
  case cost =>
    rw [tripCost_exact]
    exact Schedule.transitFrom_le_finish_of_compute h stops
  case model => exact compute_of_fits acc time (load vehicle) deliveries
  case schedules => exact computeBy_of_faithful faithful acc time (load vehicle) deliveries
  case costs => exact fun s h => costBy_of_faithful faithful acc time h
  case insertions =>
    have hs := reachable.consistent
    have delivery := hs.mem_deliveries_of_mem_dropped dropped
    exact ⟨insertionAtBy_of_faithful faithful acc time hs (load vehicle) delivery,
      insertBy_of_faithful faithful acc time hs (load vehicle) delivery⟩
  case tests =>
    obtain ⟨deliveries, -⟩ :=
      (Operator.candidate_of_mem_moves generated).deliveries reachable.consistent
    exact computeBy_of_faithful faithful acc time (load change.vehicle) (deliveries change hc)
  case moves =>
    have computed := (Move.schedules?_eq_some_iff.mp runs).2
    exact applyBy_of_faithful faithful acc time computed

/-- A vehicle of the small problem holds five. A sixth stop takes the load to its bound, and the trip
has no schedule. A machine that checks its numbers finds just that. It also finds the first insertion
of all, and makes the move that puts both deliveries on one trip; and one that wraps around finds the
schedule of that trip. -/
theorem trips_counted_in_words_pairModel :
    (Model.build pairProblem 2 10 = .ok pairModel ∧
      ∀ node ∈ pairModel.deliveries, 0 ≤ pairModel.demand node) ∧
    (Schedule.Forms pairModel 0 [1, 1, 1, 1, 1, 1] .load 6 ∧ 6 ≤ pairModel.loadBound 0) ∧
    (Schedule.Forms pairModel 0 [1, 2] .time 120 ∧ 120 ≤ pairModel.timeBound) ∧
    tripCost pairModel.exact [1, 2] ≤ 120 ∧
    (∀ s, Schedule.compute pairModel 0 [1, 2] = .ok s →
      tripCost pairModel [1, 2] = tripCost pairModel.exact [1, 2]) ∧
    Schedule.computeBy (fun _ => Clock.check) pairModel 0 [1, 1, 1, 1, 1, 1] =
      .ok (.error .overloaded) ∧
    Schedule.computeBy (fun _ n => .ok (Clock.wrap n)) pairModel 0 [1, 2] =
      (.ok (.ok ⟨[20, 100], 120, 2⟩) : Except Unit _) ∧
    (empty pairModel).insertionAtBy Clock.check pairModel 1 0 0 = .ok (some ⟨1, 0, 0, 30⟩) ∧
    pairApart.applyBy Clock.check pairModel
      ⟨[(⟨1, []⟩, Schedule.empty), (⟨0, [1, 2]⟩, ⟨[20, 100], 120, 2⟩)], 0⟩ = .ok pairTour := by
  have takesUp : ∀ node ∈ pairModel.deliveries, 0 ≤ pairModel.demand node := by decide
  obtain ⟨-, bounds, costs, model, words⟩ :=
    trips_counted_in_words build_pairProblem (by decide : (0 : Int) ≤ 10) takesUp
  have full : Schedule.Forms pairModel 0 [1, 1, 1, 1, 1, 1] .load 6 := rfl
  have back : Schedule.Forms pairModel 0 [1, 2] .time 120 := rfl
  have computed : Schedule.compute pairModel.exact 0 [1, 2] = .ok ⟨[20, 100], 120, 2⟩ := rfl
  have time : Fits pairModel.timeBound := by decide
  have load : ∀ vehicle < pairModel.numVehicles, Fits (pairModel.loadBound vehicle) := by decide
  obtain ⟨checked, searches⟩ := words _ Clock.check Clock.faithful_check time load
  obtain ⟨wrapped, -⟩ := words _ _ Clock.faithful_wrap time load
  have generated : .relocate 1 0 0 1 ∈ Operator.relocate.moves pairModel.exact pairApart := by decide
  have runs : (Move.relocate 1 0 0 1).schedules? pairModel.exact pairApart =
      some [(⟨1, []⟩, Schedule.empty), (⟨0, [1, 2]⟩, ⟨[20, 100], 120, 2⟩)] := rfl
  have inserted := ((searches _ .empty).1 1 (by decide) 0 0).1
  have reachable : Reachable pairModel.exact pairApart :=
    .step (.step .empty (@Step.insert pairModel.exact _ 1 0 0 (by decide)))
      (@Step.insert pairModel.exact _ 2 1 0 (by decide))
  have moved := ((searches _ reachable).2 .relocate _ generated).2 _ runs 0
  exact ⟨⟨build_pairProblem, takesUp⟩,
    ⟨full, ((bounds 0 [1, 1, 1, 1, 1, 1] (by decide) 6).2 full).2⟩,
    ⟨back, ((bounds 0 [1, 2] (by decide) 120).1 back).2⟩,
    (costs 0 [1, 2] _ (by decide) computed).1, (model time load 0 [1, 2] (by decide)).2,
    (checked 0 _ (by decide)).1, (wrapped 0 [1, 2] (by decide)).1, inserted, moved⟩

end DeliveryRouting
