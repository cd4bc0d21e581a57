import DeliveryRouting.Dispatch.Plan
import DeliveryRouting.Proofs.Dispatch.Grouping
import DeliveryRouting.Proofs.Search.Executable
import Mathlib.Data.List.Perm.Subperm

/-! # Dispatch: who delivers what

A response hands each delivery of the request to one trip, or to none. On the way the deliveries go
through three numberings: a delivery is a node of the drafted problem, a driver is as many vehicles
of the model as trips are allowed, and the assembly undoes both. `Response.Attribution` says what
has to come out, without any of the numberings: the trips are shared out among the drivers, and the
deliveries among the trips, so that each driver can hold what the trips carry, as far as it is kept.

* `Response.assemble_attribution`: the assembly of an outcome that accounts for all deliveries.
* `plan_attribution`: the response to a request.
* `plan_bulkRequest`: a trip that carries too much, as its load wraps around. -/

namespace DeliveryRouting

namespace Request

/-- The capacity of the driver with an index, if there is one. -/
def capacityOf? (r : Request) (driver : Nat) : Option Int :=
  match r.capacities with
  | some capacities => capacities[driver]?
  | none => some r.capacity

/-- The driver with an index can hold what is kept of the demands, and so all that they come to unless
something is lost. -/
def CanHold (r : Request) (width : Width) (driver : Nat) (demands : List Int) : Prop :=
  ∃ capacity, r.capacityOf? driver = some capacity ∧ width.keep demands.sum ≤ capacity ∧
    (width.Holds demands.sum → demands.sum ≤ capacity)

/-- The delivery that a node stands for, in case it stands for one. -/
def deliveryAt (r : Request) (node : Nat) : Delivery := (r.delivery? node).getD default

theorem deliveryAt_of_eq {r : Request} {node : Nat} {d : Delivery} (h : r.delivery? node = some d) :
    r.deliveryAt node = d := by
  rw [deliveryAt, h, Option.getD_some]

theorem delivery?_of_le (r : Request) {node : Nat} (h : 1 ≤ node ∧ node ≤ r.deliveries.length) :
    r.delivery? node = some (r.deliveryAt node) ∧
      r.deliveries[node - 1]? = some (r.deliveryAt node) := by
  obtain ⟨i, rfl⟩ : ∃ i, node = i + 1 := ⟨node - 1, by omega⟩
  have found : r.delivery? (i + 1) = some r.deliveries[i] := List.getElem?_eq_getElem (by omega)
  rw [deliveryAt_of_eq found]
  exact ⟨found, found⟩

theorem map_deliveryAt (r : Request) :
    (List.range' 1 r.deliveries.length).map r.deliveryAt = r.deliveries := by
  refine List.ext_getElem (by simp) fun i hi hi' => ?_
  rw [List.getElem_map, List.getElem_range', Nat.one_mul, Nat.add_comm]
  refine deliveryAt_of_eq ?_
  exact List.getElem?_eq_getElem hi'

end Request

namespace Response

/-- A trip with the deliveries it serves. -/
structure Tour where
  trip : Trip
  deliveries : List Delivery

/-- The trips of the driver with an index. -/
structure Share where
  driver : Nat
  tours : List Tour

/-- A driver makes the stops of a trip at its deliveries, and can hold what is kept of them. -/
structure Tour.Fits (r : Request) (width : Width) (driver : Nat) (t : Tour) : Prop where
  driver_eq : r.drivers[driver]? = some t.trip.driver
  ids_eq : t.trip.stops.map Stop.id = t.deliveries.map Delivery.id
  places_eq : t.trip.stops.map Stop.place = t.deliveries.map Delivery.place
  capacity : r.CanHold width driver (t.deliveries.map Delivery.demand)

/-- The trips of a driver, who runs at most `trips` of them, at least one, are counted from one. -/
structure Share.Fits (r : Request) (width : Width) (trips : Nat) (s : Share) : Prop where
  tours_fit : ∀ t ∈ s.tours, t.Fits r width s.driver
  length_le : s.tours.length ≤ max trips 1
  numbers_eq : s.tours.map (·.trip.number) = List.range' 1 s.tours.length

/-- The trips of a response are the shares of different drivers, one after the other. Together with
what is left their deliveries are those of the request. -/
structure Attribution (r : Request) (width : Width) (trips : Nat) (response : Response)
    (shares : List Share) (left : List Delivery) : Prop where
  trips_eq : response.trips = shares.flatMap fun s => s.tours.map Tour.trip
  drivers_nodup : (shares.map Share.driver).Nodup
  shares_fit : ∀ s ∈ shares, s.Fits r width trips
  unserved_eq : response.unserved = left.map Delivery.id
  perm : ((shares.flatMap fun s => s.tours.flatMap Tour.deliveries) ++ left).Perm r.deliveries

variable {r : Request} {width : Width} {trips : Nat} {response : Response} {shares : List Share}
  {left : List Delivery}

theorem Attribution.perm_ids (h : Attribution r width trips response shares left) :
    (response.trips.flatMap (fun t => t.stops.map Stop.id) ++ response.unserved).Perm
      (r.deliveries.map Delivery.id) := by
  have ids : response.trips.flatMap (fun t => t.stops.map Stop.id) =
      (shares.flatMap fun s => s.tours.flatMap Tour.deliveries).map Delivery.id := by
    rw [h.trips_eq, List.flatMap_assoc, List.map_flatMap]
    refine List.flatMap_congr fun s hs => ?_
    rw [List.flatMap_map, List.map_flatMap]
    exact List.flatMap_congr fun t ht => ((h.shares_fit s hs).tours_fit t ht).ids_eq
  rw [ids, h.unserved_eq, ← List.map_append]
  exact h.perm.map Delivery.id

/-! ### Routes of a request -/

theorem stop_eq_ok_iff {s : OutcomeStop} {order : Nat} {stop : Stop} :
    Response.stop r s order = .ok stop ↔ ∃ d arrival, r.delivery? s.node = some d ∧
      Clock.ofSeconds s.arrival r.shiftStart = .ok arrival ∧
        stop = ⟨order, d.id, d.place, arrival⟩ := by
  unfold Response.stop
  cases r.delivery? s.node with
  | none => simp
  | some d =>
    cases Clock.ofSeconds s.arrival r.shiftStart with
    | error e => simp [bind, Except.bind, Except.mapError]
    | ok arrival => simp [bind, Except.bind, Except.mapError, pure, Except.pure, eq_comm]

theorem of_stops_eq_ok {route : OutcomeRoute} {stops : List Stop}
    (h : Response.stops r route = .ok stops) :
    stops.map Stop.id = (route.nodes.map r.deliveryAt).map Delivery.id ∧
      stops.map Stop.place = (route.nodes.map r.deliveryAt).map Delivery.place := by
  obtain ⟨g, rfl, hg⟩ := exists_map_of_mapM_eq_ok h
  have nodes : route.nodes = (route.stops.zipIdx 1).map fun x => x.1.node := by
    rw [OutcomeRoute.nodes]
    nth_rewrite 1 [← List.zipIdx_map_fst 1 route.stops]
    rw [List.map_map]
    rfl
  have same : ∀ x ∈ route.stops.zipIdx 1, (g x).id = (r.deliveryAt x.1.node).id ∧
      (g x).place = (r.deliveryAt x.1.node).place := by
    intro x hx
    obtain ⟨d, arrival, hd, -, hstop⟩ := stop_eq_ok_iff.mp (hg x hx)
    rw [hstop, Request.deliveryAt_of_eq hd]
    exact ⟨rfl, rfl⟩
  simp only [nodes, List.map_map]
  constructor
  · exact List.map_congr_left fun x hx => (same x hx).1
  · exact List.map_congr_left fun x hx => (same x hx).2

theorem of_driven_eq_ok {route : OutcomeRoute} {x : Nat × Int × List Stop}
    (h : driven r trips route = .ok x) :
    x.1 = driverOf trips route.vehicle ∧ r.drivers[x.1]? = some x.2.1 ∧
      Response.stops r route = .ok x.2.2 := by
  unfold driven at h
  dsimp only at h
  split at h
  · cases h
  · next driver hdriver =>
    cases hstops : Response.stops r route with
    | error e => rw [hstops] at h; cases h
    | ok stops => rw [hstops] at h; cases h; exact ⟨rfl, hdriver, rfl⟩

theorem of_idOf_eq_ok {node : Nat} {id : Int} (h : idOf r node = .ok id) :
    id = (r.deliveryAt node).id := by
  unfold idOf at h
  split at h
  · next d hd => cases h; rw [Request.deliveryAt_of_eq hd]
  · cases h

theorem idOf_eq_ok {node : Nat} (h : 1 ≤ node ∧ node ≤ r.deliveries.length) :
    idOf r node = .ok (r.deliveryAt node).id := by
  rw [idOf, (r.delivery?_of_le h).1]

/-- An assembly numbers the routes of each driver, and names what is dropped. -/
theorem of_assemble_eq_ok {o : Outcome} (h : assemble r trips o = .ok response) :
    ∃ items unserved, o.routes.mapM (driven r trips) = .ok items ∧
      o.dropped.mapM (idOf r) = .ok unserved ∧
        response = ⟨(groupByKey items).flatMap fun x => numbered x.2, unserved⟩ := by
  unfold assemble at h
  simp only [bind, Except.bind, pure, Except.pure] at h
  cases hitems : o.routes.mapM (driven r trips) with
  | error e => rw [hitems] at h; cases h
  | ok items =>
    rw [hitems] at h
    cases hunserved : o.dropped.mapM (idOf r) with
    | error e => rw [hunserved] at h; cases h
    | ok unserved => rw [hunserved] at h; cases h; exact ⟨items, unserved, rfl, rfl, rfl⟩

/-! ### Shares -/

/-- The routes of the driver with an index. -/
def routesOf (trips : Nat) (routes : List OutcomeRoute) (driver : Nat) : List OutcomeRoute :=
  routes.filter fun route => driverOf trips route.vehicle = driver

/-- The trips of routes that a driver runs one after the other, with what they serve. -/
def toursOf (r : Request) (item : OutcomeRoute → Nat × Int × List Stop)
    (routes : List OutcomeRoute) : List Tour :=
  (routes.zipIdx 1).map fun (route, number) =>
    ⟨⟨(item route).2.1, number, (item route).2.2⟩, route.nodes.map r.deliveryAt⟩

section Shares

variable {item : OutcomeRoute → Nat × Int × List Stop} {routes : List OutcomeRoute} {driver : Nat}

theorem map_trip_toursOf : (toursOf r item routes).map Tour.trip =
    numbered ((routes.map item).map Prod.snd) := by
  rw [toursOf, numbered, List.map_map, List.zipIdx_map, List.zipIdx_map, List.map_map, List.map_map]
  rfl

theorem flatMap_deliveries_toursOf : (toursOf r item routes).flatMap Tour.deliveries =
    (routes.flatMap OutcomeRoute.nodes).map r.deliveryAt := by
  rw [toursOf, List.flatMap_map, List.map_flatMap]
  nth_rewrite 2 [← List.zipIdx_map_fst 1 routes]
  rw [List.flatMap_map]

theorem numbers_toursOf : (toursOf r item routes).map (·.trip.number) =
    List.range' 1 (toursOf r item routes).length := by
  rw [toursOf, List.map_map, List.length_map, List.length_zipIdx]
  exact List.zipIdx_map_snd 1 routes

theorem mem_toursOf {tour : Tour} (h : tour ∈ toursOf r item routes) :
    ∃ route ∈ routes, tour.trip.driver = (item route).2.1 ∧
      tour.trip.stops = (item route).2.2 ∧ tour.deliveries = route.nodes.map r.deliveryAt := by
  obtain ⟨⟨route, number⟩, hroute, rfl⟩ := List.mem_map.mp h
  exact ⟨route, List.fst_mem_of_mem_zipIdx hroute, rfl, rfl, rfl⟩

/-- A driver has as many vehicles as trips are allowed, and no two routes have one vehicle. -/
theorem length_routesOf_le (ascending : (routes.map OutcomeRoute.vehicle).Pairwise (· < ·)) :
    (routesOf trips routes driver).length ≤ max trips 1 := by
  have unique : ((routesOf trips routes driver).map OutcomeRoute.vehicle).Nodup :=
    (ascending.imp ne_of_lt).sublist (List.filter_sublist.map _)
  have own : (routesOf trips routes driver).map OutcomeRoute.vehicle ⊆
      List.range' (driver * max trips 1) (max trips 1) := by
    intro v hv
    obtain ⟨route, hroute, rfl⟩ := List.mem_map.mp hv
    have hdriver : driverOf trips route.vehicle = driver :=
      of_decide_eq_true (List.mem_filter.mp hroute).2
    rw [← hdriver, List.mem_range'_1, driverOf]
    have hpos : 0 < max trips 1 := by omega
    have hmod := Nat.mod_lt route.vehicle hpos
    have hdiv := Nat.div_add_mod' route.vehicle (max trips 1)
    omega
  have fewer := (List.subperm_of_subset unique own).length_le
  rwa [List.length_map, List.length_range'] at fewer

/-- A trip that stands for a route suits the driver, if the capacity holds the demands of the
route. -/
theorem fits_of_mem_toursOf {tour : Tour}
    (hitem : ∀ route ∈ routes, driven r trips route = .ok (item route))
    (holds : ∀ route ∈ routes, r.CanHold width (driverOf trips route.vehicle)
      (route.nodes.map fun node => (r.deliveryAt node).demand))
    (h : tour ∈ toursOf r item (routesOf trips routes driver)) : tour.Fits r width driver := by
  obtain ⟨route, hroute, hdriver, hstops, hdeliveries⟩ := mem_toursOf h
  obtain ⟨hroute, hindex⟩ := List.mem_filter.mp hroute
  have hindex : driverOf trips route.vehicle = driver := of_decide_eq_true hindex
  obtain ⟨index, found, stops⟩ := of_driven_eq_ok (hitem route hroute)
  obtain ⟨ids, places⟩ := of_stops_eq_ok stops
  have canHold := holds route hroute
  rw [index, hindex, ← hdriver] at found
  rw [← hstops, ← hdeliveries] at ids places
  rw [hindex] at canHold
  refine ⟨found, ids, places, ?_⟩
  rw [hdeliveries, List.map_map]
  exact canHold

end Shares

/-- **The response that an outcome stands for hands each delivery to one trip or to none.** -/
theorem assemble_attribution {o : Outcome} {vehicles : Nat}
    (h : assemble r trips o = .ok response)
    (accounts : o.Accounts (r.deliveries.length + 1) vehicles)
    (holds : ∀ route ∈ o.routes, r.CanHold width (driverOf trips route.vehicle)
      (route.nodes.map fun node => (r.deliveryAt node).demand)) :
    ∃ shares left, Attribution r width trips response shares left := by
  obtain ⟨items, unserved, hitems, hunserved, rfl⟩ := of_assemble_eq_ok h
  obtain ⟨item, rfl, hitem⟩ := exists_map_of_mapM_eq_ok hitems
  obtain ⟨idAt, rfl, hid⟩ := exists_map_of_mapM_eq_ok hunserved
  obtain ⟨drivers, unique, covered, groups⟩ := groupByKey_eq (o.routes.map item)
  have index : ∀ route ∈ o.routes, (item route).1 = driverOf trips route.vehicle :=
    fun route hroute => (of_driven_eq_ok (hitem route hroute)).1
  have group : ∀ driver, (o.routes.map item).filter (·.1 = driver) =
      (routesOf trips o.routes driver).map item := by
    intro driver
    rw [List.filter_map, routesOf]
    congr 1
    refine List.filter_congr fun route hroute => ?_
    rw [Function.comp_apply, index route hroute]
  refine ⟨drivers.map fun driver => ⟨driver, toursOf r item (routesOf trips o.routes driver)⟩,
    o.dropped.map r.deliveryAt, ?shared, ?unique, ?fit, ?unserved, ?perm⟩
  case shared =>
    rw [groups, List.flatMap_map, List.flatMap_map]
    refine List.flatMap_congr fun driver _ => ?_
    rw [map_trip_toursOf, group]
  case unique =>
    rw [List.map_map]
    exact (List.map_id _).symm ▸ unique
  case fit =>
    intro share hshare
    obtain ⟨driver, -, rfl⟩ := List.mem_map.mp hshare
    refine ⟨fun tour htour => ?_, ?_, numbers_toursOf⟩
    · exact fits_of_mem_toursOf hitem holds htour
    · rw [toursOf, List.length_map, List.length_zipIdx]
      exact length_routesOf_le accounts.vehicles_ascending
  case unserved =>
    rw [List.map_map]
    exact List.map_congr_left fun node hnode => of_idOf_eq_ok (hid node hnode)
  case perm =>
    have regrouped : (drivers.flatMap (routesOf trips o.routes)).Perm o.routes := by
      refine flatMap_filter_perm unique fun route hroute => ?_
      rw [← index route hroute]
      exact covered _ (List.mem_map_of_mem hroute)
    have nodes := (regrouped.flatMap_right OutcomeRoute.nodes).append_right o.dropped
    rw [List.flatMap_map]
    simp only [flatMap_deliveries_toursOf]
    rw [← List.map_flatMap, ← List.flatMap_assoc, ← List.map_append]
    have deliveries := (nodes.trans accounts.perm).map r.deliveryAt
    rwa [Nat.add_sub_cancel, r.map_deliveryAt] at deliveries

end Response

/-! ### Drafted problems -/

section Drafted

variable {r : Request} {draft : Draft}

/-- The draft of a request whose shift has a length and whose deliveries have windows. -/
def Request.draftOf (r : Request) (length : Int) (windows : List Window) : Draft where
  points := r.depot.point :: r.deliveries.map fun d => d.place.point
  problem := {
    demands := 0 :: r.deliveries.map Delivery.demand
    windows := Window.shift length :: windows
    drivers := r.drivers.length
    capacity := r.capacity
    capacities := r.capacities
    priorities := some (Priority.ordinary ::
      r.deliveries.map fun d => d.priority.getD Priority.ordinary) }

theorem Request.draft_eq_ok_iff : r.draft = .ok draft ↔ ∃ length windows,
    r.shiftLength = .ok length ∧
      r.deliveries.mapM (Request.checkedWindow r.shiftStart length) = .ok windows ∧
        draft = r.draftOf length windows := by
  unfold Request.draft
  simp only [bind, Except.bind, pure, Except.pure]
  cases r.shiftLength with
  | error e => simp
  | ok length =>
    cases hwindows : r.deliveries.mapM (Request.checkedWindow r.shiftStart length) with
    | error e => simp [hwindows]
    | ok windows => simp [hwindows, Request.draftOf, eq_comm]

theorem Request.of_draft_eq_ok (h : r.draft = .ok draft) :
    draft.points.length = r.deliveries.length + 1 ∧
      draft.problem.demands = 0 :: r.deliveries.map Delivery.demand ∧
      draft.problem.drivers = r.drivers.length ∧
      draft.problem.driverCapacities =
        r.capacities.getD (List.replicate r.drivers.length r.capacity) := by
  obtain ⟨length, windows, -, -, rfl⟩ := Request.draft_eq_ok_iff.mp h
  exact ⟨by rw [Request.draftOf, List.length_cons, List.length_map], rfl, rfl, rfl⟩

theorem Request.getD_demands (r : Request) (node : Nat) :
    (0 :: r.deliveries.map Delivery.demand).getD node 0 = (r.deliveryAt node).demand := by
  cases node with
  | zero => rfl
  | succ i =>
    rw [List.getD_cons_succ, List.getD_eq_getElem?_getD, List.getElem?_map, deliveryAt, delivery?]
    cases r.deliveries[i]? <;> rfl

theorem Request.capacityOf?_of_getElem? {driver : Nat} {capacity : Int}
    (h : (r.capacities.getD (List.replicate r.drivers.length r.capacity))[driver]? =
      some capacity) : r.capacityOf? driver = some capacity := by
  unfold Request.capacityOf?
  cases hc : r.capacities with
  | some capacities => rwa [hc] at h
  | none =>
    rw [hc, Option.getD_none, List.getElem?_replicate] at h
    split at h
    · exact h
    · cases h

theorem Request.canHold_of_passes {table : TravelTable} {trips : Nat} {width : Width}
    {route : OutcomeRoute} (h : r.draft = .ok draft)
    (passes : route.Passes (draft.withDurations table) trips width) :
    r.CanHold width (Response.driverOf trips route.vehicle)
      (route.nodes.map fun node => (r.deliveryAt node).demand) := by
  obtain ⟨-, demands, -, capacities⟩ := Request.of_draft_eq_ok h
  obtain ⟨capacity, found, load⟩ := passes.capacity
  have found : draft.problem.driverCapacities[Response.driverOf trips route.vehicle]? =
      some capacity := found
  have load : width.keep (route.nodes.map fun node => draft.problem.demands.getD node 0).sum ≤
      capacity := load
  rw [capacities] at found
  simp only [demands, Request.getD_demands] at load
  exact ⟨capacity, Request.capacityOf?_of_getElem? found, load, fun held => held ▸ load⟩

end Drafted

/-! ### Plans -/

/-- Every response to a request with deliveries stands for an attainable outcome of the drafted
problem. -/
theorem plan_attains (source : Source) (params : Params) (steps : Nat) (r : Request) :
    (plan source params steps r).Always fun result => ∀ response, result = .ok response →
      r.deliveries = [] ∧ response = Response.empty ∨
        ∃ draft table outcome, r.draft = .ok draft ∧ source draft.points = .ok table ∧
          outcome.Attainable params (draft.withDurations table) ∧
          Response.assemble r params.trips outcome = .ok response := by
  unfold plan
  split
  · next none =>
    rintro response ⟨⟩
    exact .inl ⟨List.isEmpty_iff.mp none, rfl⟩
  · split
    · rintro response ⟨⟩
    · next draft hdraft =>
      split
      · rintro response ⟨⟩
      · next table htable =>
        refine (solve_attains params steps (draft.withDurations table)).bind
          fun result attainable response h => .inr ?_
        cases result with
        | error fault => cases fault <;> cases h
        | ok outcome =>
          refine ⟨draft, table, outcome, hdraft, htable, attainable outcome rfl, ?_⟩
          cases hassemble : Response.assemble r params.trips outcome with
          | error fault => rw [Request.respond, hassemble] at h; cases h
          | ok response' => rw [Request.respond, hassemble] at h; cases h; rfl

theorem respond_eq_ok_iff {r : Request} {params : Params} {result : Except SolveFault Outcome}
    {response : Response} : r.respond params result = .ok response ↔
      ∃ outcome, result = .ok outcome ∧
        Response.assemble r params.trips outcome = .ok response := by
  unfold Request.respond
  split
  · next outcome =>
    cases assembled : Response.assemble r params.trips outcome <;>
      simp [Except.mapError, assembled]
  · simp
  · simp

theorem plan_of_draft_eq_error {source : Source} {r : Request} {fault : RequestFault}
    (some : r.deliveries ≠ []) (h : r.draft = .error fault) (params : Params) (steps : Nat) :
    plan source params steps r = .done (.error (.request fault)) := by
  rw [plan, if_neg (by simpa using some), h]

theorem plan_answer {source : Source} {r : Request} {draft : Draft} {table : TravelTable}
    (some : r.deliveries ≠ []) (hdraft : r.draft = .ok draft)
    (htable : source draft.points = .ok table) (params : Params) (steps : Nat)
    (signal : Nat → Poll) : (plan source params steps r).answer signal =
      r.respond params ((solve params steps (draft.withDurations table)).answer signal) := by
  have planned : plan source params steps r =
      (solve params steps (draft.withDurations table)).bind fun result =>
        .done (r.respond params result) := by
    rw [plan, if_neg (by simpa using some), hdraft]
    dsimp only
    rw [htable]
  rw [planned, Polling.answer, Polling.run_bind, Polling.run_done]
  rfl

theorem plan_eq_ok {source : Source} {params : Params} {steps : Nat} {r : Request}
    {signal : Nat → Poll} {response : Response}
    (h : (plan source params steps r).answer signal = .ok response) :
    r.deliveries = [] ∧ response = Response.empty ∨
      ∃ draft table outcome, r.draft = .ok draft ∧ source draft.points = .ok table ∧
        (solve params steps (draft.withDurations table)).answer signal = .ok outcome ∧
        Response.assemble r params.trips outcome = .ok response := by
  by_cases none : r.deliveries = []
  · rw [plan, if_pos (by simpa using none)] at h
    cases h
    exact .inl ⟨none, rfl⟩
  · cases hdraft : r.draft with
    | error fault =>
      rw [plan_of_draft_eq_error none hdraft] at h
      cases h
    | ok draft =>
      cases htable : source draft.points with
      | error fault =>
        rw [plan, if_neg (by simpa using none), hdraft] at h
        dsimp only at h
        rw [htable] at h
        cases h
      | ok table =>
        rw [plan_answer none hdraft htable, respond_eq_ok_iff] at h
        obtain ⟨outcome, solved, assembled⟩ := h
        exact .inr ⟨draft, table, outcome, rfl, htable, solved, assembled⟩

/-- **Every delivery of a request is handed to one trip of one driver or left unserved**, by ids and
by what the drivers can hold, however the three numberings on the way count. What they hold is what
is kept of the demands, and so the demands of every trip on which these do not wrap around. -/
theorem plan_attribution (source : Source)
    (rows : ∀ points table, source points = .ok table → table.toRows.length = points.length)
    (params : Params) (steps : Nat) (r : Request) (signal : Nat → Poll) (response : Response)
    (h : (plan source params steps r).answer signal = .ok response) :
    (response.trips.flatMap (fun t => t.stops.map Response.Stop.id) ++ response.unserved).Perm
        (r.deliveries.map Delivery.id) ∧
      ∃ shares left, Response.Attribution r params.width params.trips response shares left := by
  have attribution : ∃ shares left,
      Response.Attribution r params.width params.trips response shares left := by
    rcases (plan_attains source params steps r).answer signal response h with
      ⟨none, rfl⟩ | ⟨draft, table, outcome, hdraft, htable, attainable, hassemble⟩
    · exact ⟨[], [], rfl, List.nodup_nil, List.forall_mem_nil _, rfl, none ▸ .refl _⟩
    · have nodes : (draft.withDurations table).durations.length = r.deliveries.length + 1 :=
        (rows draft.points table htable).trans (Request.of_draft_eq_ok hdraft).1
      refine Response.assemble_attribution hassemble (nodes ▸ attainable.accounts) ?_
      exact fun route hroute => Request.canHold_of_passes hdraft (attainable.passes route hroute)
  obtain ⟨shares, left, fits⟩ := attribution
  exact ⟨fits.perm_ids, shares, left, fits⟩

/-- A driver who holds one delivery at a time, and may run two trips. -/
def pairRequest : Request where
  depot := ⟨0, 0⟩
  drivers := [7]
  capacity := 1
  deliveries := [⟨11, ⟨1, 1⟩, 1, .asap, none, none, none⟩, ⟨12, ⟨2, 2⟩, 1, .asap, none, none, none⟩]

/-- The problem that is drafted of it. -/
def draftedPair : Problem where
  durations := [[0, 10, 20], [10, 0, 5], [20, 5, 0]]
  demands := [0, 1, 1]
  windows := [⟨0, 36000⟩, ⟨0, 36000⟩, ⟨0, 36000⟩]
  capacity := 1
  priorities := some [2, 2, 2]

def pairDraft : Draft := ⟨[⟨0, 0⟩, ⟨1, 1⟩, ⟨2, 2⟩], { draftedPair with durations := [] }⟩

def pairTable : TravelTable := ⟨[0, 10, 20, 10, 0, 5, 20, 5, 0], 3⟩

/-- A source that knows the durations between three points. -/
def pairSource : Source := fun points =>
  if points.length = 3 then .ok pairTable else .error ⟨none⟩

def draftedOutcome : Outcome := ⟨[⟨0, [⟨1, 20⟩], 0, 30⟩, ⟨1, [⟨2, 30⟩], 0, 50⟩], []⟩

def pairResponse : Response :=
  ⟨[⟨7, 1, [⟨1, 11, ⟨1, 1⟩, "08:00"⟩]⟩, ⟨7, 2, [⟨1, 12, ⟨2, 2⟩, "08:00"⟩]⟩], []⟩

theorem toRows_pairTable : pairTable.toRows = draftedPair.durations := by
  simp [pairTable, draftedPair, TravelTable.toRows, chunks]

theorem rows_pairSource (points : List Point) (table : TravelTable)
    (h : pairSource points = .ok table) : table.toRows.length = points.length := by
  unfold pairSource at h
  split at h
  · next three =>
    cases h
    rw [toRows_pairTable, three]
    rfl
  · cases h

theorem formatMinutes_eight : Clock.formatMinutes 480 = "08:00" := by
  have hours : Numeral.padded 2 8 = ['0', '8'] := by rw [Numeral.padded, Numeral.digits]; rfl
  have minutes : Numeral.padded 2 0 = ['0', '0'] := by rw [Numeral.padded, Numeral.digits]; rfl
  show String.ofList (Numeral.padded 2 8 ++ ':' :: Numeral.padded 2 0) = "08:00"
  rw [hours, minutes]
  rfl

theorem respond_draftedOutcome :
    pairRequest.respond greedyParams (.ok draftedOutcome) = .ok pairResponse := by
  have first : Clock.ofSeconds 20 "08:00" = .ok "08:00" := congrArg Except.ok formatMinutes_eight
  have second : Clock.ofSeconds 30 "08:00" = .ok "08:00" := congrArg Except.ok formatMinutes_eight
  have stop₁ : Response.stop pairRequest ⟨1, 20⟩ 1 = .ok ⟨1, 11, ⟨1, 1⟩, "08:00"⟩ :=
    Response.stop_eq_ok_iff.mpr ⟨_, _, rfl, first, rfl⟩
  have stop₂ : Response.stop pairRequest ⟨2, 30⟩ 1 = .ok ⟨1, 12, ⟨2, 2⟩, "08:00"⟩ :=
    Response.stop_eq_ok_iff.mpr ⟨_, _, rfl, second, rfl⟩
  simp only [Request.respond, Response.assemble, draftedOutcome, List.mapM_cons, List.mapM_nil,
    Response.driven, Response.stops, List.zipIdx_cons, List.zipIdx_nil, stop₁, stop₂]
  rfl

theorem withDurations_pairTable : pairDraft.withDurations pairTable = draftedPair := by
  rw [Draft.withDurations, toRows_pairTable]
  rfl

theorem solve_draftedPair :
    (solve greedyParams 5 (pairDraft.withDurations pairTable)).answer undisturbed =
      .ok draftedOutcome := by
  rw [withDurations_pairTable]
  rfl

theorem plan_pairRequest :
    (plan pairSource greedyParams 5 pairRequest).answer undisturbed = .ok pairResponse := by
  have drafted : pairRequest.draft = .ok pairDraft := rfl
  have lookedUp : pairSource pairDraft.points = .ok pairTable := rfl
  rw [plan_answer (List.cons_ne_nil _ _) drafted lookedUp, solve_draftedPair]
  exact respond_draftedOutcome

theorem plan_attribution_pairRequest :
    (plan pairSource greedyParams 5 pairRequest).answer undisturbed = .ok pairResponse ∧
      [11, 12].Perm (pairRequest.deliveries.map Delivery.id) ∧
      ∃ shares left, Response.Attribution pairRequest .word 2 pairResponse shares left :=
  ⟨plan_pairRequest, plan_attribution pairSource rows_pairSource greedyParams 5 pairRequest
    undisturbed pairResponse plan_pairRequest⟩

/-- Two deliveries that are together more than a word can tell. -/
def bulkRequest : Request :=
  { pairRequest with
    capacity := 0x7fffffffffffffff
    deliveries := [⟨11, ⟨1, 1⟩, 0x7fffffffffffffff, .asap, none, none, none⟩,
      ⟨12, ⟨2, 2⟩, 0x7fffffffffffffff, .asap, none, none, none⟩] }

def bulkDraft : Draft :=
  ⟨[⟨0, 0⟩, ⟨1, 1⟩, ⟨2, 2⟩], { draftedPair with
    durations := []
    demands := [0, 0x7fffffffffffffff, 0x7fffffffffffffff]
    capacity := 0x7fffffffffffffff }⟩

def bulkOutcome : Outcome := ⟨[⟨0, [⟨2, 30⟩, ⟨1, 45⟩], 0, 55⟩], []⟩

def bulkResponse : Response :=
  ⟨[⟨7, 1, [⟨1, 12, ⟨2, 2⟩, "08:00"⟩, ⟨2, 11, ⟨1, 1⟩, "08:00"⟩]⟩], []⟩

theorem solve_bulkDraft :
    (solve greedyParams 5 (bulkDraft.withDurations pairTable)).answer undisturbed =
      .ok bulkOutcome := by
  rw [Draft.withDurations, toRows_pairTable]
  rfl

theorem respond_bulkOutcome :
    bulkRequest.respond greedyParams (.ok bulkOutcome) = .ok bulkResponse := by
  have first : Clock.ofSeconds 30 "08:00" = .ok "08:00" := congrArg Except.ok formatMinutes_eight
  have second : Clock.ofSeconds 45 "08:00" = .ok "08:00" := congrArg Except.ok formatMinutes_eight
  have stop₁ : Response.stop bulkRequest ⟨2, 30⟩ 1 = .ok ⟨1, 12, ⟨2, 2⟩, "08:00"⟩ :=
    Response.stop_eq_ok_iff.mpr ⟨_, _, rfl, first, rfl⟩
  have stop₂ : Response.stop bulkRequest ⟨1, 45⟩ 2 = .ok ⟨2, 11, ⟨1, 1⟩, "08:00"⟩ :=
    Response.stop_eq_ok_iff.mpr ⟨_, _, rfl, second, rfl⟩
  simp only [Request.respond, Response.assemble, bulkOutcome, List.mapM_cons, List.mapM_nil,
    Response.driven, Response.stops, List.zipIdx_cons, List.zipIdx_nil, stop₁, stop₂]
  rfl

/-- **Where a load wraps around, a trip may carry more than its driver can hold.** Both deliveries are
handed to one trip, so that no attribution suits the capacity. -/
theorem plan_bulkRequest :
    (plan pairSource greedyParams 5 bulkRequest).answer undisturbed = .ok bulkResponse ∧
      ¬ ∃ shares left,
        Response.Attribution bulkRequest .unbounded greedyParams.trips bulkResponse shares left := by
  constructor
  · have drafted : bulkRequest.draft = .ok bulkDraft := rfl
    have lookedUp : pairSource bulkDraft.points = .ok pairTable := rfl
    rw [plan_answer (List.cons_ne_nil _ _) drafted lookedUp, solve_bulkDraft]
    exact respond_bulkOutcome
  · rintro ⟨shares, left, fits⟩
    have told : bulkResponse.trips.head (List.cons_ne_nil _ _) ∈
        shares.flatMap fun s => s.tours.map Response.Tour.trip := fits.trips_eq ▸ List.head_mem _
    obtain ⟨share, hshare, told⟩ := List.mem_flatMap.mp told
    obtain ⟨tour, htour, told⟩ := List.mem_map.mp told
    have suits := (fits.shares_fit share hshare).tours_fit tour htour
    -- there are two deliveries on the trip, and either of them fills the vehicle
    have two : tour.deliveries.length = 2 := by
      have ids := congrArg List.length suits.ids_eq
      rw [told, List.length_map, List.length_map] at ids
      exact ids.symm
    have bulky : ∀ d ∈ tour.deliveries, d.demand = 0x7fffffffffffffff := by
      intro d hd
      have asked : d ∈ bulkRequest.deliveries := fits.perm.subset (List.mem_append_left _
        (List.mem_flatMap.mpr ⟨share, hshare, List.mem_flatMap.mpr ⟨tour, htour, hd⟩⟩))
      rcases List.mem_pair.mp asked with rfl | rfl <;> rfl
    obtain ⟨capacity, found, -, holds⟩ := suits.capacity
    cases found
    have carried := holds (Width.holds_unbounded _)
    rw [List.map_congr_left bulky, List.map_const', two] at carried
    exact absurd carried (by decide)

end DeliveryRouting
