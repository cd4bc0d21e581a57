import DeliveryRouting.Proofs.Dispatch.Attribution
import DeliveryRouting.Proofs.Time.Reading

/-! # Dispatch: promised times

A response tells the arrival at each stop as a clock time, and this time is kept to in the words of
the request: it lies in the shift, and in the window of the delivery if that is binding. On the way
the times of the request become seconds from the start of the shift, windows are cut off at its end,
and arrivals are floored to the minute. Flooring takes no arrival below a bound, as all bounds that
are read are whole minutes (`Clock.le_floor_iff`). -/

namespace DeliveryRouting

namespace Clock

/-- A bound of whole minutes stays one when an arrival is floored. -/
theorem le_floor_iff {bound start seconds : Int} :
    bound ≤ start + seconds / 60 ↔ (bound - start) * 60 ≤ seconds := by
  omega

theorem floor_le {bound start seconds : Int} (h : seconds ≤ (bound - start) * 60) :
    start + seconds / 60 ≤ bound := by
  omega

end Clock

/-! ### Windows of a request -/

namespace Request

variable {r : Request} {draft : Draft} {base : String} {length : Int} {d : Delivery} {w : Window}
  {node : Nat}

theorem shiftLength_eq_ok_iff : r.shiftLength = .ok length ↔
    Clock.toSeconds r.shiftEnd r.shiftStart = .ok length ∧ 0 ≤ length := by
  unfold shiftLength
  cases Clock.toSeconds r.shiftEnd r.shiftStart with
  | error e => simp [bind, Except.bind, Except.mapError]
  | ok l =>
    simp only [bind, Except.bind, Except.mapError, pure, Except.pure, throw, throwThe,
      MonadExceptOf.throw]
    rw [Except.ok.injEq]
    split
    · next negative =>
      simp only [reduceCtorEq, false_iff]
      rintro ⟨rfl, nonneg⟩
      omega
    · next nonneg =>
      rw [Except.ok.injEq, iff_self_and]
      rintro rfl
      omega

/-- An arrival in the window of a delivery is one in the shift, and in the bounds that the delivery
names if they are binding. -/
theorem window_admits (h : checkedWindow base length d = .ok w) {arrival : Int}
    (opens : w.opens ≤ arrival) (closes : arrival ≤ w.closes) :
    0 ≤ arrival ∧ arrival ≤ length ∧ ∀ first last, d.hardWindow? = some (first, last) →
      ∃ a b, Clock.toSeconds first base = .ok a ∧ Clock.toSeconds last base = .ok b ∧
        a ≤ arrival ∧ arrival ≤ b := by
  have hw : window base length d = .ok w := by
    unfold checkedWindow at h
    simp only [bind, Except.bind, throw, throwThe, MonadExceptOf.throw] at h
    split at h
    · cases h
    · exact h
  unfold window at hw
  split at hw
  · next first last hard =>
    simp only [bind, Except.bind, pure, Except.pure] at hw
    cases ha : Clock.toSeconds first base with
    | error e => rw [ha] at hw; cases hw
    | ok a =>
      cases hb : Clock.toSeconds last base with
      | error e => rw [ha, hb] at hw; cases hw
      | ok b =>
        rw [ha, hb] at hw
        cases hw
        have inside : (Window.mk a b).admits arrival = true ∧ 0 ≤ arrival ∧ arrival ≤ length :=
          Window.admits_clampToShift.mp (Window.admits_iff.mpr ⟨opens, closes⟩)
        obtain ⟨late, early⟩ := Window.admits_iff.mp inside.1
        refine ⟨inside.2.1, inside.2.2, fun first' last' same => ?_⟩
        cases hard.symm.trans same
        exact ⟨a, b, ha, hb, late, early⟩
  · next soft =>
    cases hw
    exact ⟨opens, closes, fun first last hard => (nomatch soft.symm.trans hard)⟩

theorem checkedWindow_of_draft (h : r.draft = .ok draft) (hd : r.delivery? node = some d)
    (hw : draft.problem.windows[node]? = some w) : ∃ length, r.shiftLength = .ok length ∧
      checkedWindow r.shiftStart length d = .ok w := by
  obtain ⟨length, windows, hlength, hwindows, rfl⟩ := draft_eq_ok_iff.mp h
  have drafted : (r.draftOf length windows).problem.windows = Window.shift length :: windows := rfl
  refine ⟨length, hlength, ?_⟩
  cases node with
  | zero => cases hd
  | succ i =>
    have hd : r.deliveries[i]? = some d := hd
    obtain ⟨windowOf, rfl, each⟩ := exists_map_of_mapM_eq_ok hwindows
    rw [drafted, List.getElem?_cons_succ, List.getElem?_map, hd] at hw
    cases hw
    exact each d (List.mem_of_getElem? hd)

end Request

/-! ### Stops of a response -/

namespace Response

variable {r : Request} {trips : Nat} {response : Response} {draft : Draft} {table : TravelTable}

/-- The arrival at a stop lies in the shift of the request, and in the window of the delivery if
that is binding, all of them read as clock times. -/
def Stop.OnTime (r : Request) (d : Delivery) (stop : Stop) : Prop :=
  ∃ arrival start finish, Clock.readMinutes stop.arrival = .ok arrival ∧
    Clock.readMinutes r.shiftStart = .ok start ∧ Clock.readMinutes r.shiftEnd = .ok finish ∧
    start ≤ arrival ∧ arrival ≤ finish ∧
    ∀ opens closes, d.hardWindow? = some (opens, closes) → ∃ first last,
      Clock.readMinutes opens = .ok first ∧ Clock.readMinutes closes = .ok last ∧
        first ≤ arrival ∧ arrival ≤ last

theorem stops_of_mem_trips {o : Outcome} (h : assemble r trips o = .ok response) {trip : Trip}
    (ht : trip ∈ response.trips) : ∃ route ∈ o.routes, Response.stops r route = .ok trip.stops := by
  obtain ⟨items, unserved, hitems, -, rfl⟩ := of_assemble_eq_ok h
  obtain ⟨item, rfl, hitem⟩ := exists_map_of_mapM_eq_ok hitems
  obtain ⟨drivers, -, -, groups⟩ := groupByKey_eq (o.routes.map item)
  rw [groups, List.flatMap_map] at ht
  obtain ⟨driver, -, ht⟩ := List.mem_flatMap.mp ht
  obtain ⟨x, hx, rfl⟩ := List.mem_map.mp ht
  obtain ⟨y, hy, same⟩ := List.mem_map.mp (List.fst_mem_of_mem_zipIdx hx)
  obtain ⟨route, hroute, rfl⟩ := List.mem_map.mp (List.mem_of_mem_filter hy)
  refine ⟨route, hroute, ?_⟩
  rw [(of_driven_eq_ok (hitem route hroute)).2.2, same]

theorem forall₂_of_stops_eq_ok {route : OutcomeRoute} {stops : List Stop}
    (h : Response.stops r route = .ok stops) :
    List.Forall₂ (fun s stop => s ∈ route.stops ∧ ∃ order, Response.stop r s order = .ok stop)
      route.stops stops := by
  obtain ⟨g, rfl, hg⟩ := exists_map_of_mapM_eq_ok h
  rw [List.forall₂_map_right_iff]
  nth_rewrite 2 [← List.zipIdx_map_fst 1 route.stops]
  rw [List.forall₂_map_left_iff, List.forall₂_same]
  exact fun x hx => ⟨List.fst_mem_of_mem_zipIdx hx, x.2, hg x hx⟩

theorem onTime_of_admits (hdraft : r.draft = .ok draft) {s : OutcomeStop} {order : Nat}
    {stop : Stop} (h : Response.stop r s order = .ok stop) {w : Window}
    (hw : draft.problem.windows[s.node]? = some w) (opens : w.opens ≤ s.arrival)
    (closes : s.arrival ≤ w.closes) : ∃ d, r.delivery? s.node = some d ∧ stop.OnTime r d := by
  obtain ⟨d, text, hd, htext, rfl⟩ := stop_eq_ok_iff.mp h
  obtain ⟨length, hlength, hwindow⟩ := Request.checkedWindow_of_draft hdraft hd hw
  obtain ⟨nonneg, short, hard⟩ := Request.window_admits hwindow opens closes
  obtain ⟨finish, start, hfinish, hstart, rfl⟩ :=
    Clock.toSeconds_eq_ok_iff.mp (Request.shiftLength_eq_ok_iff.mp hlength).1
  obtain ⟨start', hstart', rfl⟩ := Clock.ofSeconds_eq_ok_iff.mp htext
  cases hstart.symm.trans hstart'
  have early : start ≤ start + s.arrival / 60 := by omega
  have late : start + s.arrival / 60 ≤ finish := Clock.floor_le short
  have range := Clock.minutes_bounds hfinish
  have read : Clock.readMinutes (Clock.formatMinutes (start + s.arrival / 60)) =
      .ok (start + s.arrival / 60) := by
    refine Clock.readMinutes_formatMinutes ?_ ?_
    · have base := (Clock.minutes_bounds hstart).1
      omega
    · omega
  refine ⟨d, hd, _, start, finish, read, hstart, hfinish, early, late, fun first last bounds => ?_⟩
  obtain ⟨a, b, ha, hb, after, before⟩ := hard first last bounds
  obtain ⟨first', base, hfirst, hbase, rfl⟩ := Clock.toSeconds_eq_ok_iff.mp ha
  obtain ⟨last', base', hlast, hbase', rfl⟩ := Clock.toSeconds_eq_ok_iff.mp hb
  cases hstart.symm.trans hbase
  cases hstart.symm.trans hbase'
  exact ⟨first', last', hfirst, hlast, Clock.le_floor_iff.mpr after, Clock.floor_le before⟩

/-- Every stop that is made of a route of the drafted problem is on time. -/
theorem onTime_of_passes {width : Width} {route : OutcomeRoute} {stops : List Stop}
    (hdraft : r.draft = .ok draft) (passes : route.Passes (draft.withDurations table) trips width)
    (h : Response.stops r route = .ok stops) :
    List.Forall₂ (fun s stop => ∃ d, r.delivery? s.node = some d ∧ stop.OnTime r d)
      route.stops stops := by
  refine (forall₂_of_stops_eq_ok h).imp fun s stop ⟨hs, order, made⟩ => ?_
  obtain ⟨w, hw, opens, closes⟩ := passes.window s hs
  exact onTime_of_admits hdraft made hw opens closes

end Response

/-! ### Plans -/

/-- **Promised times are kept to as clock times.** Each trip of a response is made of a route of the
solved problem, and whichever route that is, the arrivals that the trip tells are read as clock times
in the shift and in the binding windows of the deliveries that its stops are made of. -/
theorem plan_keeps_times (source : Source) (params : Params) (steps : Nat) (r : Request)
    (signal : Nat → Poll) (response : Response)
    (h : (plan source params steps r).answer signal = .ok response) :
    ∀ trip ∈ response.trips, ∃ draft table outcome, r.draft = .ok draft ∧
      source draft.points = .ok table ∧
      (solve params steps (draft.withDurations table)).answer signal = .ok outcome ∧
      (∃ route ∈ outcome.routes, Response.stops r route = .ok trip.stops) ∧
      ∀ route ∈ outcome.routes, Response.stops r route = .ok trip.stops →
        List.Forall₂ (fun s stop => ∃ d, r.delivery? s.node = some d ∧ stop.OnTime r d)
          route.stops trip.stops := by
  intro trip htrip
  rcases plan_eq_ok h with ⟨-, rfl⟩ | ⟨draft, table, outcome, hdraft, htable, solved, assembled⟩
  · cases htrip
  · have attained := (solve_attains params steps _).answer signal outcome solved
    refine ⟨draft, table, outcome, hdraft, htable, solved,
      Response.stops_of_mem_trips assembled htrip, fun route hroute stops => ?_⟩
    exact Response.onTime_of_passes hdraft (attained.passes route hroute) stops

/-- A binding window makes the second delivery of the small request wait for ten minutes. -/
def windowRequest : Request :=
  { pairRequest with deliveries :=
      [⟨11, ⟨1, 1⟩, 1, .asap, none, none, none⟩,
        ⟨12, ⟨2, 2⟩, 1, .hard, some "08:10", some "09:00", none⟩] }

def windowDraft : Draft :=
  ⟨[⟨0, 0⟩, ⟨1, 1⟩, ⟨2, 2⟩], { draftedPair with
    durations := []
    windows := [⟨0, 36000⟩, ⟨0, 36000⟩, ⟨600, 3600⟩] }⟩

def windowOutcome : Outcome :=
  ⟨[⟨0, [⟨1, 20⟩], 0, 30⟩, ⟨1, [⟨2, 600⟩], 570, 620⟩], []⟩

def windowResponse : Response :=
  ⟨[⟨7, 1, [⟨1, 11, ⟨1, 1⟩, "08:00"⟩]⟩, ⟨7, 2, [⟨1, 12, ⟨2, 2⟩, "08:10"⟩]⟩], []⟩

theorem formatMinutes_tenPastEight : Clock.formatMinutes 490 = "08:10" := by
  have hours : Numeral.padded 2 8 = ['0', '8'] := by rw [Numeral.padded, Numeral.digits]; rfl
  have minutes : Numeral.padded 2 10 = ['1', '0'] := by
    rw [Numeral.padded, Numeral.digits, Numeral.digits]
    rfl
  show String.ofList (Numeral.padded 2 8 ++ ':' :: Numeral.padded 2 10) = "08:10"
  rw [hours, minutes]
  rfl

theorem stop_windowRequest : Response.stop windowRequest ⟨2, 600⟩ 1 =
    .ok ⟨1, 12, ⟨2, 2⟩, "08:10"⟩ :=
  Response.stop_eq_ok_iff.mpr
    ⟨_, _, rfl, congrArg Except.ok formatMinutes_tenPastEight, rfl⟩

theorem solve_windowDraft :
    (solve greedyParams 5 (windowDraft.withDurations pairTable)).answer undisturbed =
      .ok windowOutcome := by
  rw [Draft.withDurations, toRows_pairTable]
  rfl

theorem plan_windowRequest :
    (plan pairSource greedyParams 5 windowRequest).answer undisturbed = .ok windowResponse := by
  have drafted : windowRequest.draft = .ok windowDraft := rfl
  have first : Response.stop windowRequest ⟨1, 20⟩ 1 = .ok ⟨1, 11, ⟨1, 1⟩, "08:00"⟩ :=
    Response.stop_eq_ok_iff.mpr ⟨_, _, rfl, congrArg Except.ok formatMinutes_eight, rfl⟩
  rw [plan_answer (List.cons_ne_nil _ _) drafted rfl, solve_windowDraft]
  simp only [Request.respond, Response.assemble, windowOutcome, List.mapM_cons, List.mapM_nil,
    Response.driven, Response.stops, List.zipIdx_cons, List.zipIdx_nil, first, stop_windowRequest]
  rfl

/-- The second delivery is promised for the opening of its window, and that is in the window. -/
theorem plan_keeps_times_windowRequest :
    (plan pairSource greedyParams 5 windowRequest).answer undisturbed = .ok windowResponse ∧
      (⟨1, 12, ⟨2, 2⟩, "08:10"⟩ : Response.Stop).OnTime windowRequest
        ⟨12, ⟨2, 2⟩, 1, .hard, some "08:10", some "09:00", none⟩ := by
  refine ⟨plan_windowRequest, ?_⟩
  obtain ⟨draft, table, outcome, drafted, found, solved, -, kept⟩ :=
    plan_keeps_times pairSource greedyParams 5 windowRequest undisturbed windowResponse
      plan_windowRequest ⟨7, 2, [⟨1, 12, ⟨2, 2⟩, "08:10"⟩]⟩
      (List.mem_cons_of_mem _ (List.mem_cons_self ..))
  have same : draft = windowDraft := Except.ok.inj (drafted.symm.trans rfl)
  subst same
  cases (Except.ok.inj found : pairTable = table)
  cases solve_windowDraft.symm.trans solved
  have told : Response.stops windowRequest ⟨1, [⟨2, 600⟩], 570, 620⟩ =
      .ok [⟨1, 12, ⟨2, 2⟩, "08:10"⟩] := by
    simp only [Response.stops, List.zipIdx_cons, List.zipIdx_nil, List.mapM_cons, List.mapM_nil,
      stop_windowRequest]
    rfl
  cases kept _ (List.mem_cons_of_mem _ (List.mem_cons_self ..)) told with
  | cons first =>
    obtain ⟨d, hd, onTime⟩ := first
    cases hd
    exact onTime

end DeliveryRouting
