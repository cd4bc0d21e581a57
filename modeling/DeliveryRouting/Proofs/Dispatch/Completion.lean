import DeliveryRouting.Proofs.Dispatch.Regrouping

/-! # Dispatch: plans that are told

An assembly looks up drivers and deliveries by their numbers in an outcome, and reads the start of the
shift once more. None of this can go wrong after a solve: the vehicles of the outcome are those of the
drivers, its nodes are those of the deliveries (`Request.within_of_solve`), and the start of the shift
has been read for the draft (`Request.start_of_draft`). So no plan is lost at the end (`plan_told`). -/

namespace DeliveryRouting

theorem Outcome.Accounts.within {r : Request} {trips : Nat} {o : Outcome}
    (h : o.Accounts (r.deliveries.length + 1) (r.drivers.length * max trips 1)) :
    o.Within r trips := by
  refine ⟨fun route hroute => ⟨h.vehicle_lt route hroute, fun s hs => ?_⟩, fun node hnode => ?_⟩
  · have stop : s.node ∈ route.nodes := List.mem_map_of_mem hs
    have told := List.mem_flatMap.mpr ⟨route, hroute, stop⟩
    have known := h.delivery_of_mem (List.mem_append_left _ told)
    omega
  · have known := h.delivery_of_mem (List.mem_append_right _ hnode)
    omega

namespace Request

variable {r : Request} {draft : Draft} {table : TravelTable}

theorem start_of_draft (h : r.draft = .ok draft) :
    ∃ start, Clock.readMinutes r.shiftStart = .ok start := by
  obtain ⟨length, windows, hlength, -⟩ := draft_eq_ok_iff.mp h
  obtain ⟨finish, start, -, hstart, -⟩ :=
    Clock.toSeconds_eq_ok_iff.mp (shiftLength_eq_ok_iff.mp hlength).1
  exact ⟨start, hstart⟩

theorem within_of_solve {params : Params} {steps : Nat} {signal : Nat → Poll} {outcome : Outcome}
    (hdraft : r.draft = .ok draft) (rows : table.toRows.length = draft.points.length)
    (solved : (solve params steps (draft.withDurations table)).answer signal = .ok outcome) :
    outcome.Within r params.trips := by
  obtain ⟨points, -, drivers, -⟩ := of_draft_eq_ok hdraft
  have nodes : (draft.withDurations table).durations.length = r.deliveries.length + 1 :=
    rows.trans points
  have drivers : (draft.withDurations table).drivers = r.drivers.length := drivers
  have accounts := ((solve_attains params steps _).answer signal outcome solved).accounts
  rw [nodes, drivers] at accounts
  exact accounts.within

end Request

section Plans

variable {source : Source} {r : Request} {draft : Draft} {table : TravelTable} {params : Params}
  {steps : Nat} {signal : Nat → Poll} {outcome : Outcome}

theorem plan_of_solve (some : r.deliveries ≠ []) (hdraft : r.draft = .ok draft)
    (htable : source draft.points = .ok table) (rows : table.toRows.length = draft.points.length)
    (solved : (solve params steps (draft.withDurations table)).answer signal = .ok outcome) :
    ∃ response, Response.assemble r params.trips outcome = .ok response ∧
      (plan source params steps r).answer signal = .ok response := by
  have within := Request.within_of_solve hdraft rows solved
  obtain ⟨start, formed⟩ := Request.start_of_draft hdraft
  have assembled := Response.assemble_eq_told formed within
  refine ⟨_, assembled, ?_⟩
  rw [plan_answer some hdraft htable, respond_eq_ok_iff]
  exact ⟨outcome, solved, assembled⟩

/-- A request that is drafted and looked up fails as its solve does. -/
theorem solve_of_plan {fault : PlanFault} (some : r.deliveries ≠ []) (hdraft : r.draft = .ok draft)
    (htable : source draft.points = .ok table) (rows : table.toRows.length = draft.points.length)
    (failed : (plan source params steps r).answer signal = .error fault) :
    (∃ e, Model.build (draft.withDurations table) params.trips params.service params.width = .error e ∧
        fault = .model e) ∨
      (solve params steps (draft.withDurations table)).answer signal = .error .outOfSteps ∧
        fault = .outOfSteps := by
  have planned := plan_answer some hdraft htable params steps signal
  rw [failed] at planned
  cases solved : (solve params steps (draft.withDurations table)).answer signal with
  | ok outcome =>
    obtain ⟨response, -, answered⟩ := plan_of_solve some hdraft htable rows solved
    rw [failed] at answered
    cases answered
  | error e =>
    rw [solved] at planned
    cases e with
    | model e =>
      have refused := (solve_faults params steps _).answer signal e solved
      exact .inl ⟨e, refused, Except.error.inj planned⟩
    | outOfSteps => exact .inr ⟨rfl, Except.error.inj planned⟩

/-- **No plan is lost once it is solved.** Whenever a drafted request is solved, each route has a
driver, each stop a delivery and a clock time, everything dropped is a delivery, and the request is
answered by the assembly. Therefore a request fails only because it cannot be drafted or its model
cannot be built; otherwise it runs out of steps while it is solved. -/
theorem plan_told (some : r.deliveries ≠ [])
    (served : ∀ draft, r.draft = .ok draft → ∃ table, source draft.points = .ok table ∧
      table.toRows.length = draft.points.length) (params : Params) (steps : Nat)
    (signal : Nat → Poll) :
    (∀ draft table outcome, r.draft = .ok draft → source draft.points = .ok table →
      (solve params steps (draft.withDurations table)).answer signal = .ok outcome →
      (∀ route ∈ outcome.routes, Response.driverOf params.trips route.vehicle < r.drivers.length ∧
        ∀ s ∈ route.stops, (1 ≤ s.node ∧ s.node ≤ r.deliveries.length) ∧
          ∃ text, Clock.ofSeconds s.arrival r.shiftStart = .ok text) ∧
      (∀ node ∈ outcome.dropped, 1 ≤ node ∧ node ≤ r.deliveries.length) ∧
      ∃ response, Response.assemble r params.trips outcome = .ok response ∧
        (plan source params steps r).answer signal = .ok response) ∧
    ∀ fault, (plan source params steps r).answer signal = .error fault →
      (∃ e, r.draft = .error e ∧ fault = .request e) ∨
      ∃ draft table, r.draft = .ok draft ∧ source draft.points = .ok table ∧
        ((∃ e, Model.build (draft.withDurations table) params.trips params.service params.width =
            .error e ∧ fault = .model e) ∨
          (solve params steps (draft.withDurations table)).answer signal = .error .outOfSteps ∧
            fault = .outOfSteps) := by
  constructor
  · intro draft table outcome hdraft htable solved
    obtain ⟨table', htable', rows⟩ := served draft hdraft
    cases htable.symm.trans htable'
    have within := Request.within_of_solve hdraft rows solved
    obtain ⟨start, formed⟩ := Request.start_of_draft hdraft
    refine ⟨fun route hroute => ⟨?driver, fun s hs => ⟨?delivery, ?arrival⟩⟩, within.dropped,
      plan_of_solve some hdraft htable rows solved⟩
    case driver => exact (Nat.div_lt_iff_lt_mul (by omega)).mpr (within.routes route hroute).vehicle
    case delivery => exact (within.routes route hroute).stops s hs
    case arrival => exact ⟨_, Clock.ofSeconds_eq_ok_iff.mpr ⟨start, formed, rfl⟩⟩
  · intro fault failed
    cases hdraft : r.draft with
    | error e =>
      rw [plan_of_draft_eq_error some hdraft] at failed
      cases failed
      exact .inl ⟨e, rfl, rfl⟩
    | ok draft =>
      obtain ⟨table, htable, rows⟩ := served draft hdraft
      exact .inr ⟨draft, table, rfl, htable, solve_of_plan some hdraft htable rows failed⟩

end Plans

/-- What comes of the small request is told. -/
theorem plan_told_pairRequest : ∃ response,
    Response.assemble pairRequest 2 draftedOutcome = .ok response ∧
      (plan pairSource greedyParams 5 pairRequest).answer undisturbed = .ok response := by
  have served : ∀ draft, pairRequest.draft = .ok draft → ∃ table,
      pairSource draft.points = .ok table ∧ table.toRows.length = draft.points.length := by
    rintro draft ⟨⟩
    exact ⟨pairTable, rfl, rows_pairSource _ _ rfl⟩
  obtain ⟨told, -⟩ := plan_told (List.cons_ne_nil _ _) served greedyParams 5 undisturbed
  exact (told pairDraft pairTable draftedOutcome rfl rfl solve_draftedPair).2.2

end DeliveryRouting
