import DeliveryRouting.Proofs.Jobs.Finality
import DeliveryRouting.Proofs.Search.Cancellation
import DeliveryRouting.Proofs.Travel.Lookup

/-! # Jobs: requests solved at once

Who solves a request at once waits for the response, and looks at the table whenever the planner
asks whether to stop. In the meantime other things happen to the service: `Service.atOnce` is such a
call in the midst of events.

If the id of the request is cancelled when the call begins, it is cancelled at every look
(`cancelled_told`), and all that is left is to say that nothing is served. The planner says so by
the nodes that it drops and the call by the ids of the request, which is the same
(`Response.assemble_allDropped`). What happens in the meantime are events of a service whose workers
can always be started (`Event`). -/

namespace DeliveryRouting

/-! ### Everything dropped -/

namespace Response

/-- **Where all nodes are dropped no delivery is served**, in the order of the request. -/
theorem assemble_allDropped (r : Request) (trips : Nat) :
    assemble r trips (Outcome.allDropped (r.deliveries.length + 1)) = .ok (allUnserved r) := by
  have nodes : (List.range (r.deliveries.length + 1)).tail = List.range' 1 r.deliveries.length := by
    rw [List.tail_range, Nat.add_sub_cancel]
  have ids : (List.range' 1 r.deliveries.length).mapM (idOf r) =
      .ok (r.deliveries.map Delivery.id) := by
    have same : (List.range' 1 r.deliveries.length).map (fun node => (r.deliveryAt node).id) =
        ((List.range' 1 r.deliveries.length).map r.deliveryAt).map Delivery.id := by
      rw [List.map_map]
      rfl
    have known : ∀ node ∈ List.range' 1 r.deliveries.length,
        1 ≤ node ∧ node ≤ r.deliveries.length := by
      intro node hnode
      rw [List.mem_range'_1] at hnode
      omega
    rw [mapM_eq_ok_map fun node hnode => idOf_eq_ok (known node hnode), same, r.map_deliveryAt]
  rw [assemble, Outcome.allDropped, nodes, ids]
  rfl

end Response

/-! ### Cancelled plans -/

section Plans

variable {source : Source} {r : Request}

/-- A plan that is cancelled before it begins serves nothing, whatever the durations and the
capacities are. -/
theorem plan_under_cancelled (params : Params) (steps : Nat)
    (rows : ∀ points, ∃ table, source points = .ok table ∧ table.toRows.length = points.length)
    (accepted : r.deliveries = [] ∨ ∃ draft, r.draft = .ok draft) :
    (plan source params steps r).Under (·.cancelled = true) (· = .ok (Response.allUnserved r)) := by
  by_cases none : r.deliveries = []
  · rw [plan, if_pos (by simpa using none)]
    show Except.ok Response.empty = Except.ok (Response.allUnserved r)
    rw [Response.allUnserved, none]
    rfl
  · obtain ⟨draft, hdraft⟩ := accepted.resolve_left none
    obtain ⟨table, htable, length⟩ := rows draft.points
    have nodes : (draft.withDurations table).durations.length = r.deliveries.length + 1 :=
      length.trans (Request.of_draft_eq_ok hdraft).1
    have several : 2 ≤ (draft.withDurations table).durations.length := by
      have := List.length_pos_iff.mpr none
      omega
    rw [plan, if_neg (by simpa using none), hdraft]
    dsimp only
    rw [htable]
    refine (solve_under_cancelled steps several).bind ?_
    rintro result rfl
    show r.respond params _ = _
    rw [nodes, Request.respond, Response.assemble_allDropped]
    rfl

end Plans

/-! ### Requests without a worker -/

namespace Polling

theorem run_uncancelled {α : Type} (signal : Nat → Poll) (p : Polling α) (k : Nat) :
    p.uncancelled.run signal k = p.run (fun i => ⟨false, (signal i).elapsed⟩) k := by
  induction p generalizing k with
  | done a => rfl
  | ask next ih => exact ih _ (k + 1)

end Polling

section Solves

variable {planner : Planner} {r : Request} {signal : Nat → Poll}

/-- A request with an id is planned, and looked up once more if there is a response by then. -/
theorem run_solveAtOnce {id : String} (named : r.jobId = some id) :
    (solveAtOnce planner r).run signal 0 =
      match (planner r).run signal 0 with
      | (.error fault, k) => (.error fault, k)
      | (.ok response, k) =>
        (.ok (if (signal k).cancelled then Response.allUnserved r else response), k + 1) := by
  rw [solveAtOnce, named]
  dsimp only
  rw [Polling.run_bind]
  rcases (planner r).run signal 0 with ⟨fault | response, k⟩
  · rfl
  · rfl

/-- A request with an id that is cancelled all along is not served, if that is what its plan comes
to, and keeps its fault if it has one. -/
theorem solveAtOnce_answer_of_cancelled {id : String} (named : r.jobId = some id)
    (always : ∀ k, (signal k).cancelled = true) :
    (solveAtOnce planner r).answer signal =
      ((planner r).answer signal).map fun _ => Response.allUnserved r := by
  rw [Polling.answer, run_solveAtOnce named, Polling.answer]
  rcases (planner r).run signal 0 with ⟨fault | response, k⟩
  · rfl
  · dsimp only
    rw [if_pos (always k)]
    rfl

/-- A request that is not cancelled at any of the questions asked is planned like one that nobody
can cancel. -/
theorem solveAtOnce_answer
    (calm : r.jobId = none ∨
      ∀ k < (solveAtOnce planner r).polls signal, (signal k).cancelled = false) :
    (solveAtOnce planner r).answer signal =
      (planner r).answer fun k => ⟨false, (signal k).elapsed⟩ := by
  cases named : r.jobId with
  | none =>
    rw [solveAtOnce, named, Polling.answer]
    dsimp only
    rw [Polling.run_uncancelled]
    rfl
  | some id =>
    have calm := calm.resolve_left (by rw [named]; exact Option.some_ne_none id)
    have run : (solveAtOnce planner r).run signal 0 = _ := run_solveAtOnce named
    rcases planned : (planner r).run signal 0 with ⟨result, asked⟩
    rw [planned] at run
    have whole : asked ≤ (solveAtOnce planner r).polls signal := by
      rw [Polling.polls, run]
      cases result with
      | error fault => exact Nat.le_refl asked
      | ok response => exact Nat.le_succ asked
    -- as long as it is not cancelled, the planner is told what it would be told in any case
    have undisturbed : (planner r).run (fun k => ⟨false, (signal k).elapsed⟩) 0 =
        (result, asked) := by
      rw [← planned]
      refine Polling.run_congr fun k _ hk => ?_
      rw [planned] at hk
      rw [← calm k (Nat.lt_of_lt_of_le hk whole)]
    cases result with
    | error fault => rw [Polling.answer, run, Polling.answer, undisturbed]
    | ok response =>
      have last : (signal asked).cancelled = false := by
        refine calm asked ?_
        rw [Polling.polls, run]
        exact Nat.lt_succ_self asked
      rw [Polling.answer, run, Polling.answer, undisturbed]
      dsimp only
      rw [if_neg (Bool.eq_false_iff.mp last)]

end Solves

/-! ### Calls in the midst of events -/

namespace Service

section Definitions

variable (planner : Planner) (id? : Option String) (between : Nat → List Event)
  (clock : Nat → Int)

/-- Go through a computation from its `k`-th question on. Before each question other things happen,
then its id is looked up, in case it has one. -/
def consult {α : Type} : Polling α → Nat → Service → α × Service
  | .done a, _, s => (a, s)
  | .ask next, k, s =>
    let s := (s.run planner (between k)).run planner (id?.toList.map .look)
    consult (next ⟨id?.any s.table.isCancelled, clock k⟩) (k + 1) s

/-- What others do before the `k`-th look. -/
def others (k : Nat) : List Event := (List.range k).flatMap between

/-- What the call is told at its `k`-th question. -/
def told (s : Service) (k : Nat) : Poll :=
  ⟨id?.any (s.run planner (others between (k + 1))).table.isCancelled, clock k⟩

/-- Solve a request at once, while other things happen between the questions of the planner. -/
def atOnce (s : Service) (r : Request) : PlanResult × Service :=
  consult planner r.jobId between clock (solveAtOnce planner r) 0 s

end Definitions

variable {s : Service} {planner : Planner} {id? : Option String} {between : Nat → List Event}
  {clock : Nat → Int}

theorem run_look (s : Service) (planner : Planner) (ids : List String) :
    s.run planner (ids.map .look) = s := by
  induction ids with
  | nil => rfl
  | cons id ids ih => exact ih

theorem others_succ (between : Nat → List Event) (k : Nat) :
    others between (k + 1) = others between k ++ between k := by
  rw [others, List.range_succ, List.flatMap_append, List.flatMap_singleton]
  rfl

/-- **A call changes nothing**: it comes to what its computation comes to with what it is told, and
leaves the service as the others leave it. -/
theorem consult_eq {α : Type} (s : Service) (p : Polling α) (k : Nat) :
    consult planner id? between clock p k (s.run planner (others between k)) =
      ((p.run (told planner id? between clock s) k).1,
        s.run planner (others between (p.run (told planner id? between clock s) k).2)) := by
  induction p generalizing k with
  | done a => rfl
  | ask next ih =>
    have now : ((s.run planner (others between k)).run planner (between k)).run planner
        (id?.toList.map .look) = s.run planner (others between (k + 1)) := by
      rw [run_look, ← run_append, ← others_succ]
    rw [consult, Polling.run_ask, now]
    exact ih _ (k + 1)

theorem atOnce_eq (s : Service) (planner : Planner) (between : Nat → List Event)
    (clock : Nat → Int) (r : Request) : s.atOnce planner between clock r =
      ((solveAtOnce planner r).answer (s.told planner r.jobId between clock),
        s.run planner (others between
          ((solveAtOnce planner r).polls (s.told planner r.jobId between clock)))) :=
  consult_eq s (solveAtOnce planner r) 0

theorem cancelled_told (h : s.Reachable planner) {id : String} {e : JobEntry}
    (he : s.table[id]? = some e) (cancelled : e.status = .cancelled) (k : Nat) :
    (s.told planner (some id) between clock k).cancelled = true := by
  obtain ⟨⟨e', he', stays⟩, -⟩ :=
    h.isCancelled_run ⟨e, he, cancelled⟩ (others between (k + 1))
  have he' : (s.run planner (others between (k + 1))).table[id]? = some e' := he'
  rw [told, Option.any_some, JobTable.isCancelled, he']
  exact decide_eq_true stays

/-- **To solve a request at once heeds a cancellation.** If the id of the request is cancelled when
the call begins, nothing is served, whatever the durations and the capacities are; only a request
that cannot be drafted gets its own fault. If there is no id, or none of the questions asked finds
it cancelled, the request is planned as if nobody could cancel. In any case the service is
afterwards as all the others have made it. -/
theorem Reachable.atOnce_heeds_cancellation {source : Source} {params : Params} {steps : Nat}
    (rows : ∀ points, ∃ table, source points = .ok table ∧ table.toRows.length = points.length)
    (h : s.Reachable (plan source params steps)) (r : Request) (between : Nat → List Event)
    (clock : Nat → Int) :
    (∀ id e, r.jobId = some id → s.table[id]? = some e → e.status = .cancelled →
      (r.deliveries = [] ∨ (∃ draft, r.draft = .ok draft) →
        (s.atOnce (plan source params steps) between clock r).1 = .ok (Response.allUnserved r)) ∧
      ∀ fault, r.deliveries ≠ [] → r.draft = .error fault →
        (s.atOnce (plan source params steps) between clock r).1 = .error (.request fault)) ∧
    ((r.jobId = none ∨ ∀ k < (solveAtOnce (plan source params steps) r).polls
        (s.told (plan source params steps) r.jobId between clock),
          (s.told (plan source params steps) r.jobId between clock k).cancelled = false) →
      (s.atOnce (plan source params steps) between clock r).1 =
        (plan source params steps r).answer fun k => ⟨false, clock k⟩) ∧
    (s.atOnce (plan source params steps) between clock r).2 =
      s.run (plan source params steps) (others between ((solveAtOnce (plan source params steps)
        r).polls (s.told (plan source params steps) r.jobId between clock))) := by
  rw [atOnce_eq]
  refine ⟨fun id e named he cancelled =>
    ⟨fun accepted => ?dropped, fun fault some hdraft => ?refused⟩, fun calm => ?calm, rfl⟩
  case dropped =>
    have planned : (plan source params steps r).answer
        (s.told (plan source params steps) (some id) between clock) =
          .ok (Response.allUnserved r) :=
      (plan_under_cancelled params steps rows accepted).run fun k _ =>
        cancelled_told h he cancelled k
    rw [named, solveAtOnce_answer_of_cancelled named (cancelled_told h he cancelled), planned]
    rfl
  case refused =>
    rw [named, solveAtOnce_answer_of_cancelled named (cancelled_told h he cancelled),
      plan_of_draft_eq_error some hdraft]
    rfl
  case calm => exact solveAtOnce_answer calm

/-- A source that estimates all durations. -/
def estimates : Source := Provider.source (.greatCircle 30.0) none

theorem rows_estimates (points : List Point) :
    ∃ table, estimates points = .ok table ∧ table.toRows.length = points.length :=
  ⟨_, rfl, (Provider.covers_lookup (.greatCircle 30.0) none points).length_toRows⟩

def estimatePlanner : Planner := plan estimates greedyParams 5

/-- The service after someone has cancelled the small job, which it does not know. -/
def buried : Service := idle.run estimatePlanner [.cancel "pair" ⟨1⟩]

theorem getElem?_idle (id : String) : idle.table[id]? = none := Std.HashMap.getElem?_empty

theorem getElem?_buried : buried.table["pair"]? = some (.tombstone ⟨1⟩) := by
  simp only [buried, Service.run, List.foldl, after, Service.cancel,
    JobTable.cancel_of_unknown (getElem?_idle "pair"), Std.HashMap.getElem?_insert_self]

theorem others_nil (k : Nat) : others (fun _ => []) k = [] :=
  List.flatMap_eq_nil_iff.mpr fun _ _ => rfl

/-- The small job is cancelled before it is solved at once: nothing is served, and a delivery of
nothing is complained of all the same. Where nobody cancels it is planned, with or without an
id. -/
theorem atOnce_heeds_cancellation_pairJob :
    buried.atOnce estimatePlanner (fun _ => []) (fun _ => 0) pairJob =
      (.ok ⟨[], [11, 12]⟩, buried) ∧
    (buried.atOnce estimatePlanner (fun _ => []) (fun _ => 0)
      { pairJob with deliveries := [⟨11, ⟨1, 1⟩, 0, .asap, none, none, none⟩] }).1 =
        .error (.request (.demand 11 0)) ∧
    (buried.atOnce estimatePlanner (fun _ => []) (fun _ => 0) pairRequest).1 =
      (estimatePlanner pairRequest).answer undisturbed ∧
    (idle.atOnce estimatePlanner (fun _ => []) (fun _ => 0) pairJob).1 =
      (estimatePlanner pairJob).answer undisturbed := by
  have heeds (events : List Event) (r : Request) :=
    Reachable.atOnce_heeds_cancellation rows_estimates (reachable_run estimatePlanner events) r
      (fun _ => []) fun _ => 0
  have drafted : pairJob.draft = .ok pairDraft := rfl
  refine ⟨Prod.ext ?_ ?_, ?_, (heeds _ pairRequest).2.1 (.inl rfl), ?_⟩
  · exact ((heeds _ pairJob).1 "pair" _ rfl getElem?_buried rfl).1 (.inr ⟨_, drafted⟩)
  · refine (heeds _ pairJob).2.2.trans ?_
    rw [others_nil]
    rfl
  · exact ((heeds _ _).1 "pair" _ rfl getElem?_buried rfl).2 _ (List.cons_ne_nil _ _) rfl
  · refine (heeds [] pairJob).2.1 (.inr fun k _ => ?_)
    have free : idle.table.isCancelled "pair" = false := by
      rw [JobTable.isCancelled, getElem?_idle]
    show (idle.run estimatePlanner (others (fun _ => []) (k + 1))).table.isCancelled "pair" = false
    rw [others_nil]
    exact free

end Service

end DeliveryRouting
