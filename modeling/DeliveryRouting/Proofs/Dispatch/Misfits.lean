import DeliveryRouting.Proofs.Dispatch.Attribution
import DeliveryRouting.Proofs.Model.Alignment
import DeliveryRouting.Proofs.Search.Signals

/-! # Tables that do not fit a request

A source should give a table with a row for the depot and one for each delivery. If it gives another
one, the draft does not have as many demands as rows, so there is no model of it, and the request is
refused (`plan_of_misfit`). But a solve looks at the number of rows first: with one row or none
there is nothing to do. So a table that small is not compared with the request, which is answered by
the empty response, and its deliveries are neither served nor unserved (`plan_of_few`). -/

namespace DeliveryRouting

theorem TravelTable.length_toRows_le_one_iff {t : TravelTable} :
    t.toRows.length ≤ 1 ↔ t.locations = 0 ∨ t.durations.length ≤ t.locations := by
  unfold toRows
  by_cases none : t.locations = 0 ∨ t.durations = []
  · rw [chunks_eq_nil_iff.mpr none]
    rcases none with none | none <;> simp [none]
  · obtain ⟨hn, some⟩ := not_or.mp none
    have rest : (chunks t.locations (t.durations.drop t.locations)).length = 0 ↔
        t.locations = 0 ∨ t.durations.length ≤ t.locations := by
      rw [List.length_eq_zero_iff, chunks_eq_nil_iff, List.drop_eq_nil_iff]
    rw [chunks_of_ne hn some, List.length_cons, ← rest]
    omega

theorem Response.assemble_empty (r : Request) (trips : Nat) :
    assemble r trips Outcome.empty = .ok Response.empty := rfl

section Solves

variable {p : Params} {problem : Problem} {fault : ModelFault} {signal : Nat → Poll}

theorem solve_of_few (few : problem.durations.length ≤ 1) (p : Params) (steps : Nat) :
    solve p steps problem = .done (.ok Outcome.empty) := if_pos few

theorem solve_of_build_eq_error (several : 2 ≤ problem.durations.length)
    (refused : Model.build problem p.trips p.service p.width = .error fault) (quiet : Quiet signal)
    (steps : Nat) : (solve p steps problem).answer signal = .error (.model fault) := by
  have more : ¬ problem.durations.length ≤ 1 := by omega
  have going : ¬ (signal 0).cancelled = true := by rw [quiet 0]; decide
  unfold solve
  simp only [if_neg more, refused]
  rw [Polling.answer, Polling.run_ask, if_neg going]
  rfl

end Solves

section Misfits

variable {source : Source} {r : Request} {draft : Draft} {table : TravelTable} {signal : Nat → Poll}

theorem plan_of_few (some : r.deliveries ≠ []) (hdraft : r.draft = .ok draft)
    (htable : source draft.points = .ok table) (few : table.toRows.length ≤ 1) (params : Params)
    (steps : Nat) (signal : Nat → Poll) :
    (plan source params steps r).answer signal = .ok Response.empty := by
  have nothing : solve params steps (draft.withDurations table) = .done (.ok Outcome.empty) :=
    solve_of_few few params steps
  rw [plan_answer some hdraft htable, nothing, respond_eq_ok_iff]
  exact ⟨Outcome.empty, rfl, Response.assemble_empty r params.trips⟩

theorem first_of_misfit (hdraft : r.draft = .ok draft)
    (misfit : table.toRows.length ≠ r.deliveries.length + 1) (trips : Nat) (service : Int)
    (width : Width) : ∃ fault,
      Model.build (draft.withDurations table) trips service width = .error fault ∧
        (draft.withDurations table).First fault := by
  cases built : Model.build (draft.withDurations table) trips service width with
  | error fault => exact ⟨fault, rfl, Model.first_of_build built⟩
  | ok m =>
    obtain ⟨-, fits, -⟩ := Model.build_eq_ok_iff.mp built
    obtain ⟨-, demands, -⟩ := Request.of_draft_eq_ok hdraft
    have fitting : draft.problem.demands.length = table.toRows.length := fits.demands
    rw [demands, List.length_cons, List.length_map] at fitting
    exact absurd fitting.symm misfit

/-- **A table that does not fit is refused if it has several rows**, with the first fault of the
drafted problem. Only if it has at most one, because there are no locations or no more entries than
one row holds, the request is answered: by the empty response, which has none of its deliveries. -/
theorem plan_of_misfit (some : r.deliveries ≠ []) (hdraft : r.draft = .ok draft)
    (htable : source draft.points = .ok table)
    (misfit : table.toRows.length ≠ r.deliveries.length + 1) (quiet : Quiet signal)
    (params : Params) (steps : Nat) :
    (2 ≤ table.toRows.length → ∃ fault, (draft.withDurations table).First fault ∧
      (plan source params steps r).answer signal = .error (.model fault)) ∧
    (table.toRows.length ≤ 1 →
      (plan source params steps r).answer signal = .ok Response.empty) ∧
    (table.toRows.length ≤ 1 ↔ table.locations = 0 ∨ table.durations.length ≤ table.locations) := by
  refine ⟨fun several => ?_, fun few => plan_of_few some hdraft htable few params steps signal,
    TravelTable.length_toRows_le_one_iff⟩
  obtain ⟨fault, refused, first⟩ := first_of_misfit hdraft misfit params.trips params.service
    params.width
  have solved : (solve params steps (draft.withDurations table)).answer signal =
      .error (.model fault) := solve_of_build_eq_error several refused quiet steps
  exact ⟨fault, first, by rw [plan_answer some hdraft htable, solved, Request.respond]⟩

/-- Two rows are too few for two deliveries. -/
theorem plan_of_misfit_pairRequest : ∃ fault,
    (pairDraft.withDurations (.ofRows [[0, 1], [1, 0]])).First fault ∧
      (plan (fun _ => .ok (.ofRows [[0, 1], [1, 0]])) greedyParams 5 pairRequest).answer
        undisturbed = .error (.model fault) := by
  have rows : (TravelTable.ofRows [[0, 1], [1, 0]]).toRows.length = 2 := by
    simp [TravelTable.ofRows, TravelTable.toRows, chunks]
  have misfit : (TravelTable.ofRows [[0, 1], [1, 0]]).toRows.length ≠
      pairRequest.deliveries.length + 1 := by rw [rows]; decide
  have drafted : pairRequest.draft = .ok pairDraft := rfl
  exact (plan_of_misfit (List.cons_ne_nil _ _) drafted rfl misfit quiet_undisturbed greedyParams
    5).1 rows.ge

/-- A table of one row, or of none, is not refused: the response has none of the two deliveries. -/
theorem misfit_answered :
    (plan (fun _ => .ok ⟨[0], 1⟩) greedyParams 5 pairRequest).answer undisturbed =
        .ok Response.empty ∧
      (plan (fun _ => .ok ⟨[], 0⟩) greedyParams 5 pairRequest).answer undisturbed =
        .ok Response.empty ∧
      ¬ ∀ (source : Source) (r : Request) (draft : Draft) (table : TravelTable),
        r.deliveries ≠ [] → r.draft = .ok draft → source draft.points = .ok table →
          table.toRows.length ≠ r.deliveries.length + 1 → ∀ signal, Quiet signal →
            ∀ params steps, ∃ fault,
              (plan source params steps r).answer signal = .error (.model fault) := by
  have drafted : pairRequest.draft = .ok pairDraft := rfl
  have one : (TravelTable.mk [0] 1).toRows.length ≤ 1 :=
    TravelTable.length_toRows_le_one_iff.mpr (.inr (Nat.le_refl 1))
  have none : (TravelTable.mk [] 0).toRows.length ≤ 1 :=
    TravelTable.length_toRows_le_one_iff.mpr (.inl rfl)
  have answered : (plan (fun _ => .ok ⟨[0], 1⟩) greedyParams 5 pairRequest).answer undisturbed =
      .ok Response.empty := plan_of_few (List.cons_ne_nil _ _) drafted rfl one greedyParams 5 _
  refine ⟨answered, plan_of_few (List.cons_ne_nil _ _) drafted rfl none greedyParams 5 _, ?_⟩
  intro refused
  have misfit : (TravelTable.mk [0] 1).toRows.length ≠ pairRequest.deliveries.length + 1 :=
    Nat.ne_of_lt (Nat.lt_of_le_of_lt one (by decide))
  obtain ⟨fault, failed⟩ := refused (fun _ => .ok ⟨[0], 1⟩) pairRequest pairDraft ⟨[0], 1⟩
    (List.cons_ne_nil _ _) drafted rfl misfit undisturbed quiet_undisturbed greedyParams 5
  rw [answered] at failed
  cases failed

end Misfits

end DeliveryRouting
