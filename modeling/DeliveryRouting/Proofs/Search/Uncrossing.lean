import DeliveryRouting.Proofs.Construction.Insertions
import DeliveryRouting.Proofs.Search.Segments
import DeliveryRouting.Proofs.Trip.Arcs

/-! # The two arcs of a two-opt

A two-opt serves a run of stops in the opposite direction. It comes to the run at its last stop
instead of its first and leaves it at the first instead of the last; all arcs within the run are
travelled the other way round (`exists_path`, `tripArcs_reverseSegment`).

Where a way takes as long as the way back, so does an arc between two deliveries, as either end of it
takes the same time to serve (`Model.transit_comm`). Then the two arcs at the ends of the run are all
that a two-opt changes of the cost, although the cost is always summed up anew
(`Move.twoOpt_changes_two_arcs`). -/

namespace DeliveryRouting

variable {nodes : List Nat} {position first last : Nat}

/-! ### Runs of stops -/

theorem take_eq_concat_stopBefore (h : position ≤ nodes.length) :
    depot :: nodes.take position =
      (depot :: nodes).take position ++ [stopBefore nodes position] := by
  have within : position < (depot :: nodes).length := by simp; omega
  rw [stopBefore, List.getD_eq_getElem _ _ within, List.take_append_getElem, List.take_succ_cons]

theorem drop_eq_cons_stopAt (nodes : List Nat) (position : Nat) : ∃ after,
    nodes.drop position ++ [depot] = stopAt nodes position :: after := by
  unfold stopAt
  by_cases h : position < nodes.length
  · rw [List.drop_eq_getElem_cons h, List.getD_eq_getElem _ _ h]
    exact ⟨_, List.cons_append⟩
  · rw [List.drop_eq_nil_of_le (by omega), List.getD_eq_default _ _ (by omega)]
    exact ⟨[], rfl⟩

theorem segment_eq_cons_concat (several : first < last) (within : last < nodes.length) :
    segment nodes first (last + 1 - first) =
      stopAt nodes first :: segment nodes (first + 1) (last - first - 1) ++ [stopAt nodes last] := by
  have hfirst : first < nodes.length := by omega
  have count : last + 1 - first = last - first - 1 + 1 + 1 := by omega
  have place : first + 1 + (last - first - 1) = last := by omega
  unfold segment stopAt
  rw [List.getD_eq_getElem _ _ hfirst, List.getD_eq_getElem _ _ within,
    List.drop_eq_getElem_cons hfirst, count, List.take_succ_cons, List.take_add_one,
    List.getElem?_drop, place, List.getElem?_eq_getElem within]
  rfl

/-- The path over a run of stops, as it is and the other way round. -/
theorem exists_path (some : first ≤ last) (within : last < nodes.length) : ∃ before after,
    depot :: nodes ++ [depot] = before ++ stopBefore nodes first ::
      segment nodes first (last + 1 - first) ++ stopAt nodes (last + 1) :: after ∧
    depot :: reverseSegment nodes first last ++ [depot] = before ++ stopBefore nodes first ::
      (segment nodes first (last + 1 - first)).reverse ++ stopAt nodes (last + 1) :: after := by
  obtain ⟨after, hafter⟩ := drop_eq_cons_stopAt nodes (last + 1)
  have hbefore : depot :: nodes.take first =
      (depot :: nodes).take first ++ [stopBefore nodes first] :=
    take_eq_concat_stopBefore (by omega)
  have whole : nodes.take first ++ segment nodes first (last + 1 - first) ++ nodes.drop (last + 1) =
      nodes := by
    have place : last + 1 = first + (last + 1 - first) := by omega
    have rest : nodes.drop (last + 1) = (nodes.drop first).drop (last + 1 - first) := by
      rw [List.drop_drop, ← place]
    rw [rest, segment, List.append_assoc, List.take_append_drop, List.take_append_drop]
  refine ⟨(depot :: nodes).take first, after, ?forth, ?back⟩
  case forth =>
    calc depot :: nodes ++ [depot]
        = (depot :: nodes.take first) ++ segment nodes first (last + 1 - first) ++
            (nodes.drop (last + 1) ++ [depot]) := by
          conv_lhs => rw [← whole]
          simp
      _ = _ := by rw [hbefore, hafter]; simp
  case back =>
    calc depot :: reverseSegment nodes first last ++ [depot]
        = (depot :: nodes.take first) ++ (segment nodes first (last + 1 - first)).reverse ++
            (nodes.drop (last + 1) ++ [depot]) := by
          rw [reverseSegment]
          simp
      _ = _ := by rw [hbefore, hafter]; simp

/-- **A run that is reversed exchanges the two arcs at its ends** and has the arcs within it travelled
the other way round. All other arcs stay as they are. -/
theorem tripArcs_reverseSegment (several : first < last) (within : last < nodes.length) :
    ∃ before after,
      tripArcs nodes = before ++ (stopBefore nodes first, stopAt nodes first) ::
        arcsAlong (segment nodes first (last + 1 - first)) ++
          (stopAt nodes last, stopAt nodes (last + 1)) :: after ∧
      tripArcs (reverseSegment nodes first last) =
        before ++ (stopBefore nodes first, stopAt nodes last) ::
          ((arcsAlong (segment nodes first (last + 1 - first))).map Prod.swap).reverse ++
            (stopAt nodes first, stopAt nodes (last + 1)) :: after := by
  obtain ⟨before, after, forth, back⟩ := exists_path (Nat.le_of_lt several) within
  have stops : nodes ≠ [] := List.ne_nil_of_length_pos (by omega)
  have reversed : reverseSegment nodes first last ≠ [] := by
    refine List.ne_nil_of_length_pos ?_
    rw [length_reverseSegment (by omega)]
    omega
  have run := segment_eq_cons_concat several within
  have turned : (segment nodes first (last + 1 - first)).reverse = stopAt nodes last ::
      (segment nodes (first + 1) (last - first - 1)).reverse ++ [stopAt nodes first] := by
    rw [run]
    simp
  refine ⟨arcsAlong (before ++ [stopBefore nodes first]),
    arcsAlong (stopAt nodes (last + 1) :: after), ?_, ?_⟩
  · have path := arcsAlong_run before (segment nodes (first + 1) (last - first - 1)) after
      (stopBefore nodes first) (stopAt nodes first) (stopAt nodes last) (stopAt nodes (last + 1))
    rw [tripArcs_eq stops, forth, run, ← path]
    simp
  · have path := arcsAlong_run before (segment nodes (first + 1) (last - first - 1)).reverse after
      (stopBefore nodes first) (stopAt nodes last) (stopAt nodes first) (stopAt nodes (last + 1))
    rw [tripArcs_eq reversed, back, ← arcsAlong_reverse, turned, ← path]
    simp

/-! ### Costs -/

section Symmetric

variable {m : Model} {i j : Nat}
  (symmetric : ∀ i < m.numNodes, ∀ j < m.numNodes, m.travel.duration i j = m.travel.duration j i)
include symmetric

theorem Model.transit_comm (hi : i ∈ m.deliveries) (hj : j ∈ m.deliveries) :
    m.transit i j = m.transit j i := by
  obtain ⟨hid, hi⟩ := m.mem_deliveries.mp hi
  obtain ⟨hjd, hj⟩ := m.mem_deliveries.mp hj
  have way := symmetric i hi j hj
  rw [transit, transit, leg, leg, serviceAt, serviceAt, if_neg hid, if_neg hjd, way]

/-- **A run that is reversed costs what the two arcs at its ends do**, as far as costs are kept. -/
theorem tripCost_reverseSegment (deliveries : ∀ node ∈ nodes, node ∈ m.deliveries)
    (several : first < last) (within : last < nodes.length) :
    m.keep (tripCost m (reverseSegment nodes first last) - tripCost m nodes) =
      m.keep (m.transit (stopBefore nodes first) (stopAt nodes last) +
        m.transit (stopAt nodes first) (stopAt nodes (last + 1)) -
        m.transit (stopBefore nodes first) (stopAt nodes first) -
        m.transit (stopAt nodes last) (stopAt nodes (last + 1))) := by
  obtain ⟨before, after, forth, back⟩ := tripArcs_reverseSegment several within
  set inner := arcsAlong (segment nodes first (last + 1 - first)) with hinner
  have ends : ∀ arc ∈ inner, arc.1 ∈ m.deliveries ∧ arc.2 ∈ m.deliveries := by
    intro arc harc
    have run : segment nodes first (last + 1 - first) ⊆ nodes :=
      List.Subset.trans (List.take_subset _ _) (List.drop_subset _ _)
    obtain ⟨hfrom, hto⟩ := ends_of_mem_arcsAlong harc
    exact ⟨deliveries _ (run hfrom), deliveries _ (run hto)⟩
  have same : (((inner.map Prod.swap).reverse).map fun arc => m.transit arc.1 arc.2).sum =
      (inner.map fun arc => m.transit arc.1 arc.2).sum := by
    rw [List.map_reverse, List.sum_reverse, List.map_map]
    refine congrArg List.sum (List.map_congr_left fun arc harc => ?_)
    exact Model.transit_comm symmetric (ends arc harc).2 (ends arc harc).1
  rw [tripCost, tripCost, Model.keep_sub_keep, Model.keep_keep_sub, forth, back]
  simp only [List.map_append, List.map_cons, List.sum_append, List.sum_cons, same]
  exact congrArg m.keep (by omega)

/-- **A two-opt changes two arcs.** Where the travel durations are symmetric and a trip visits
deliveries only, the stops from one index to a later one can be served in the opposite direction. The
trip then comes to them by an arc to the last and leaves them by one from the first, in place of the arc
to the first and the one from the last; the arcs between them are travelled the other way round, and all
others as before. What it costs more is what the two new arcs do, less the two old ones, as far as the
costs are kept. The same move on the new trip restores the old one. -/
theorem Move.twoOpt_changes_two_arcs {s : Solution} {vehicle : Nat} (trip : s.nodes vehicle = nodes)
    (deliveries : ∀ node ∈ nodes, node ∈ m.deliveries) (several : first < last)
    (within : last < nodes.length) : ∃ reversed,
    (Move.twoOpt vehicle first last).fault? m s = none ∧
    (Move.twoOpt vehicle first last).changes s = [⟨vehicle, reversed⟩] ∧
    (∃ before after,
      tripArcs nodes = before ++ (stopBefore nodes first, stopAt nodes first) ::
        arcsAlong (segment nodes first (last + 1 - first)) ++
          (stopAt nodes last, stopAt nodes (last + 1)) :: after ∧
      tripArcs reversed = before ++ (stopBefore nodes first, stopAt nodes last) ::
        ((arcsAlong (segment nodes first (last + 1 - first))).map Prod.swap).reverse ++
          (stopAt nodes first, stopAt nodes (last + 1)) :: after) ∧
    m.keep (tripCost m reversed - tripCost m nodes) =
      m.keep (m.transit (stopBefore nodes first) (stopAt nodes last) +
        m.transit (stopAt nodes first) (stopAt nodes (last + 1)) -
        m.transit (stopBefore nodes first) (stopAt nodes first) -
        m.transit (stopAt nodes last) (stopAt nodes (last + 1))) ∧
    ∀ s' : Solution, s'.nodes vehicle = reversed →
      (Move.twoOpt vehicle first last).changes s' = [⟨vehicle, nodes⟩] := by
  refine ⟨reverseSegment nodes first last, ?sensible, ?changes, ?arcs, ?cost, fun s' trip' => ?again⟩
  case sensible =>
    refine fault?_twoOpt.mpr ⟨several, Operator.hasStop_of_lt ?_⟩
    rw [trip]
    exact within
  case changes => rw [changes, trip]
  case arcs => exact tripArcs_reverseSegment several within
  case cost => exact tripCost_reverseSegment symmetric deliveries several within
  case again => rw [changes, trip', reverseSegment_reverseSegment (by omega) within]

end Symmetric

/-- Four deliveries along a line, at distances of a hundred seconds. -/
def lineModel : Model where
  travel := ⟨5, #[0, 100, 200, 300, 400, 100, 0, 100, 200, 300, 200, 100, 0, 100, 200,
    300, 200, 100, 0, 100, 400, 300, 200, 100, 0]⟩
  sites := #[⟨0, ⟨0, 36000⟩, 2⟩, ⟨1, ⟨0, 36000⟩, 2⟩, ⟨1, ⟨0, 36000⟩, 2⟩, ⟨1, ⟨0, 36000⟩, 2⟩,
    ⟨1, ⟨0, 36000⟩, 2⟩]
  vehicles := #[⟨0, 0, 10⟩]
  shiftLength := 36000
  service := 120

/-- The trip goes to the third delivery, back to the first, and on to the last. -/
def crossedTour : Solution :=
  ⟨[⟨[3, 2, 1, 4], ⟨[420, 640, 860, 1280], 1680, 4⟩, 1680⟩], [none, some 0, some 0, some 0, some 0]⟩

/-- The two arcs that are taken out, from the depot to the third delivery and from the first to the
last, take three hundred seconds each beside the service, the two new ones one hundred. -/
theorem Move.twoOpt_changes_two_arcs_crossedTour :
    (∀ i < lineModel.numNodes, ∀ j < lineModel.numNodes,
      lineModel.travel.duration i j = lineModel.travel.duration j i) ∧
    (∀ node ∈ [3, 2, 1, 4], node ∈ lineModel.deliveries) ∧
    (Move.twoOpt 0 0 2).changes crossedTour = [⟨0, [1, 2, 3, 4]⟩] ∧
    lineModel.keep (tripCost lineModel [1, 2, 3, 4] - tripCost lineModel [3, 2, 1, 4]) =
      lineModel.keep (lineModel.transit 0 1 + lineModel.transit 3 4 - lineModel.transit 0 3 -
        lineModel.transit 1 4) ∧
    lineModel.transit 0 1 + lineModel.transit 3 4 - lineModel.transit 0 3 -
      lineModel.transit 1 4 = -400 := by
  have symmetric : ∀ i < lineModel.numNodes, ∀ j < lineModel.numNodes,
      lineModel.travel.duration i j = lineModel.travel.duration j i := by decide
  have deliveries : ∀ node ∈ [3, 2, 1, 4], node ∈ lineModel.deliveries := by decide
  have trip : crossedTour.nodes 0 = [3, 2, 1, 4] := rfl
  have several : 0 < 2 := by decide
  obtain ⟨reversed, -, changed, -, cost, -⟩ :=
    Move.twoOpt_changes_two_arcs symmetric trip deliveries several (by decide)
  have same : [(⟨0, [1, 2, 3, 4]⟩ : Change)] = [⟨0, reversed⟩] := changed
  obtain rfl : [1, 2, 3, 4] = reversed := (Change.mk.inj (List.singleton_inj.mp same)).2
  exact ⟨symmetric, deliveries, changed, cost, by decide⟩

end DeliveryRouting
