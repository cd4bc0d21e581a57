import DeliveryRouting.Proofs.Search.Reachable
import DeliveryRouting.Search.Solve

/-! # What a solve attains

The solve of a problem looks at solutions only that come about by steps from the one in which no
vehicle moves: greedy insertions first, then the moves of the descents. So the best solution of a
search is reachable, and the outcome of a solve is that of a reachable solution unless nothing was
to be solved or the solve was cancelled (`solve_attains`). The questions asked on the way are all
answered arbitrarily here, by `Polling.Always`. -/

namespace DeliveryRouting

namespace Solution

variable {m : Model} {s s' : Solution} {node vehicle position : Nat} {i : Insertion}

/-! ### Construction -/

theorem insertionAt?_eq_some_iff : s.insertionAt? m node vehicle position = some i ↔
    (∃ schedule, Schedule.compute m vehicle (splice (s.nodes vehicle) position [node]) =
      .ok schedule) ∧
    i = ⟨node, vehicle, position,
      m.keep (tripCost m (splice (s.nodes vehicle) position [node]) - (s.trip vehicle).cost)⟩ := by
  unfold insertionAt?
  dsimp only
  split
  · next schedule h => simp [h, eq_comm]
  · next e h => simp [h]

/-- The insertions of a node on a trip are those at all its places that make a trip which can be
run, unless the trip has no room. -/
theorem mem_insertions : i ∈ s.insertions m node vehicle ↔
    m.keep ((s.trip vehicle).load + m.demand node) ≤ m.capacity vehicle ∧
    ∃ position ≤ (s.nodes vehicle).length,
      (∃ schedule, Schedule.compute m vehicle (splice (s.nodes vehicle) position [node]) =
        .ok schedule) ∧
      i = ⟨node, vehicle, position,
        m.keep (tripCost m (splice (s.nodes vehicle) position [node]) - (s.trip vehicle).cost)⟩ := by
  unfold insertions
  split
  · next full => simp; omega
  · next room =>
    rw [Int.not_lt] at room
    simp only [List.mem_filterMap, List.mem_range, insertionAt?_eq_some_iff, Nat.lt_succ_iff]
    exact ⟨fun found => ⟨room, found⟩, And.right⟩

theorem node_of_bestInsertion (h : s.bestInsertion m node = some i) : i.node = node := by
  obtain ⟨vehicle, -, hi⟩ := List.mem_flatMap.mp (mem_and_le_of_firstMin h).1
  obtain ⟨-, position, -, -, rfl⟩ := mem_insertions.mp hi
  rfl

theorem node_mem_of_cheapestInsertion {nodes : List Nat}
    (h : s.cheapestInsertion m nodes = some i) : i.node ∈ nodes := by
  obtain ⟨node, hnode, hi⟩ := List.mem_filterMap.mp (mem_and_le_of_firstMin h).1
  rwa [node_of_bestInsertion hi]

theorem extend?_eq_some_iff : s.extend? m = some s' ↔
    ∃ i, s.cheapestInsertion m s.dropped = some i ∧ gain m i < 0 ∧
      s.insert m i.node i.vehicle i.position = .ok s' := by
  unfold extend?
  cases s.cheapestInsertion m s.dropped with
  | none => simp
  | some i =>
    by_cases hg : gain m i < 0
    · cases hinsert : s.insert m i.node i.vehicle i.position <;>
        simp [hg, hinsert, Except.toOption]
    · simp [hg]

theorem tryInsert_of_insert (h : s.insert m node vehicle position = .ok s') :
    s.tryInsert m node vehicle position = s' := by
  rw [tryInsert, h]
  rfl

theorem step_of_extend? (h : s.extend? m = some s') : Step m s s' := by
  obtain ⟨i, hi, -, hinsert⟩ := extend?_eq_some_iff.mp h
  rw [← tryInsert_of_insert hinsert]
  exact .insert (node_mem_of_cheapestInsertion hi)

theorem Reachable.extend (steps : Nat) (h : Reachable m s) : Reachable m (extend m steps s) := by
  induction steps generalizing s with
  | zero => exact h
  | succ steps ih =>
    unfold Solution.extend
    split
    · exact h
    · next s' hs' => exact ih (h.step (step_of_extend? hs'))

theorem reachable_construct (m : Model) : Reachable m (construct m) :=
  Reachable.empty.extend m.numNodes

end Solution

open Solution

/-! ### Descents -/

section Descent

variable {m : Model} {g : Guidance} {s : Solution} {operator : Operator} {e : EvaluatedMove}

/-- The evaluation of a generated move of a kind that is accepted as an improvement, or as better
than another one that is. -/
inductive Operator.Accepted (operator : Operator) (m : Model) (g : Guidance) (s : Solution) :
    EvaluatedMove → Prop
  | improves {move : Move} {e : EvaluatedMove} (generated : move ∈ operator.moves m s)
      (accepted : move.evaluate m g s improvementThreshold = some e) : operator.Accepted m g s e
  | better {move : Move} {e best : EvaluatedMove} (earlier : operator.Accepted m g s best)
      (generated : move ∈ operator.moves m s)
      (accepted : move.evaluate m g s best.delta = some e) : operator.Accepted m g s e

theorem Operator.Accepted.evaluate (h : operator.Accepted m g s e) :
    ∃ move ∈ operator.moves m s, ∃ threshold, move.evaluate m g s threshold = some e := by
  cases h with
  | improves generated accepted => exact ⟨_, generated, _, accepted⟩
  | better _ generated accepted => exact ⟨_, generated, _, accepted⟩

theorem Operator.Accepted.step (h : operator.Accepted m g s e) : Step m s (e.apply m s) := by
  obtain ⟨move, generated, threshold, evaluated⟩ := h.evaluate
  exact Step.of_evaluate generated evaluated

theorem accepted_of_betterMove {best : Option EvaluatedMove} {move : Move}
    (earlier : ∀ b ∈ best, operator.Accepted m g s b) (generated : move ∈ operator.moves m s)
    (h : betterMove m g s best move = some e) : operator.Accepted m g s e := by
  unfold betterMove at h
  cases best with
  | none =>
    dsimp only at h
    split at h
    · next accepted => exact .improves generated (accepted.trans h)
    · cases h
  | some b =>
    dsimp only at h
    split at h
    · next accepted => exact .better (earlier b rfl) generated (accepted.trans h)
    · exact earlier e h

theorem accepted_of_bestMove (h : bestMove m g s operator = some e) :
    operator.Accepted m g s e := by
  have kept : ∀ b ∈ bestMove m g s operator, operator.Accepted m g s b := by
    refine List.foldlRecOn (motive := fun best => ∀ b ∈ best, operator.Accepted m g s b)
      (operator.moves m s) (betterMove m g s) (by simp) ?_
    exact fun best earlier move generated b hb => accepted_of_betterMove earlier generated hb
  exact kept e h

theorem accepted_of_improvingMove {n : Neighbourhoods} (h : improvingMove m g s n = some e) :
    ∃ operator ∈ n.order.toList, operator.Accepted m g s e := by
  obtain ⟨operator, visited, best⟩ := List.exists_of_findSome?_eq_some h
  exact ⟨operator, visited, accepted_of_bestMove best⟩

/-- An improving move is a step, whichever neighbourhood it was found in. -/
theorem step_of_improvingMove {n : Neighbourhoods} (h : improvingMove m g s n = some e) :
    Step m s (e.apply m s) := by
  obtain ⟨operator, -, accepted⟩ := accepted_of_improvingMove h
  exact accepted.step

/-- One move of a descent, whatever comes after it and whatever the order of the neighbourhoods
is. -/
theorem move_reaches {d : Descent} {n : Neighbourhoods} {found : Option EvaluatedMove}
    {next : Descent → Polling (DescentEnd × Descent)} (hd : Reachable m d.solution)
    (step : ∀ e ∈ found, Step m d.solution (e.apply m d.solution))
    (hnext : ∀ d, Reachable m d.solution →
      (next d).Always fun ended => Reachable m ended.2.solution) :
    (found.elim (.done (.localOptimum, { d with neighbourhoods := n }))
      fun e => next ⟨e.apply m d.solution, n, d.moves + 1⟩).Always
        fun ended => Reachable m ended.2.solution := by
  cases found with
  | none => exact hd
  | some e => exact hnext _ (hd.step (step e rfl))

theorem descend_reaches {stops : Poll → Bool} {steps : Nat} {d : Descent}
    (hd : Reachable m d.solution) :
    (descend m g stops steps d).Always fun ended => Reachable m ended.2.solution := by
  induction steps generalizing d with
  | zero => exact hd
  | succ steps ih =>
    rw [descend]
    intro poll
    dsimp only
    split
    · exact hd
    · exact move_reaches hd (fun e he => step_of_improvingMove he) fun d hd => ih hd

end Descent

/-! ### Searches -/

namespace Search

variable {m : Model} {p : Params} {t : Search}

/-- The solutions that a search remembers are reachable. -/
structure OnTrack (m : Model) (t : Search) : Prop where
  current : Reachable m t.current
  best : Reachable m t.best

theorem onTrack_start {s : Solution} (hs : Reachable m s) : (start m p s).OnTrack m := ⟨hs, hs⟩

theorem OnTrack.settle {d : Descent} (ht : t.OnTrack m) (hd : Reachable m d.solution) :
    (t.settle m d).OnTrack m := by
  unfold Search.settle
  dsimp only
  split
  · exact ⟨hd, hd⟩
  · exact ⟨hd, ht.best⟩

theorem OnTrack.penalize (ht : t.OnTrack m) : (t.penalize m).1.OnTrack m := ⟨ht.current, ht.best⟩

theorem iterate_onTrack {steps : Nat} (ht : t.OnTrack m) :
    (iterate m p steps t).Always fun ended => ∀ t ∈ ended, t.OnTrack m := by
  induction steps generalizing t with
  | zero => exact fun _ h => nomatch h
  | succ steps ih =>
    unfold iterate
    intro poll
    dsimp only
    split
    · rintro t' ⟨⟩
      exact ht
    · refine (descend_reaches ht.current).bind fun (ending, d) hd => ?_
      have next : ((t.settle m d).penalize m).1.OnTrack m := (ht.settle hd).penalize
      dsimp only
      split
      · exact fun _ h => nomatch h
      · split
        · exact ih next
        · rintro t' ⟨⟩
          exact next

theorem run_onTrack (steps : Nat) :
    (run m p steps).Always fun ended => ∀ t ∈ ended, t.OnTrack m :=
  iterate_onTrack (onTrack_start (reachable_construct m))

end Search

/-! ### Solves -/

/-- The outcomes that a solve may have. -/
inductive Outcome.Attainable (p : Params) (problem : Problem) : Outcome → Prop
  | nothing (few : problem.durations.length ≤ 1) : Attainable p problem Outcome.empty
  | cancelled (several : 1 < problem.durations.length) :
      Attainable p problem (Outcome.allDropped problem.durations.length)
  | found {m : Model} {s : Solution} (several : 1 < problem.durations.length)
      (fits : Model.build problem p.trips p.service p.width = .ok m) (reachable : Reachable m s) :
      Attainable p problem (Outcome.ofSolution m s)

/-- **Every outcome of a solve is attainable**, whatever it is told when it asks. -/
theorem solve_attains (p : Params) (steps : Nat) (problem : Problem) :
    (solve p steps problem).Always fun result =>
      ∀ outcome, result = .ok outcome → outcome.Attainable p problem := by
  unfold solve
  dsimp only
  split
  · next few =>
    rintro outcome ⟨⟩
    exact .nothing few
  · next several =>
    rw [not_le] at several
    intro before
    dsimp only
    split
    · rintro outcome ⟨⟩
      exact .cancelled several
    · split
      · rintro outcome ⟨⟩
      · next m fits =>
        refine (Search.run_onTrack steps).bind fun ended hended => ?_
        cases ended with
        | none => rintro outcome ⟨⟩
        | some t =>
          intro after
          dsimp only
          split
          · rintro outcome ⟨⟩
            exact .cancelled several
          · rintro outcome ⟨⟩
            exact .found several fits (hended t rfl).best

theorem solve_faults (p : Params) (steps : Nat) (problem : Problem) :
    (solve p steps problem).Always fun result => ∀ fault, result = .error (.model fault) →
      Model.build problem p.trips p.service p.width = .error fault := by
  unfold solve
  dsimp only
  split
  · rintro fault ⟨⟩
  · intro before
    dsimp only
    split
    · rintro fault ⟨⟩
    · split
      · next refused =>
        rintro fault ⟨⟩
        exact refused
      · next m fits =>
        refine (Search.run_onTrack steps).bind fun ended _ => ?_
        cases ended with
        | none => rintro fault ⟨⟩
        | some t =>
          intro after
          dsimp only
          split
          · rintro fault ⟨⟩
          · rintro fault ⟨⟩

end DeliveryRouting
