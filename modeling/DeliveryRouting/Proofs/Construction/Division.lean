import DeliveryRouting.Proofs.Construction.Greedy

/-! # Rounds that share their work

The deliveries of a round may be shared out in pieces that are evaluated apart, and the results
merged two by two, in any order and with any nesting. A `Division` says how: its pieces are gone
through from left to right, and where two parts are joined, the better of their results is kept, or
the one of the preferred side if none is better.

Whatever the division, the result is one of the insertions that are looked at, and none is better
(`choice_evaluate`). As two insertions of different nodes are never equally good, and only one of
each node is looked at, there is just one such result (`Choice.eq`). So a division finds what a
single pass finds, in every round, and the construction is the same one
(`divided_construction`). -/

namespace DeliveryRouting.Solution

/-- The better one of two results, and of equally good ones that of the right side if it is
preferred. -/
def merge (m : Model) (right : Bool) : Option Insertion → Option Insertion → Option Insertion
  | none, found => found
  | some i, none => some i
  | some i, some j => if Better m j i ∨ right = true ∧ ¬ Better m i j then some j else some i

/-- The result of going through the insertions from left to right. -/
def scan (m : Model) (offers : List Insertion) : Option Insertion :=
  offers.foldl (fun best i => merge m false best (some i)) none

/-- How the evaluation of deliveries is shared out. -/
inductive Division where
  | piece (nodes : List Nat)
  | join (right : Bool) (first second : Division)
  deriving Repr, DecidableEq

namespace Division

/-- The deliveries of all pieces. -/
def nodes : Division → List Nat
  | piece nodes => nodes
  | join _ first second => first.nodes ++ second.nodes

/-- The result when all pieces are evaluated and their results are merged. -/
def evaluate (m : Model) (s : Solution) : Division → Option Insertion
  | piece nodes => scan m (nodes.filterMap (s.bestInsertion m))
  | join right first second => merge m right (first.evaluate m s) (second.evaluate m s)

end Division

/-- A round whose work is shared out in some way. -/
def divided (m : Model) (s : Solution) (found : Option Insertion) : Prop :=
  ∃ d : Division, d.nodes.Perm s.dropped ∧ d.evaluate m s = found

variable {m : Model} {s : Solution} {d : Division} {i j : Insertion}
  {offers offers' : List Insertion} {found found' : Option Insertion} {right : Bool}

/-! ### Choices -/

theorem choice_singleton (m : Model) (i : Insertion) : Choice m [i] (some i) := by
  refine ⟨List.mem_singleton_self i, fun j hj better => ?_⟩
  rw [List.mem_singleton.mp hj] at better
  unfold Better at better
  omega

/-- The better one of two choices is a choice among all, whichever side is preferred. -/
theorem Choice.merge (h : Choice m offers found) (h' : Choice m offers' found') :
    Choice m (offers ++ offers') (merge m right found found') := by
  cases found with
  | none =>
    rw [show offers = [] from h]
    exact h'
  | some i =>
    obtain ⟨hi, least⟩ := h
    cases found' with
    | none =>
      rw [show offers' = [] from h', List.append_nil]
      exact ⟨hi, least⟩
    | some j =>
      obtain ⟨hj, least'⟩ := h'
      -- what is no better than one is no better than the other, if that is no worse
      have trans {a b c : Insertion} (hab : ¬ Better m a b) (hbc : ¬ Better m b c) :
          ¬ Better m a c := by
        unfold Better at *
        omega
      rw [Solution.merge]
      split
      · next kept =>
        have notWorse : ¬ Better m i j := by
          rcases kept with better | ⟨-, same⟩
          · unfold Better at *
            omega
          · exact same
        exact ⟨List.mem_append_right _ hj, fun x hx => (List.mem_append.mp hx).elim
          (fun hx => trans (least x hx) notWorse) (least' x)⟩
      · next kept =>
        rw [not_or] at kept
        exact ⟨List.mem_append_left _ hi, fun x hx => (List.mem_append.mp hx).elim
          (least x) fun hx => trans (least' x hx) kept.1⟩

theorem choice_foldl (h : Choice m offers found) :
    Choice m (offers ++ offers') (offers'.foldl (fun best i => merge m false best (some i)) found) := by
  induction offers' generalizing offers found with
  | nil => rwa [List.append_nil]
  | cons i offers' ih =>
    have one : Choice m (offers ++ [i]) (merge m false found (some i)) :=
      h.merge (choice_singleton m i)
    have next := ih one
    rwa [List.append_assoc] at next

theorem choice_scan (m : Model) (offers : List Insertion) : Choice m offers (scan m offers) := by
  have start : Choice m [] none := rfl
  exact choice_foldl start

/-- **There is one choice only**, if the insertions are told apart by their nodes. -/
theorem Choice.eq (h : Choice m offers found) (h' : Choice m offers' found')
    (same : ∀ i, i ∈ offers ↔ i ∈ offers')
    (apart : ∀ i ∈ offers, ∀ j ∈ offers, i.node = j.node → i = j) : found = found' := by
  cases found with
  | none =>
    cases found' with
    | none => rfl
    | some j =>
      have hj := (same j).mpr h'.1
      rw [show offers = [] from h] at hj
      cases hj
  | some i =>
    cases found' with
    | none =>
      have hi := (same i).mp h.1
      rw [show offers' = [] from h'] at hi
      cases hi
    | some j =>
      have hj := (same j).mpr h'.1
      have notWorse := h.2 j hj
      have notBetter := h'.2 i ((same i).mp h.1)
      unfold Better at notWorse notBetter
      rw [apart i h.1 j hj (by omega)]

/-! ### Divisions -/

theorem choice_evaluate (m : Model) (s : Solution) (d : Division) :
    Choice m (d.nodes.filterMap (s.bestInsertion m)) (d.evaluate m s) := by
  induction d with
  | piece nodes => exact choice_scan m _
  | join right first second ih ih' =>
    rw [Division.nodes, List.filterMap_append]
    exact ih.merge ih'

theorem eq_of_mem_offers {nodes : List Nat} (hi : i ∈ nodes.filterMap (s.bestInsertion m))
    (hj : j ∈ nodes.filterMap (s.bestInsertion m)) (same : i.node = j.node) : i = j := by
  obtain ⟨x, -, hx⟩ := List.mem_filterMap.mp hi
  obtain ⟨y, -, hy⟩ := List.mem_filterMap.mp hj
  rw [node_of_bestInsertion hx, node_of_bestInsertion hy] at same
  subst same
  exact Option.some.inj (hx.symm.trans hy)

/-- **A division finds what any other choice among the same deliveries finds.** -/
theorem evaluate_eq_of_choice {nodes : List Nat} (covers : d.nodes.Perm nodes)
    (h : Choice m (nodes.filterMap (s.bestInsertion m)) found) : d.evaluate m s = found :=
  (choice_evaluate m s d).eq h (fun _ => (covers.filterMap _).mem_iff)
    fun _ hi _ hj => eq_of_mem_offers hi hj

theorem evaluate_eq_cheapestInsertion (covers : d.nodes.Perm s.dropped) :
    d.evaluate m s = s.cheapestInsertion m s.dropped :=
  evaluate_eq_of_choice covers (choice_cheapestInsertion (pairwise_dropped s))

theorem divided_eq_inTurn (m : Model) : divided m = inTurn m := by
  funext s found
  refine propext ⟨?_, fun turn => ?_⟩
  · rintro ⟨d, covers, rfl⟩
    exact (evaluate_eq_cheapestInsertion covers).symm
  · have covers : (Division.piece s.dropped).nodes.Perm s.dropped := .refl _
    exact ⟨.piece s.dropped, covers, (evaluate_eq_cheapestInsertion covers).trans turn⟩

/-- **Sharing the work of its rounds does not change what is constructed.** In every solution, any
division of the dropped deliveries finds what a single pass finds. A loop whose rounds are divided
each in its own way gets to `construct`, and ends there and nowhere else. -/
theorem divided_construction (m : Model) :
    (∀ (s : Solution) (d : Division), d.nodes.Perm s.dropped →
      d.evaluate m s = scan m (s.dropped.filterMap (s.bestInsertion m)) ∧
      d.evaluate m s = s.cheapestInsertion m s.dropped) ∧
    (∃ commits, Greedy m (divided m) (empty m) commits (construct m)) ∧
    ∀ commits s, Greedy m (divided m) (empty m) commits s →
      commits.length ≤ m.numNodes - 1 ∧
      (Settled m (divided m) s ∨ ∃ i, Commits m (divided m) s i) ∧
      (Settled m (divided m) s → s = construct m) := by
  refine ⟨fun s d covers => ⟨evaluate_eq_of_choice covers (choice_scan m _),
    evaluate_eq_cheapestInsertion covers⟩, ?_⟩
  rw [divided_eq_inTurn]
  refine ⟨(greedy_construct m).1, fun commits s way => ⟨?_, settled_or_commits m s,
    way.eq_construct⟩⟩
  have rounds := way.length_commits (consistent_empty m)
  rw [length_dropped_empty] at rounds
  omega

/-- Two deliveries that are as far from the depot as from one another. -/
def twinModel : Model where
  travel := ⟨3, #[0, 10, 10, 10, 0, 10, 10, 10, 0]⟩
  sites := #[⟨0, ⟨0, 1000⟩, 2⟩, ⟨1, ⟨0, 1000⟩, 2⟩, ⟨1, ⟨0, 1000⟩, 2⟩]
  vehicles := #[⟨0, 0, 5⟩]
  shiftLength := 1000
  service := 10

/-- The trip that serves both. -/
def twinTour : Solution := ⟨[⟨[2, 1], ⟨[20, 40], 50, 2⟩, 50⟩], [none, some 0, some 0]⟩

/-- In the first round both deliveries would lower the objective by as much, and the lower one is
found although the other one is looked at before and the second round is divided differently. -/
theorem divided_construction_twinModel :
    (Division.join false (.piece [2]) (.piece [1])).nodes.Perm (empty twinModel).dropped ∧
    (Division.join false (.piece [2]) (.piece [1])).evaluate twinModel (empty twinModel) =
      (empty twinModel).cheapestInsertion twinModel (empty twinModel).dropped ∧
    Greedy twinModel (divided twinModel) (empty twinModel) [⟨1, 0, 0, 30⟩, ⟨2, 0, 0, 20⟩]
      twinTour ∧
    Settled twinModel (divided twinModel) twinTour ∧ twinTour = construct twinModel := by
  have covers : (Division.join false (.piece [2]) (.piece [1])).nodes.Perm
      (empty twinModel).dropped := .swap 1 2 []
  have first : Commits twinModel (divided twinModel) (empty twinModel) ⟨1, 0, 0, 30⟩ :=
    ⟨⟨_, covers, by decide⟩, by decide⟩
  have second : Commits twinModel (divided twinModel)
      ((empty twinModel).tryInsert twinModel 1 0 0) ⟨2, 0, 0, 20⟩ :=
    ⟨⟨.join true (.piece [2]) (.piece []), .refl _, by decide⟩, by decide⟩
  have way : Greedy twinModel (divided twinModel) (empty twinModel)
      [⟨1, 0, 0, 30⟩, ⟨2, 0, 0, 20⟩] twinTour := .commit (.commit (.start _) first) second
  have ends : Settled twinModel (divided twinModel) twinTour :=
    ⟨none, ⟨.piece [], .refl _, rfl⟩, fun _ h => nomatch h⟩
  obtain ⟨found, -, loop⟩ := divided_construction twinModel
  exact ⟨covers, (found _ _ covers).2, way, ends, (loop _ _ way).2.2 ends⟩

end DeliveryRouting.Solution
