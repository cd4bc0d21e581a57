import DeliveryRouting.Proofs.Search.Reachable
import DeliveryRouting.Proofs.Search.Segments

/-! # Moves by edits that can fail

The new stops of a move are written down by functions that never fail (`Move.changes`): an entry
that is not there is the depot, and a segment ends with its list. Here a move is made by edits of
the lists instead: entries are taken out, put in, overwritten, and each edit asks for the entries and
places it works on (`Move.attempt`).

The two agree, and the fault of a move says when an edit fails (`Move.attempt_eq`). For a generated
move none does, however short its trips are (`Operator.generated_moves_conserve`): a place on the
trip that a run comes from is counted after the run has been taken out. -/

namespace DeliveryRouting

/-! ### Edits -/

namespace Edit

variable {α : Type} {xs ys : List α} {i j : Nat} {x : α}

/-- The result of an edit whose entries and places exist. -/
def within (exist : Prop) [Decidable exist] {β : Type} (result : β) : Except MoveFault β :=
  if exist then .ok result else .error .badReference

/-- Take an entry out. -/
def remove (xs : List α) (i : Nat) : Except MoveFault (α × List α) :=
  match xs[i]? with
  | some x => .ok (x, xs.eraseIdx i)
  | none => .error .badReference

/-- Put an entry in before index `i`. -/
def put (xs : List α) (i : Nat) (x : α) : Except MoveFault (List α) :=
  within (i ≤ xs.length) (xs.insertIdx i x)

/-- Take the entries from index `i` on below `j` out. -/
def drain (xs : List α) (i j : Nat) : Except MoveFault (List α × List α) :=
  within (i ≤ j ∧ j ≤ xs.length) ((xs.drop i).take (j - i), xs.take i ++ xs.drop j)

/-- Put entries in before index `i`. -/
def putAll (xs : List α) (i : Nat) (ys : List α) : Except MoveFault (List α) :=
  within (i ≤ xs.length) (splice xs i ys)

/-- Read an entry. -/
def read (xs : List α) (i : Nat) : Except MoveFault α :=
  match xs[i]? with
  | some x => .ok x
  | none => .error .badReference

/-- Overwrite an entry. -/
def write (xs : List α) (i : Nat) (x : α) : Except MoveFault (List α) :=
  within (i < xs.length) (xs.set i x)

/-- Read an entry of one list and one of another. -/
def readBoth (xs : List α) (i : Nat) (ys : List α) (j : Nat) : Except MoveFault (α × α) := do
  return (← read xs i, ← read ys j)

/-- Exchange an entry with one of another list. -/
def exchange (xs : List α) (i : Nat) (ys : List α) (j : Nat) :
    Except MoveFault (List α × List α) := do
  let (x, y) ← readBoth xs i ys j
  return (xs.set i y, ys.set j x)

/-- Exchange two entries. -/
def swap (xs : List α) (i j : Nat) : Except MoveFault (List α) := do
  let (x, y) ← readBoth xs i xs j
  return (xs.set i y).set j x

/-- Reverse the entries from index `first` to index `last`. -/
def reverse (xs : List α) (first last : Nat) : Except MoveFault (List α) :=
  within (first ≤ last + 1 ∧ last < xs.length) (reverseSegment xs first last)

section Within

variable {β γ : Type} {exist exist' : Prop} [Decidable exist] [Decidable exist'] {result : β}
  {result' : γ}

theorem within_of_pos (h : exist) : within exist result = .ok result := if_pos h

theorem within_of_neg (h : ¬ exist) : within exist result = .error .badReference := if_neg h

theorem within_congr {other : β} (same : exist ↔ exist') (h : exist → result = other) :
    within exist result = within exist' other := by
  unfold within
  by_cases hexist : exist
  · rw [if_pos hexist, if_pos (same.mp hexist), h hexist]
  · rw [if_neg hexist, if_neg (mt same.mpr hexist)]

/-- Edits made one after the other ask for all that each of them asks for. -/
theorem bind_eq_within {edit : Except MoveFault β} {next : β → Except MoveFault γ}
    (h : edit = within exist result) (asks : exist' → exist)
    (rest : exist → next result = within exist' result') :
    edit >>= next = within exist' result' := by
  subst h
  by_cases hexist : exist
  · rw [within_of_pos hexist]
    exact rest hexist
  · rw [within_of_neg hexist, within_of_neg (mt asks hexist)]
    rfl

theorem bind_pure_eq_within {edit : Except MoveFault β} {f : β → γ}
    (h : edit = within exist result) :
    (edit >>= fun x => pure (f x)) = within exist (f result) := by
  subst h
  unfold within
  split <;> rfl

end Within

theorem read_eq (default : α) : read xs i = within (i < xs.length) (xs.getD i default) := by
  unfold read within
  by_cases h : i < xs.length
  · simp [h]
  · simp [h]

theorem readBoth_eq (default : α) : readBoth xs i ys j =
    within (i < xs.length ∧ j < ys.length) (xs.getD i default, ys.getD j default) := by
  refine bind_eq_within (read_eq default) And.left fun h => ?_
  exact (bind_pure_eq_within (read_eq default)).trans
    (within_congr (and_iff_right h).symm fun _ => rfl)

theorem remove_eq (default : α) : remove xs i =
    within (i + 1 ≤ xs.length) (xs.getD i default, cut xs i 1) := by
  unfold remove within cut
  by_cases h : i < xs.length
  · simp [h, Nat.succ_le_of_lt h, List.eraseIdx_eq_take_drop_succ]
  · rw [List.getElem?_eq_none (by omega), if_neg (by omega)]

theorem drain_eq {length : Nat} : drain xs i (i + length) =
    within (i + length ≤ xs.length) (segment xs i length, cut xs i length) := by
  unfold drain segment cut
  refine within_congr (and_iff_right (Nat.le_add_right i length)) fun _ => ?_
  rw [Nat.add_sub_cancel_left]

theorem put_eq : put xs i x = within (i ≤ xs.length) (splice xs i [x]) := by
  unfold put within
  split
  · next h => rw [insertIdx_eq_splice h]
  · rfl

end Edit

namespace Move

variable {m : Model} {s : Solution} {move : Move}

/-- The stops of a vehicle that exists. -/
def stopsOf (s : Solution) (vehicle : Nat) : Except MoveFault (List Nat) :=
  Edit.within (vehicle < s.trips.length) (s.nodes vehicle)

/-- Edit the stops of one vehicle. -/
def editTrip (s : Solution) (vehicle : Nat) (edit : List Nat → Except MoveFault (List Nat)) :
    Except MoveFault (List Change) := do
  return [⟨vehicle, ← edit (← stopsOf s vehicle)⟩]

/-- Take something out of the trip of `origin`, and put it into what is left of this trip or into
the one of `destination`. -/
def carryBy {β : Type} (s : Solution) (origin destination : Nat)
    (takeOut : List Nat → Except MoveFault (β × List Nat))
    (putIn : List Nat → β → Except MoveFault (List Nat)) : Except MoveFault (List Change) := do
  let (carried, rest) ← takeOut (← stopsOf s origin)
  if origin = destination then
    return [⟨origin, ← putIn rest carried⟩]
  else
    return [⟨origin, rest⟩, ⟨destination, ← putIn (← stopsOf s destination) carried⟩]

/-- The changes of a move, made by edits. -/
def attempt (s : Solution) : Move → Except MoveFault (List Change)
  | relocate origin position destination target =>
    carryBy s origin destination (Edit.remove · position) (Edit.put · target)
  | orOpt origin start length destination target =>
    carryBy s origin destination (Edit.drain · start (start + length)) (Edit.putAll · target)
  | swap first position second target =>
    if first = second ∧ position = target then .error .swapsWithItself
    else if first = second then editTrip s first (Edit.swap · position target)
    else do
      let (here, there) ←
        Edit.exchange (← stopsOf s first) position (← stopsOf s second) target
      return [⟨first, here⟩, ⟨second, there⟩]
  | twoOpt vehicle first last =>
    if last ≤ first then .error .reversesNothing
    else editTrip s vehicle (Edit.reverse · first last)
  | insertDropped node vehicle position => editTrip s vehicle (Edit.put · position node)
  | exchangeDropped node vehicle position => editTrip s vehicle (Edit.write · position node)

/-- The result of a move by edits, by the fault that the move has. -/
def outcome (m : Model) (s : Solution) (move : Move) : Except MoveFault (List Change) :=
  match move.fault? m s with
  | some fault => .error fault
  | none => .ok (move.changes s)

theorem outcome_eq_within {sensible : Prop} [Decidable sensible]
    (h : move.fault? m s = if sensible then none else some .badReference) :
    move.outcome m s = Edit.within sensible (move.changes s) := by
  rw [outcome, h, Edit.within]
  by_cases hsensible : sensible
  · rw [if_pos hsensible, if_pos hsensible]
  · rw [if_neg hsensible, if_neg hsensible]

theorem editTrip_eq {vehicle : Nat} {edit : List Nat → Except MoveFault (List Nat)}
    {nodes : List Nat} {place sensible : Prop} [Decidable place] [Decidable sensible]
    (edited : edit (s.nodes vehicle) = Edit.within place nodes)
    (asks : vehicle < s.trips.length ∧ place ↔ sensible) :
    editTrip s vehicle edit = Edit.within sensible [⟨vehicle, nodes⟩] := by
  refine Edit.bind_eq_within rfl (fun h => (asks.mpr h).1) fun known => ?_
  refine (Edit.bind_pure_eq_within edited).trans (Edit.within_congr ?_ fun _ => rfl)
  exact (and_iff_right known).symm.trans asks

/-- Whatever the edits are that take a run out and put it in, together they ask for what the move
asks for. -/
theorem carryBy_eq {β : Type} {takeOut : List Nat → Except MoveFault (β × List Nat)}
    {putIn : List Nat → β → Except MoveFault (List Nat)} {run : β}
    {origin start length destination target : Nat}
    (out : takeOut (s.nodes origin) = Edit.within (start + length ≤ (s.nodes origin).length)
      (run, cut (s.nodes origin) start length))
    (into : start + length ≤ (s.nodes origin).length → ∀ xs, putIn xs run =
      Edit.within (target ≤ xs.length)
        (splice xs target (segment (s.nodes origin) start length))) :
    carryBy s origin destination takeOut putIn =
      Edit.within (canCarry s origin start length destination target = true)
        (carry s origin start length destination target) := by
  unfold carryBy carry
  refine Edit.bind_eq_within rfl (fun h => (canCarry_iff.mp h).1) fun _ => ?_
  refine Edit.bind_eq_within out (fun h => (canCarry_iff.mp h).2.2.1) fun run => ?_
  by_cases own : origin = destination
  · subst own
    simp only [if_pos]
    refine (Edit.bind_pure_eq_within (into run _)).trans (Edit.within_congr ?_ fun _ => rfl)
    have left := length_cut run
    rw [canCarry_iff, if_pos rfl]
    omega
  · simp only [if_neg own]
    refine Edit.bind_eq_within rfl (fun h => (canCarry_iff.mp h).2.1) fun _ => ?_
    refine (Edit.bind_pure_eq_within (into run _)).trans (Edit.within_congr ?_ fun _ => rfl)
    rw [canCarry_iff, if_neg own, Nat.sub_zero]
    tauto

/-- **A move by edits fails with the fault of the move**, and makes its changes if it has none. -/
theorem attempt_eq (known : ∀ node ∈ move.inserted?, node < m.numNodes) :
    move.attempt s = move.outcome m s := by
  cases move with
  | relocate origin position destination target =>
    rw [outcome_eq_within rfl]
    refine carryBy_eq (Edit.remove_eq depot) fun stop xs => ?_
    rw [Edit.put_eq, segment_one stop]
  | orOpt origin start length destination target =>
    rw [outcome_eq_within rfl]
    exact carryBy_eq Edit.drain_eq fun _ _ => rfl
  | swap first position second target =>
    by_cases itself : first = second ∧ position = target
    · rw [attempt, if_pos itself, outcome, fault?, if_pos itself]
    have fault : fault? m s (.swap first position second target) =
        if hasStop s first position && hasStop s second target then none
        else some .badReference := if_neg itself
    rw [outcome_eq_within fault, attempt, if_neg itself, changes]
    simp only [Bool.and_eq_true, hasStop_iff]
    by_cases own : first = second
    · subst own
      rw [if_pos rfl, if_pos rfl]
      refine editTrip_eq (Edit.bind_pure_eq_within (Edit.readBoth_eq depot)) ?_
      tauto
    · rw [if_neg own, if_neg own]
      refine Edit.bind_eq_within rfl (fun h => h.1.1) fun _ => ?_
      refine Edit.bind_eq_within rfl (fun h => h.2.1) fun _ => ?_
      refine (Edit.bind_pure_eq_within
        (Edit.bind_pure_eq_within (Edit.readBoth_eq depot))).trans
        (Edit.within_congr ?_ fun _ => rfl)
      tauto
  | twoOpt vehicle first last =>
    by_cases short : last ≤ first
    · rw [attempt, if_pos short, outcome, fault?, if_pos short]
    have fault : fault? m s (.twoOpt vehicle first last) =
        if hasStop s vehicle last then none else some .badReference := if_neg short
    rw [outcome_eq_within fault, attempt, if_neg short]
    refine editTrip_eq rfl ?_
    rw [hasStop_iff]
    omega
  | insertDropped node vehicle position =>
    have hnode := known node rfl
    rw [outcome_eq_within rfl]
    refine editTrip_eq Edit.put_eq ?_
    simp [hnode]
  | exchangeDropped node vehicle position =>
    have hnode := known node rfl
    rw [outcome_eq_within rfl]
    refine editTrip_eq rfl ?_
    simp [hnode, hasStop_iff]

theorem attempt_of_sensible (known : ∀ node ∈ move.inserted?, node < m.numNodes)
    (sensible : move.fault? m s = none) : move.attempt s = .ok (move.changes s) := by
  rw [attempt_eq known, outcome, sensible]

end Move

/-! ### Generated moves -/

namespace Operator

variable {m : Model} {s : Solution} {move : Move} {operator : Operator}

theorem Candidate.removed?_mem (h : operator.Candidate s move) :
    ∀ node ∈ move.removed? s, node ∈ move.updated.flatMap s.nodes := by
  cases h with
  | relocate | orOpt | swap | twoOpt | insertDropped => simp [Move.removed?]
  | @exchangeDropped node vehicle position dropped stop =>
    simp only [Move.removed?, Move.updated, Option.mem_some_iff, forall_eq',
      List.flatMap_singleton, List.getD_eq_getElem _ _ stop]
    exact List.getElem_mem stop

/-- **A generated move can be made, and conserves the deliveries.** All its edits find what they ask
for. The trips it changes are those of different vehicles, as it names them, and their new stops are
the old ones, with the dropped delivery that it takes in and without the stop that it drops. -/
theorem generated_moves_conserve (hs : s.Consistent m) (generated : move ∈ operator.moves m s) :
    move.attempt s = .ok (move.changes s) ∧
    (move.changes s).map Change.vehicle = move.updated ∧ move.updated.Nodup ∧
    ((move.changes s).flatMap Change.nodes ++ (move.removed? s).toList).Perm
      (move.updated.flatMap s.nodes ++ move.inserted?.toList) ∧
    (∀ node ∈ move.inserted?, node ∈ s.dropped) ∧
    ∀ node ∈ move.removed? s, node ∈ m.deliveries ∧ node ∈ move.updated.flatMap s.nodes := by
  have candidate := candidate_of_mem_moves generated
  have sensible := fault?_of_candidate hs candidate
  obtain ⟨-, dropsDelivery, takesInDelivery⟩ := candidate.deliveries hs
  have known : ∀ node ∈ move.inserted?, node < m.numNodes := fun node hn =>
    (m.mem_deliveries.mp (takesInDelivery node hn)).2
  exact ⟨Move.attempt_of_sensible known sensible, Move.map_vehicle_changes s move,
    Move.nodup_updated move, candidate.changes_perm hs, candidate.inserted?_mem_dropped,
    fun node hn => ⟨dropsDelivery node hn, candidate.removed?_mem node hn⟩⟩

/-- The run is all of its trip, which stays empty. -/
theorem generated_moves_conserve_pairTour : Solution.pairTour.Consistent pairModel ∧
    .orOpt 0 0 2 1 0 ∈ Operator.orOpt.moves pairModel Solution.pairTour ∧
    (Move.orOpt 0 0 2 1 0).attempt Solution.pairTour = .ok [⟨0, []⟩, ⟨1, [1, 2]⟩] ∧
    [0, 1].Nodup ∧ ([] ++ [1, 2] ++ []).Perm ([1, 2] ++ [] ++ []) := by
  have hs := Solution.reachable_pairTour.consistent
  have generated : .orOpt 0 0 2 1 0 ∈ Operator.orOpt.moves pairModel Solution.pairTour := by decide
  obtain ⟨made, -, distinct, conserved, -⟩ := generated_moves_conserve hs generated
  exact ⟨hs, generated, made, distinct, conserved⟩

end Operator

end DeliveryRouting
