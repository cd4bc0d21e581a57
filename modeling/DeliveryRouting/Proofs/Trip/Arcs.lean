import DeliveryRouting.Proofs.Trip.Timing
import Mathlib.Data.List.Nodup

/-! # Arcs of a trip

A trip is a path from the depot over its stops back to the depot, and travels the arcs between
neighbours on it (`tripArcs_eq`). The arcs of a path can be cut at each of its nodes
(`arcsAlong_append`), so those within a run of nodes stand between the arc to the run and the one from
it (`arcsAlong_run`). A path the other way round has its arcs the other way round
(`arcsAlong_reverse`).

Every arc of a trip starts or ends at one of its stops (`stop_of_mem_tripArcs`). So trips without a
stop in common have no arc in common (`disjoint_tripArcs`), and a trip that visits no delivery twice
travels no arc twice (`nodup_tripArcs`), as long as nobody stops at the depot. -/

namespace DeliveryRouting

/-- The arcs between neighbours on a path. -/
def arcsAlong : List Nat → List (Nat × Nat)
  | i :: j :: path => (i, j) :: arcsAlong (j :: path)
  | _ => []

variable {last : Nat} {nodes nodes' : List Nat} {arc : Nat × Nat}

/-! ### Paths -/

@[simp] theorem arcsAlong_singleton (i : Nat) : arcsAlong [i] = [] := rfl

@[simp] theorem arcsAlong_cons_cons (i j : Nat) (path : List Nat) :
    arcsAlong (i :: j :: path) = (i, j) :: arcsAlong (j :: path) := rfl

/-- A path is cut in two at one of its nodes. -/
theorem arcsAlong_append (before : List Nat) (i : Nat) (after : List Nat) :
    arcsAlong (before ++ i :: after) = arcsAlong (before ++ [i]) ++ arcsAlong (i :: after) := by
  induction before with
  | nil => rfl
  | cons x before ih =>
    rcases before with _ | ⟨y, before⟩
    · rfl
    · simp only [List.cons_append, arcsAlong_cons_cons] at ih ⊢
      rw [ih]

/-- **The way back has the arcs the other way round.** -/
theorem arcsAlong_reverse (path : List Nat) :
    arcsAlong path.reverse = ((arcsAlong path).map Prod.swap).reverse := by
  induction path with
  | nil => rfl
  | cons i path ih =>
    rcases path with _ | ⟨j, path⟩
    · rfl
    · have split : (i :: j :: path).reverse = path.reverse ++ j :: [i] := by simp
      have first : arcsAlong (path.reverse ++ [j]) =
          ((arcsAlong (j :: path)).map Prod.swap).reverse := by rw [← ih, List.reverse_cons]
      rw [split, arcsAlong_append, first]
      simp

/-- A path over a run of nodes comes to the run by one arc and leaves it by one. -/
theorem arcsAlong_run (before run after : List Nat) (i x y j : Nat) :
    arcsAlong (before ++ i :: x :: run ++ y :: j :: after) = arcsAlong (before ++ [i]) ++
      (i, x) :: arcsAlong (x :: run ++ [y]) ++ (y, j) :: arcsAlong (j :: after) := by
  have leaves : arcsAlong (before ++ i :: x :: run ++ y :: j :: after) =
      arcsAlong (before ++ i :: x :: run ++ [y]) ++ (y, j) :: arcsAlong (j :: after) :=
    arcsAlong_append _ y _
  have comes : arcsAlong (before ++ i :: (x :: run ++ [y])) =
      arcsAlong (before ++ [i]) ++ (i, x) :: arcsAlong (x :: run ++ [y]) := arcsAlong_append _ i _
  rw [leaves, List.append_assoc, List.cons_append, comes]

theorem ends_of_mem_arcsAlong {path : List Nat} (h : arc ∈ arcsAlong path) :
    arc.1 ∈ path ∧ arc.2 ∈ path := by
  induction path with
  | nil => simp [arcsAlong] at h
  | cons i path ih =>
    rcases path with _ | ⟨j, path⟩
    · simp at h
    · rw [arcsAlong_cons_cons] at h
      rcases List.mem_cons.mp h with rfl | h
      · simp
      · have ends := ih h
        exact ⟨List.mem_cons_of_mem _ ends.1, List.mem_cons_of_mem _ ends.2⟩

theorem arcsFrom_eq (last : Nat) (nodes : List Nat) :
    arcsFrom last nodes = arcsAlong (last :: nodes ++ [depot]) := by
  induction nodes generalizing last with
  | nil => rfl
  | cons node nodes ih =>
    rw [arcsFrom, ih]
    rfl

theorem tripArcs_eq (h : nodes ≠ []) : tripArcs nodes = arcsAlong (depot :: nodes ++ [depot]) := by
  rw [tripArcs, if_neg h, arcsFrom_eq]

/-! ### Ends of the arcs -/

theorem map_fst_arcsFrom (last : Nat) (nodes : List Nat) :
    (arcsFrom last nodes).map Prod.fst = last :: nodes := by
  induction nodes generalizing last with
  | nil => rfl
  | cons node nodes ih => rw [arcsFrom, List.map_cons, ih]

theorem nodup_tripArcs (once : nodes.Nodup) (noDepot : depot ∉ nodes) : (tripArcs nodes).Nodup := by
  unfold tripArcs
  split
  · exact List.nodup_nil
  · refine List.Nodup.of_map Prod.fst ?_
    rw [map_fst_arcsFrom]
    exact List.nodup_cons.mpr ⟨noDepot, once⟩

/-- An arc of a trip leads from a stop, or from the depot to one. -/
theorem stop_of_mem_tripArcs (h : arc ∈ tripArcs nodes) :
    arc.1 ∈ nodes ∨ arc.1 = depot ∧ arc.2 ∈ nodes := by
  rcases nodes with _ | ⟨node, nodes⟩
  · simp [tripArcs] at h
  · have start : arc = (depot, node) ∨ arc ∈ arcsFrom node nodes := List.mem_cons.mp h
    rcases start with rfl | h
    · right; simp
    · left; exact (ends_of_mem_arcsFrom h).1

theorem disjoint_tripArcs (apart : nodes.Disjoint nodes') (noDepot : depot ∉ nodes)
    (noDepot' : depot ∉ nodes') : (tripArcs nodes).Disjoint (tripArcs nodes') := by
  intro arc h h'
  rcases stop_of_mem_tripArcs h with hfrom | ⟨hd, hto⟩
  · rcases stop_of_mem_tripArcs h' with hfrom' | ⟨hd', -⟩
    · exact apart hfrom hfrom'
    · rw [hd'] at hfrom
      exact noDepot hfrom
  · rcases stop_of_mem_tripArcs h' with hfrom' | ⟨-, hto'⟩
    · rw [hd] at hfrom'
      exact noDepot' hfrom'
    · exact apart hto hto'

end DeliveryRouting
