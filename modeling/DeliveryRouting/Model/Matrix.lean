import DeliveryRouting.Model.Fault
import DeliveryRouting.Travel.Table

/-! # Model: the travel matrix

The matrix of a routing problem is square and holds no negative duration. It is read from rows by
one scan, row after row: the length of a row counts before its cells, and its cells from left to
right. Staying at a node takes no time, whatever its cell says. -/

namespace DeliveryRouting

/-- A square matrix of travel durations, row after row. -/
structure TravelMatrix where
  nodes : Nat
  cells : Array Int
  deriving Repr, DecidableEq, Inhabited

namespace TravelMatrix

/-- What is wrong with row `origin` of a matrix of `n` nodes, if anything. -/
def rowFault? (n origin : Nat) (row : List Int) : Option ModelFault :=
  if row.length ≠ n then some (.raggedRow origin n row.length)
  else (row.findIdx? (· < 0)).map (.negativeDuration origin)

/-- The first thing wrong with a list of rows, if anything. -/
def rowsFault? (rows : List (List Int)) : Option ModelFault :=
  rows.zipIdx.findSome? fun (row, origin) => rowFault? rows.length origin row

/-- The matrix of a list of rows. -/
def ofRows (rows : List (List Int)) : Except ModelFault TravelMatrix :=
  match rowsFault? rows with
  | some fault => .error fault
  | none => .ok ⟨rows.length, rows.flatten.toArray⟩

theorem ofRows_eq_ok_iff {rows : List (List Int)} {t : TravelMatrix} :
    ofRows rows = .ok t ↔ rowsFault? rows = none ∧ t = ⟨rows.length, rows.flatten.toArray⟩ := by
  unfold ofRows
  cases rowsFault? rows <;> simp [eq_comm]

/-- The matrix of a table of durations. -/
def ofTable (t : TravelTable) : Except ModelFault TravelMatrix := ofRows t.toRows

/-- The travel duration between two nodes, if their cell is part of the matrix. -/
def duration? (t : TravelMatrix) (i j : Nat) : Option Int :=
  if i = j then some 0 else t.cells[i * t.nodes + j]?

/-- The travel duration between two nodes. -/
def duration (t : TravelMatrix) (i j : Nat) : Int :=
  if i = j then 0 else t.cells.getD (i * t.nodes + j) 0

@[simp] theorem duration_self (t : TravelMatrix) (i : Nat) : t.duration i i = 0 := if_pos rfl

theorem duration_eq_of_duration? {t : TravelMatrix} {i j : Nat} {duration : Int}
    (h : t.duration? i j = some duration) : t.duration i j = duration := by
  unfold duration? at h
  unfold TravelMatrix.duration
  split at h
  · next same => rw [if_pos same, Option.some.inj h]
  · next other => rw [if_neg other, Array.getD_eq_getD_getElem?, h, Option.getD_some]

/-- The longest duration, zero in an empty matrix. -/
def maxDuration (t : TravelMatrix) : Int := t.cells.foldl max 0

end TravelMatrix

end DeliveryRouting
