/-! # Travel: tables of durations

A table holds the travel durations, in whole seconds, between every two of its locations, row after
row in one list: the duration from `i` to `j` stands at `i * locations + j`. `ofRows` and `toRows`
go between the flat list and a list of rows. -/

namespace DeliveryRouting

/-- Travel durations between locations, row after row. -/
structure TravelTable where
  durations : List Int
  locations : Nat
  deriving Repr, DecidableEq, Inhabited

/-- Pieces of `n` entries in order, the last one perhaps shorter; none when `n` is zero. -/
def chunks {α : Type} (n : Nat) (xs : List α) : List (List α) :=
  if _h : n = 0 ∨ xs = [] then []
  else xs.take n :: chunks n (xs.drop n)
termination_by xs.length
decreasing_by
  have := List.length_pos_iff.mpr fun e => ‹¬(n = 0 ∨ xs = [])› (.inr e)
  simp only [List.length_drop]
  omega

section Chunks

variable {α : Type} {n : Nat} {xs : List α}

@[simp] theorem chunks_zero (xs : List α) : chunks 0 xs = [] := by
  rw [chunks, dif_pos (.inl rfl)]

@[simp] theorem chunks_nil (n : Nat) : chunks n ([] : List α) = [] := by
  rw [chunks, dif_pos (.inr rfl)]

theorem chunks_of_ne (hn : n ≠ 0) (some : xs ≠ []) :
    chunks n xs = xs.take n :: chunks n (xs.drop n) := by
  rw [chunks, dif_neg (by simp [hn, some])]

theorem chunks_eq_nil_iff : chunks n xs = [] ↔ n = 0 ∨ xs = [] := by
  constructor
  · intro none
    by_cases h : n = 0 ∨ xs = []
    · exact h
    · rw [chunks, dif_neg h] at none
      cases none
  · rintro (rfl | rfl)
    · exact chunks_zero xs
    · exact chunks_nil n

end Chunks

/-- The pieces make up the whole. -/
theorem flatten_chunks {α : Type} {n : Nat} (hn : n ≠ 0) (xs : List α) :
    (chunks n xs).flatten = xs := by
  fun_induction chunks n xs with
  | case1 xs h => simp [h.resolve_left hn]
  | case2 xs _ ih => rw [List.flatten_cons, ih, List.take_append_drop]

namespace TravelTable

/-- The table of a list of rows, with as many locations as there are rows. -/
def ofRows (rows : List (List Int)) : TravelTable := ⟨rows.flatten, rows.length⟩

/-- The rows of the table, as many entries each as there are locations. -/
def toRows (t : TravelTable) : List (List Int) := chunks t.locations t.durations

/-- The entry at the place of the duration from `i` to `j`, if the list reaches so far. -/
def get? (t : TravelTable) (i j : Nat) : Option Int := t.durations[i * t.locations + j]?

/-- There is one entry for every two locations. Their number is squared in a word of 64 bits. -/
def isSquare (t : TravelTable) : Bool :=
  t.durations.length == t.locations * t.locations % 0x10000000000000000

/-- There are `n` locations and one entry for every two of them. -/
def covers (t : TravelTable) (n : Nat) : Bool :=
  t.locations == n && t.durations.length == n * n

end TravelTable

end DeliveryRouting
