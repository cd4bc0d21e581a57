import DeliveryRouting.Proofs.Travel.Lookup

/-! # Tables and their rows

A table lists its durations row after row, and its rows are cut off this list again. On square
tables the two directions undo each other: equally long pieces put together are cut into the same
pieces (`chunks_flatten`), and pieces put together are the list they were cut off
(`flatten_toRows`). So the entry of a table for two of its locations is the one in the row of the
first, and it is the one in the cell of the matrix that the table makes.

The number of locations is squared in a word of 64 bits. Below `2 ^ 32` locations the test is right
(`covers_of_isSquare`), and from there on it takes tables for square that are not
(`isSquare_wraps`). -/

namespace DeliveryRouting

section Chunks

variable {α : Type} {n : Nat}

/-- Equally long pieces are cut off what they make up. -/
theorem chunks_flatten {pieces : List (List α)} (hn : n ≠ 0)
    (h : ∀ piece ∈ pieces, piece.length = n) : chunks n pieces.flatten = pieces := by
  induction pieces with
  | nil => exact chunks_nil n
  | cons piece pieces ih =>
    obtain ⟨hpiece, hrest⟩ := List.forall_mem_cons.mp h
    have some : (piece :: pieces).flatten ≠ [] :=
      List.ne_nil_of_length_pos (by rw [List.flatten_cons, List.length_append]; omega)
    rw [chunks_of_ne hn some, List.flatten_cons, List.take_left' hpiece, List.drop_left' hpiece,
      ih hrest]

end Chunks

namespace TravelTable

variable {t : TravelTable} {rows : List (List Int)}

/-- **Square rows are cut off the table they make.** -/
theorem toRows_ofRows (square : ∀ row ∈ rows, row.length = rows.length) :
    (ofRows rows).toRows = rows := by
  show chunks rows.length rows.flatten = rows
  by_cases none : rows.length = 0
  · rw [List.length_eq_zero_iff.mp none]
    exact chunks_zero _
  · exact chunks_flatten none square

theorem isSquare_ofRows (square : ∀ row ∈ rows, row.length = rows.length)
    (few : rows.length * rows.length < 0x10000000000000000) : (ofRows rows).isSquare = true := by
  rw [isSquare, beq_iff_eq]
  exact (length_flatten_of_length square).trans (Nat.mod_eq_of_lt few).symm

theorem covers_ofRows (square : ∀ row ∈ rows, row.length = rows.length) :
    (ofRows rows).Covers rows.length :=
  ⟨rfl, length_flatten_of_length square⟩

theorem covers_of_isSquare (few : t.locations * t.locations < 0x10000000000000000)
    (h : t.isSquare = true) : t.Covers t.locations := by
  rw [isSquare, beq_iff_eq, Nat.mod_eq_of_lt few] at h
  exact ⟨rfl, h⟩

theorem flatten_toRows (covers : t.Covers t.locations) : t.toRows.flatten = t.durations := by
  by_cases none : t.locations = 0
  · have empty : t.durations = [] := by
      have square := covers.durations
      rw [none] at square
      exact List.length_eq_zero_iff.mp square
    rw [toRows, none, chunks_zero, empty]
    rfl
  · exact flatten_chunks none _

/-- **A square table is made of its rows.** -/
theorem ofRows_toRows (covers : t.Covers t.locations) : ofRows t.toRows = t := by
  rw [ofRows, flatten_toRows covers, covers.length_toRows]

theorem entry_of_covers (covers : t.Covers t.locations) {i j : Nat} (hi : i < t.locations)
    (hj : j < t.locations) : ∃ row duration, t.toRows[i]? = some row ∧
      row[j]? = some duration ∧ t.get? i j = some duration := by
  have hrow : i < t.toRows.length := by rw [covers.length_toRows]; exact hi
  have widths := covers.length_of_mem_toRows
  have hcell : j < t.toRows[i].length := by rw [widths _ (List.getElem_mem hrow)]; exact hj
  refine ⟨_, _, List.getElem?_eq_getElem hrow, List.getElem?_eq_getElem hcell, ?_⟩
  rw [get?, ← flatten_toRows covers, getElem?_flatten_of_length widths hj,
    List.getElem?_eq_getElem hrow, Option.bind_some, List.getElem?_eq_getElem hcell]

end TravelTable

namespace TravelMatrix

variable {t : TravelTable} {m : TravelMatrix}

theorem ofTable_eq_ok_iff : ofTable t = .ok m ↔
    (∀ row ∈ t.toRows, row.length = t.toRows.length ∧ ∀ duration ∈ row, 0 ≤ duration) ∧
      m = ⟨t.toRows.length, t.toRows.flatten.toArray⟩ := by
  rw [ofTable, ofRows_eq_ok_iff, rowsFault?_eq_none_iff]

theorem ofTable_of_covers (covers : t.Covers t.locations)
    (nonneg : ∀ duration ∈ t.durations, 0 ≤ duration) :
    ofTable t = .ok ⟨t.locations, t.durations.toArray⟩ := by
  refine ofTable_eq_ok_iff.mpr ⟨fun row hrow => ⟨?_, fun duration hd => nonneg duration ?_⟩, ?_⟩
  · rw [covers.length_of_mem_toRows row hrow, covers.length_toRows]
  · rw [← TravelTable.flatten_toRows covers]
    exact List.mem_flatten_of_mem hrow hd
  · rw [TravelTable.flatten_toRows covers, covers.length_toRows]

theorem duration?_of_ne (t : TravelTable) {i j : Nat} (other : i ≠ j) :
    (⟨t.locations, t.durations.toArray⟩ : TravelMatrix).duration? i j = t.get? i j := by
  rw [duration?, if_neg other, List.getElem?_toArray, TravelTable.get?]

end TravelMatrix

namespace TravelTable

/-- **Tables and rows are two forms of the same durations, if both are square** and the square of
their size is within a word: rows are cut off the table they make, and a table is made of its rows.
Its entry for two locations stands in the row of the first one. If nothing is negative there is a
matrix of the table, and for two different locations it has this entry too. -/
theorem table_and_rows :
    (∀ rows : List (List Int), (∀ row ∈ rows, row.length = rows.length) →
      (ofRows rows).toRows = rows ∧
        (rows.length * rows.length < 0x10000000000000000 → (ofRows rows).isSquare = true)) ∧
    ∀ t : TravelTable, t.locations * t.locations < 0x10000000000000000 → t.isSquare = true →
      ofRows t.toRows = t ∧
      (∀ i < t.locations, ∀ j < t.locations, ∃ row duration, t.toRows[i]? = some row ∧
        row[j]? = some duration ∧ t.get? i j = some duration) ∧
      ((∀ duration ∈ t.durations, 0 ≤ duration) →
        ∃ m, TravelMatrix.ofTable t = .ok m ∧ m.nodes = t.locations ∧
          ∀ i < t.locations, ∀ j < t.locations, i ≠ j →
            m.duration? i j = t.get? i j ∧ t.get? i j = some (m.duration i j)) := by
  refine ⟨fun rows square => ⟨toRows_ofRows square, isSquare_ofRows square⟩, fun t few h => ?_⟩
  have covers := covers_of_isSquare few h
  refine ⟨ofRows_toRows covers, fun i hi j hj => entry_of_covers covers hi hj, fun nonneg => ?_⟩
  refine ⟨_, TravelMatrix.ofTable_of_covers covers nonneg, rfl, fun i hi j hj other => ?_⟩
  have same := TravelMatrix.duration?_of_ne t other
  obtain ⟨row, duration, -, -, found⟩ := entry_of_covers covers hi hj
  rw [same, TravelMatrix.duration_eq_of_duration? (same.trans found)]
  exact ⟨rfl, found⟩

/-- The table of three points. -/
theorem table_and_rows_threePoints :
    (ofRows [[0, 10, 20], [11, 0, 5], [21, 6, 0]]).toRows = [[0, 10, 20], [11, 0, 5], [21, 6, 0]] ∧
      ofRows (toRows ⟨[0, 10, 20, 11, 0, 5, 21, 6, 0], 3⟩) = ⟨[0, 10, 20, 11, 0, 5, 21, 6, 0], 3⟩ ∧
      ∃ m, TravelMatrix.ofTable ⟨[0, 10, 20, 11, 0, 5, 21, 6, 0], 3⟩ = .ok m ∧
        m.duration 0 2 = 20 := by
  obtain ⟨cut, joined⟩ := table_and_rows
  obtain ⟨joined, -, matrix⟩ := joined ⟨[0, 10, 20, 11, 0, 5, 21, 6, 0], 3⟩ (by decide) rfl
  obtain ⟨m, built, -, entries⟩ := matrix (by decide)
  have entry := (entries 0 (by decide) 2 (by decide) (by decide)).2
  exact ⟨(cut _ (by decide)).1, joined, m, built, (Option.some.inj entry).symm⟩

/-- **A table without entries counts as square for `2 ^ 32` locations**, the square of which wraps
around to zero. Its rows make a table without locations. -/
theorem isSquare_wraps : (⟨[], 0x100000000⟩ : TravelTable).isSquare = true ∧
    ofRows (toRows ⟨[], 0x100000000⟩) = ⟨[], 0⟩ ∧
    ¬ ∀ t : TravelTable, t.isSquare = true → ofRows t.toRows = t := by
  have square : (⟨[], 0x100000000⟩ : TravelTable).isSquare = true := by decide
  have cut : ofRows (toRows ⟨[], 0x100000000⟩) = ⟨[], 0⟩ := by
    rw [toRows, chunks_nil]
    rfl
  refine ⟨square, cut, fun all => ?_⟩
  have same := congrArg TravelTable.locations (cut.symm.trans (all _ square))
  cases same

end TravelTable

end DeliveryRouting
