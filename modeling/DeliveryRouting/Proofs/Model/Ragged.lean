import DeliveryRouting.Proofs.Travel.Rows

/-! # Rows that are not as long as they should be

A list of rows can be made a matrix at once, which is refused if a row is too long or too short. Or
it can be made a table first, and this forgets where a row ends: the table is cut into rows that are
all as long as the list of rows, up to the last one. So only the number of the entries counts
(`ofTable_ofRows_eq_ok_iff`). If it is the square of the number of rows, the rows make the same
matrix as any other rows with these entries; if it is one or zero, they make a matrix of one node or
of none. On rows of the right length the two ways agree (`ofTable_ofRows_of_square`). -/

namespace DeliveryRouting

/-- Pieces of `n` entries form a square if there are `n` of them, and also if there is one of one
entry or none at all. -/
theorem chunks_square_iff {α : Type} {n k : Nat} {xs : List α} (hn : n ≠ 0) :
    ((chunks n xs).length = k ∧ ∀ piece ∈ chunks n xs, piece.length = k) ↔
      (k ≤ 1 ∨ k = n) ∧ xs.length = k * k := by
  constructor
  · rintro ⟨count, widths⟩
    have total : xs.length = k * k := by
      have joined := length_flatten_of_length widths
      rwa [flatten_chunks hn, count] at joined
    refine ⟨?_, total⟩
    by_cases few : k ≤ 1
    · exact .inl few
    · have more : k < k * k := Nat.lt_mul_self_iff.mpr (by omega)
      have some : xs ≠ [] := List.ne_nil_of_length_pos (by omega)
      -- the first piece has `n` entries unless it holds all of them, and these are more than `k`
      have first : (xs.take n).length = k :=
        widths _ (by rw [chunks_of_ne hn some]; exact List.mem_cons_self)
      rw [List.length_take] at first
      omega
  · rintro ⟨few | rfl, total⟩
    · obtain rfl | rfl : k = 0 ∨ k = 1 := by omega
      · have none : xs = [] := List.length_eq_zero_iff.mp total
        rw [none, chunks_nil]
        exact ⟨rfl, fun piece hp => absurd hp List.not_mem_nil⟩
      · obtain ⟨x, rfl⟩ := List.length_eq_one_iff.mp total
        have only : chunks n [x] = [[x]] := by
          rw [chunks_of_ne hn (List.cons_ne_nil x []), List.take_of_length_le (by simp; omega),
            List.drop_of_length_le (by simp; omega), chunks_nil]
        rw [only]
        exact ⟨rfl, fun piece hp => by rw [List.mem_singleton.mp hp]; rfl⟩
    · exact ⟨length_chunks hn total, length_of_mem_chunks total⟩

namespace TravelMatrix

variable {rows : List (List Int)} {m : TravelMatrix}

theorem ofTable_eq_ok_iff_flatten {t : TravelTable} : ofTable t = .ok m ↔
    (∀ duration ∈ t.toRows.flatten, 0 ≤ duration) ∧
      ∃ n, (t.toRows.length = n ∧ ∀ row ∈ t.toRows, row.length = n) ∧
        m = ⟨n, t.toRows.flatten.toArray⟩ := by
  rw [ofTable_eq_ok_iff]
  constructor
  · rintro ⟨fit, rfl⟩
    refine ⟨fun duration hd => ?_, _, ⟨rfl, fun row hrow => (fit row hrow).1⟩, rfl⟩
    obtain ⟨row, hrow, hd⟩ := List.mem_flatten.mp hd
    exact (fit row hrow).2 duration hd
  · rintro ⟨nonneg, n, ⟨rfl, widths⟩, rfl⟩
    exact ⟨fun row hrow => ⟨widths row hrow, fun duration hd =>
      nonneg duration (List.mem_flatten_of_mem hrow hd)⟩, rfl⟩

/-- **Which rows make a matrix by way of a table**: only the number of their entries counts. -/
theorem ofTable_ofRows_eq_ok_iff : ofTable (.ofRows rows) = .ok m ↔
    (∀ duration ∈ rows.flatten, 0 ≤ duration) ∧ ∃ n, (n ≤ 1 ∨ n = rows.length) ∧
      rows.flatten.length = n * n ∧ m = ⟨n, rows.flatten.toArray⟩ := by
  have cut : (TravelTable.ofRows rows).toRows = chunks rows.length rows.flatten := rfl
  rw [ofTable_eq_ok_iff_flatten, cut]
  cases rows with
  | nil =>
    rw [List.flatten_nil, chunks_nil, List.flatten_nil, List.length_nil]
    refine and_congr_right fun _ => exists_congr fun n => ?_
    constructor
    · rintro ⟨⟨rfl, -⟩, rfl⟩
      exact ⟨.inr rfl, rfl, rfl⟩
    · rintro ⟨-, square, rfl⟩
      obtain rfl := or_self_iff.mp (Nat.mul_eq_zero.mp square.symm)
      exact ⟨⟨rfl, fun row hrow => absurd hrow List.not_mem_nil⟩, rfl⟩
  | cons row rows =>
    have hn : (row :: rows).length ≠ 0 := Nat.succ_ne_zero _
    simp only [flatten_chunks hn, chunks_square_iff hn, and_assoc]

/-- Rows of the right length make the same matrix by way of a table, or are refused in the same way.
-/
theorem ofTable_ofRows_of_square (square : ∀ row ∈ rows, row.length = rows.length) :
    ofTable (.ofRows rows) = ofRows rows := by
  rw [ofTable, TravelTable.toRows_ofRows square]

theorem square_of_ofRows (h : ofRows rows = .ok m) : ∀ row ∈ rows, row.length = rows.length :=
  fun row hrow => (rowsFault?_eq_none_iff.mp (ofRows_eq_ok_iff.mp h).1 row hrow).1

theorem duration_of_ofRows (h : ofRows rows = .ok m) {i j : Nat} (hi : i < rows.length)
    (hj : j < rows.length) (other : i ≠ j) :
    ∃ row duration, rows[i]? = some row ∧ row[j]? = some duration ∧
      m.duration? i j = some duration ∧ m.duration i j = duration := by
  have square := square_of_ofRows h
  obtain rfl := (ofRows_eq_ok_iff.mp h).2
  obtain ⟨row, duration, hrow, hduration, found⟩ :=
    TravelTable.entry_of_covers (TravelTable.covers_ofRows square) hi hj
  rw [TravelTable.toRows_ofRows square] at hrow
  have place : duration? ⟨rows.length, rows.flatten.toArray⟩ i j = some duration :=
    (duration?_of_ne (.ofRows rows) other).trans found
  exact ⟨row, duration, hrow, hduration, place, duration_eq_of_duration? place⟩

/-- **What makes a matrix by way of a table**: rows without a negative duration, as many of them as
the square root of the number of their entries, or any number of them if there is one entry or none.
The lengths of the rows do not count: the entries go to the matrix one after the other. If all rows
are as long as there are rows, this is the matrix that they make at once, with a node for each row
and the entries of the rows, or they are refused in the same way. What is made a matrix at once has
such rows. -/
theorem rows_by_way_of_table (rows : List (List Int)) :
    (∀ m, ofTable (.ofRows rows) = .ok m ↔
      (∀ duration ∈ rows.flatten, 0 ≤ duration) ∧ ∃ n, (n ≤ 1 ∨ n = rows.length) ∧
        rows.flatten.length = n * n ∧ m = ⟨n, rows.flatten.toArray⟩) ∧
    ((∀ row ∈ rows, row.length = rows.length) → ofTable (.ofRows rows) = ofRows rows) ∧
    ∀ m, ofRows rows = .ok m → (∀ row ∈ rows, row.length = rows.length) ∧ m.nodes = rows.length ∧
      ∀ i < rows.length, ∀ j < rows.length, i ≠ j →
        ∃ row duration, rows[i]? = some row ∧ row[j]? = some duration ∧
          m.duration? i j = some duration ∧ m.duration i j = duration := by
  refine ⟨fun m => ofTable_ofRows_eq_ok_iff, ofTable_ofRows_of_square, fun m h => ?_⟩
  refine ⟨square_of_ofRows h, ?_, fun i hi j hj other => duration_of_ofRows h hi hj other⟩
  rw [(ofRows_eq_ok_iff.mp h).2]

/-- A row of three and a row of one make a matrix of two nodes by way of a table, and the last entry
of the first row becomes the duration from the second node to the first. -/
theorem ragged_rows_run_together :
    ofRows [[1, 2, 3], [4]] = .error (.raggedRow 0 2 3) ∧
    (∃ m, ofTable (.ofRows [[1, 2, 3], [4]]) = .ok m ∧ m.nodes = 2 ∧ m.duration? 1 0 = some 3) ∧
    ¬ ∀ rows m, ofTable (.ofRows rows) = .ok m →
      (∀ row ∈ rows, row.length = rows.length) ∧ m.nodes = rows.length ∧
        ∀ i < rows.length, ∀ j < rows.length, i ≠ j →
          some (m.duration i j) = rows[i]?.bind (·[j]?) := by
  have made : ofTable (.ofRows [[1, 2, 3], [4]]) = .ok ⟨2, #[1, 2, 3, 4]⟩ :=
    ofTable_ofRows_eq_ok_iff.mpr ⟨by decide, 2, .inr rfl, rfl, rfl⟩
  refine ⟨rfl, ⟨_, made, rfl, rfl⟩, fun all => ?_⟩
  have ragged := (all _ _ made).1 [1, 2, 3] (by decide)
  exact absurd ragged (by decide)

end TravelMatrix

end DeliveryRouting
