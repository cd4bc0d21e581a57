import DeliveryRouting.Proofs.Model.Layout
import DeliveryRouting.Travel.Provider

/-! # Looking up travel durations

Whoever looks up the durations between `n` points gets a table that *covers* them: it has `n`
locations and a duration for every two of them, and its rows are `n` rows of `n` entries, those of
point `i` in row `i`. This holds whatever the server answers and whatever table is given
(`Provider.covers_lookup`).

* `Covers.length_toRows`, `Covers.length_of_mem_toRows`: the rows of a table that covers.
* `TableAnswer.table_eq_ok_iff`: when an answer is taken, and which table it then holds.
* `GreatCircle.get?_table`: the entries of an estimate. -/

namespace DeliveryRouting

/-! ### Tables that cover their points -/

section Chunks

variable {α : Type} {n : Nat}

theorem length_chunks (hn : n ≠ 0) {k : Nat} {xs : List α} (h : xs.length = k * n) :
    (chunks n xs).length = k := by
  induction k generalizing xs with
  | zero =>
    have none_left : xs = [] := List.length_eq_zero_iff.mp (by omega)
    rw [none_left, chunks_nil, List.length_nil]
  | succ k ih =>
    rw [Nat.succ_mul] at h
    have some_left : xs ≠ [] := by
      rintro rfl
      rw [List.length_nil] at h
      omega
    rw [chunks_of_ne hn some_left, List.length_cons, ih (by rw [List.length_drop]; omega)]

theorem length_of_mem_chunks {k : Nat} {xs : List α} (h : xs.length = k * n) :
    ∀ piece ∈ chunks n xs, piece.length = n := by
  induction k generalizing xs with
  | zero =>
    have none_left : xs = [] := List.length_eq_zero_iff.mp (by omega)
    rw [none_left, chunks_nil]
    exact fun piece hp => absurd hp List.not_mem_nil
  | succ k ih =>
    rw [Nat.succ_mul] at h
    rw [chunks]
    split
    · exact fun piece hp => absurd hp List.not_mem_nil
    · intro piece hp
      rcases List.mem_cons.mp hp with rfl | hp
      · rw [List.length_take]; omega
      · exact ih (by rw [List.length_drop]; omega) piece hp

end Chunks

namespace TravelTable

variable {t : TravelTable} {n : Nat}

/-- The table has `n` locations and a duration for every two of them. -/
structure Covers (t : TravelTable) (n : Nat) : Prop where
  locations : t.locations = n
  durations : t.durations.length = n * n

theorem covers_iff : t.Covers n ↔ t.covers n = true := by
  rw [covers, Bool.and_eq_true, beq_iff_eq, beq_iff_eq]
  exact ⟨fun h => ⟨h.locations, h.durations⟩, fun h => ⟨h.1, h.2⟩⟩

theorem Covers.length_toRows (h : t.Covers n) : t.toRows.length = n := by
  rw [toRows, h.locations]
  by_cases hn : n = 0
  · rw [hn, chunks_zero, List.length_nil]
  · exact length_chunks hn h.durations

theorem Covers.length_of_mem_toRows (h : t.Covers n) : ∀ row ∈ t.toRows, row.length = n := by
  rw [toRows, h.locations]
  exact length_of_mem_chunks h.durations

end TravelTable

/-! ### Answers of a server -/

namespace TableAnswer

variable {n : Nat}

theorem mapM_eq_some_iff {α β : Type} {f : α → Option β} {xs : List α} {ys : List β} :
    xs.mapM f = some ys ↔ xs.map f = ys.map some := by
  induction xs generalizing ys with
  | nil => cases ys <;> simp
  | cons x xs ih =>
    rw [List.mapM_cons, List.map_cons]
    cases hx : f x with
    | none => cases ys <;> simp
    | some y =>
      cases ys with
      | nil => simp [Option.bind_eq_some_iff]
      | cons y' ys => simpa [Option.bind_eq_some_iff, ih] using and_comm

theorem row?_eq_some_iff {row : List (Option Float)} {seconds : List Int} :
    row? n row = some seconds ↔
      row.length = n ∧ row.map (·.map GreatCircle.wholeSeconds) = seconds.map some := by
  rw [row?, Option.ite_none_right_eq_some, mapM_eq_some_iff]

theorem mapM_row?_eq_some_iff {rows : List (List (Option Float))} {seconds : List (List Int)} :
    rows.mapM (row? n) = some seconds ↔ (∀ row ∈ rows, row.length = n) ∧
      rows.map (·.map (·.map GreatCircle.wholeSeconds)) = seconds.map (·.map some) := by
  rw [mapM_eq_some_iff]
  induction rows generalizing seconds with
  | nil => cases seconds <;> simp
  | cons row rows ih =>
    cases seconds with
    | nil => simp
    | cons first seconds =>
      rw [List.map_cons, List.map_cons, List.map_cons, List.map_cons, List.cons_eq_cons,
        List.cons_eq_cons, ih, row?_eq_some_iff, List.forall_mem_cons]
      exact and_and_and_comm

/-- **When an answer is taken**: it says that all went well, it has a row for each point, and each
row has a duration for each point. The table holds these durations in whole seconds. -/
theorem table_eq_ok_iff {a : TableAnswer} {t : TravelTable} : a.table n = .ok t ↔
    a.code = good ∧ ∃ rows, a.durations = some rows ∧ rows.length = n ∧
      (∀ row ∈ rows, row.length = n) ∧ ∃ seconds : List (List Int),
        rows.map (·.map (·.map GreatCircle.wholeSeconds)) = seconds.map (·.map some) ∧
          t = ⟨seconds.flatten, n⟩ := by
  have taken {durations : List Int} : a.durations.bind (cells? n) = some durations ↔
      ∃ rows, a.durations = some rows ∧ rows.length = n ∧ ∃ seconds,
        rows.mapM (row? n) = some seconds ∧ seconds.flatten = durations := by
    simp only [Option.bind_eq_some_iff, cells?, Option.ite_none_right_eq_some,
      Option.map_eq_some_iff]
  have whole : a.table n = .ok t ↔ a.code = good ∧
      ∃ durations, a.durations.bind (cells? n) = some durations ∧ t = ⟨durations, n⟩ := by
    unfold table
    by_cases hcode : a.code = good
    · rw [if_neg (not_not.mpr hcode)]
      cases a.durations.bind (cells? n) <;> simp [hcode, eq_comm]
    · rw [if_pos hcode]
      simp [hcode]
  rw [whole]
  refine and_congr_right fun _ => ?_
  constructor
  · rintro ⟨durations, hd, rfl⟩
    obtain ⟨rows, hrows, length, seconds, hseconds, rfl⟩ := taken.mp hd
    obtain ⟨widths, cells⟩ := mapM_row?_eq_some_iff.mp hseconds
    exact ⟨rows, hrows, length, widths, seconds, cells, rfl⟩
  · rintro ⟨rows, hrows, length, widths, seconds, cells, rfl⟩
    have hseconds := mapM_row?_eq_some_iff.mpr ⟨widths, cells⟩
    exact ⟨_, taken.mpr ⟨rows, hrows, length, seconds, hseconds, rfl⟩, rfl⟩

theorem length_of_mem_seconds {rows : List (List (Option Float))} {seconds : List (List Int)}
    (cells : rows.map (·.map (·.map GreatCircle.wholeSeconds)) = seconds.map (·.map some))
    (widths : ∀ row ∈ rows, row.length = n) : ∀ row ∈ seconds, row.length = n := by
  intro row hrow
  have cut : row.map some ∈ rows.map (·.map (·.map GreatCircle.wholeSeconds)) :=
    cells ▸ List.mem_map_of_mem hrow
  obtain ⟨cells, hcells, same⟩ := List.mem_map.mp cut
  have := congrArg List.length same
  rw [List.length_map, List.length_map, widths cells hcells] at this
  exact this.symm

theorem covers_of_table {a : TableAnswer} {t : TravelTable} (h : a.table n = .ok t) :
    t.Covers n := by
  obtain ⟨-, rows, -, length, widths, seconds, cells, rfl⟩ := table_eq_ok_iff.mp h
  have count : seconds.length = rows.length := by
    simpa using (congrArg List.length cells).symm
  have width := length_of_mem_seconds cells widths
  exact ⟨rfl, by rw [length_flatten_of_length width, count, length]⟩

theorem covers_of_read {text : String} {t : TravelTable} (h : read text n = .ok t) :
    t.Covers n := by
  unfold read at h
  split at h
  · exact covers_of_table h
  · cases h

end TableAnswer

/-! ### Estimates -/

namespace GreatCircle

/-- The durations from a point. -/
def row (points : List Point) (speed : Float) (origin : Point × Nat) : List Int :=
  points.zipIdx.map fun (q, j) => if origin.2 = j then 0 else duration speed origin.1 q

theorem durations_table (points : List Point) (kmh : Float) :
    (table points kmh).durations = (points.zipIdx.map (row points (metresPerSecond kmh))).flatten :=
  List.flatMap_def

theorem length_of_mem_rows (points : List Point) (speed : Float) :
    ∀ piece ∈ points.zipIdx.map (row points speed), piece.length = points.length := by
  intro piece hpiece
  obtain ⟨origin, -, rfl⟩ := List.mem_map.mp hpiece
  rw [row, List.length_map, List.length_zipIdx]

theorem covers_table (points : List Point) (kmh : Float) :
    (table points kmh).Covers points.length := by
  refine ⟨rfl, ?_⟩
  rw [durations_table, length_flatten_of_length (length_of_mem_rows points _), List.length_map,
    List.length_zipIdx]

/-- **The entries of an estimate**: nothing from a point to itself, and otherwise the time along the
great circle. -/
theorem get?_table {points : List Point} {i j : Nat} (hi : i < points.length)
    (hj : j < points.length) (kmh : Float) : (table points kmh).get? i j =
      some (if i = j then 0 else duration (metresPerSecond kmh) points[i] points[j]) := by
  rw [TravelTable.get?, durations_table, show (table points kmh).locations = points.length from rfl,
    getElem?_flatten_of_length (length_of_mem_rows points _) hj]
  simp [row, hi, hj]

end GreatCircle

/-! ### Providers -/

namespace Provider

/-- **A lookup gives a table that covers the points.** -/
theorem covers_lookup (provider : Provider) (body : Option String) (points : List Point) :
    (provider.lookup body points).Covers points.length := by
  cases provider with
  | osrm url =>
    simp only [lookup]
    split
    · next table taken =>
      obtain ⟨text, -, read⟩ := Option.map_eq_some_iff.mp taken
      exact TableAnswer.covers_of_read read
    · exact GreatCircle.covers_table points fallbackSpeed
  | greatCircle kmh => exact GreatCircle.covers_table points kmh
  | custom table =>
    simp only [lookup]
    split
    · next fits => exact TravelTable.covers_iff.mpr fits
    · exact GreatCircle.covers_table points fallbackSpeed

/-- **A lookup always gives a table that can be used**, with a row for each point and in it a
duration for each point. It is the table of the server if its answer is taken, the given one if it
covers the points, and else an estimate, at the speed that was asked for or at 30 km/h, in which it
takes no time from a point to itself. -/
theorem lookup_usable (provider : Provider) (body : Option String) (points : List Point) :
    (provider.lookup body points).locations = points.length ∧
    (provider.lookup body points).durations.length = points.length * points.length ∧
    ((provider.lookup body points).toRows.length = points.length ∧
      ∀ row ∈ (provider.lookup body points).toRows, row.length = points.length) ∧
    (∀ url, provider = .osrm url →
      (∀ text table, body = some text → TableAnswer.read text points.length = .ok table →
        provider.lookup body points = table) ∧
      ((∀ text table, body = some text → TableAnswer.read text points.length ≠ .ok table) →
        provider.lookup body points = GreatCircle.table points 30.0)) ∧
    (∀ kmh, provider = .greatCircle kmh →
      provider.lookup body points = GreatCircle.table points kmh) ∧
    (∀ table, provider = .custom table → provider.lookup body points =
      if table.locations = points.length ∧ table.durations.length =
          table.locations * table.locations then table
      else GreatCircle.table points 30.0) ∧
    ∀ kmh i j, ∀ hi : i < points.length, ∀ hj : j < points.length,
      (GreatCircle.table points kmh).get? i j = some (if i = j then 0
        else GreatCircle.duration (GreatCircle.metresPerSecond kmh) points[i] points[j]) := by
  have covers := covers_lookup provider body points
  refine ⟨covers.locations, covers.durations, ⟨covers.length_toRows, covers.length_of_mem_toRows⟩,
    ?server, ?estimate, ?given, fun kmh i j hi hj => GreatCircle.get?_table hi hj kmh⟩
  case server =>
    rintro url rfl
    refine ⟨?_, fun refused => ?_⟩
    · rintro text table rfl read
      simp only [lookup, Option.map_some, read]
    · simp only [lookup]
      split
      · next table taken =>
        obtain ⟨text, rfl, read⟩ := Option.map_eq_some_iff.mp taken
        exact absurd read (refused text table rfl)
      · rfl
  case estimate =>
    rintro kmh rfl
    rfl
  case given =>
    rintro table rfl
    simp only [lookup, TravelTable.covers, Bool.and_eq_true, beq_iff_eq]
    refine if_congr (and_congr_right fun same => ?_) rfl rfl
    rw [same]

end Provider

end DeliveryRouting
