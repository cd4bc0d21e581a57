import DeliveryRouting.Proofs.Arithmetic.Truncation
import DeliveryRouting.Proofs.Travel.Lookup

/-! # Answers of a routing server

An answer is taken whole or not at all. It has to be complete: it has a row for each point, and each
row has an entry for each point, none of which is missing (`Complete`). Then every entry is cut to
whole seconds and keeps its place (`entry_of_table`), so that no defect shifts an entry into the
place of another one. -/

namespace DeliveryRouting.TableAnswer

variable {a : TableAnswer} {n : Nat} {t : TravelTable} {rows : List (List (Option Float))}
  {seconds : List (List Int)}

/-- There is an entry for every two of `n` points. -/
def Complete (n : Nat) (rows : List (List (Option Float))) : Prop :=
  rows.length = n ∧ ∀ row ∈ rows, row.length = n ∧ none ∉ row

theorem exists_seconds_iff : (∃ seconds : List (List Int),
      rows.map (·.map (·.map GreatCircle.wholeSeconds)) = seconds.map (·.map some)) ↔
    ∀ row ∈ rows, none ∉ row := by
  constructor
  · rintro ⟨seconds, cells⟩ row hrow missing
    have cut : row.map (·.map GreatCircle.wholeSeconds) ∈ seconds.map (·.map some) :=
      cells ▸ List.mem_map_of_mem hrow
    obtain ⟨second, -, same⟩ := List.mem_map.mp cut
    have absent : none ∈ second.map some := same ▸ List.mem_map_of_mem missing
    obtain ⟨duration, -, impossible⟩ := List.mem_map.mp absent
    cases impossible
  · intro whole
    refine ⟨rows.map (·.filterMap (·.map GreatCircle.wholeSeconds)), ?_⟩
    rw [List.map_map]
    refine List.map_congr_left fun row hrow => ?_
    rw [Function.comp_apply, List.map_filterMap_some_eq_filter_map_isSome, List.filter_eq_self.mpr]
    intro cell hcell
    obtain ⟨entry, hentry, rfl⟩ := List.mem_map.mp hcell
    cases entry with
    | none => exact absurd hentry (whole row hrow)
    | some duration => rfl

/-- An answer is taken if it says that all went well and it is complete. -/
theorem exists_table_iff : (∃ t, a.table n = .ok t) ↔
    a.code = good ∧ ∃ rows, a.durations = some rows ∧ Complete n rows := by
  constructor
  · rintro ⟨t, taken⟩
    obtain ⟨code, rows, hrows, length, widths, seconds, cells, -⟩ := table_eq_ok_iff.mp taken
    have whole := exists_seconds_iff.mp ⟨seconds, cells⟩
    exact ⟨code, rows, hrows, length, fun row hrow => ⟨widths row hrow, whole row hrow⟩⟩
  · rintro ⟨code, rows, hrows, length, complete⟩
    obtain ⟨seconds, cells⟩ := exists_seconds_iff.mpr fun row hrow => (complete row hrow).2
    exact ⟨_, table_eq_ok_iff.mpr ⟨code, rows, hrows, length, fun row hrow => (complete row hrow).1,
      seconds, cells, rfl⟩⟩

/-- What is not taken is refused with its code, or it is incomplete. -/
theorem table_eq_error (missing : ¬ ∃ t, a.table n = .ok t) : a.table n =
    .error (if a.code = good then .incomplete else .refused a.code (a.message.getD noMessage)) := by
  unfold table at missing ⊢
  by_cases hcode : a.code = good
  · rw [if_neg (not_not.mpr hcode)] at missing ⊢
    rw [if_pos hcode]
    split
    · next durations found => exact absurd ⟨_, by rw [found]⟩ missing
    · rfl
  · rw [if_pos hcode, if_neg hcode]

theorem cell_of_seconds
    (cells : rows.map (·.map (·.map GreatCircle.wholeSeconds)) = seconds.map (·.map some))
    {i j : Nat} {row : List (Option Float)} {entry : Float} (hrow : rows[i]? = some row)
    (hentry : row[j]? = some (some entry)) :
    seconds[i]?.bind (·[j]?) = some (GreatCircle.wholeSeconds entry) := by
  have rowCut := congrArg (·[i]?) cells
  simp only [List.getElem?_map, hrow, Option.map_some] at rowCut
  obtain ⟨second, hsecond, same⟩ := Option.map_eq_some_iff.mp rowCut.symm
  have cellCut := congrArg (·[j]?) same
  simp only [List.getElem?_map, hentry, Option.map_some] at cellCut
  obtain ⟨duration, hduration, same⟩ := Option.map_eq_some_iff.mp cellCut
  rw [hsecond, Option.bind_some, hduration, Option.some.inj same]

/-- **Every entry keeps its place**, and it is cut to whole seconds. -/
theorem entry_of_table (taken : a.table n = .ok t) (hrows : a.durations = some rows) {i j : Nat}
    (hi : i < n) (hj : j < n) : ∃ row entry, rows[i]? = some row ∧ row[j]? = some (some entry) ∧
      t.durations[i * n + j]? = some (GreatCircle.wholeSeconds entry) := by
  obtain ⟨-, rows', hrows', length, widths, seconds, cells, rfl⟩ := table_eq_ok_iff.mp taken
  obtain rfl := Option.some.inj (hrows.symm.trans hrows')
  have inRows : i < rows.length := by rw [length]; exact hi
  have member := List.getElem_mem inRows
  have inRow : j < rows[i].length := by rw [widths _ member]; exact hj
  have whole := exists_seconds_iff.mp ⟨seconds, cells⟩ _ member
  have hrow := List.getElem?_eq_getElem inRows
  have hcell := List.getElem?_eq_getElem inRow
  cases hentry : rows[i][j] with
  | none => exact absurd (hentry ▸ List.getElem_mem inRow) whole
  | some entry =>
    rw [hentry] at hcell
    refine ⟨rows[i], entry, hrow, hcell, ?_⟩
    rw [← cell_of_seconds cells hrow hcell]
    exact getElem?_flatten_of_length (length_of_mem_seconds cells widths) hj

/-- **An answer is taken whole or not at all.** It is taken exactly if it says that all went well
and has a row for each point, and each row has an entry for each point, none of which is missing.
The table then has the entry for two points in its place, cut to whole seconds. What does not say
that all went well is refused with its code and its message, whatever durations it has, and
everything else is incomplete. -/
theorem taken_whole_or_not_at_all (a : TableAnswer) (n : Nat) :
    ((∃ t, a.table n = .ok t) ↔ a.code = "Ok" ∧ ∃ rows, a.durations = some rows ∧
      rows.length = n ∧ ∀ row ∈ rows, row.length = n ∧ none ∉ row) ∧
    (∀ t, a.table n = .ok t → t.locations = n ∧ t.durations.length = n * n ∧
      ∃ rows, a.durations = some rows ∧ ∀ i < n, ∀ j < n, ∃ row entry duration,
        rows[i]? = some row ∧ row[j]? = some (some entry) ∧
          t.durations[i * n + j]? = some duration ∧ Doubles.CutTo entry duration) ∧
    (a.code ≠ "Ok" →
      a.table n = .error (.refused a.code (a.message.getD "OSRM error"))) ∧
    (a.code = "Ok" → (¬ ∃ t, a.table n = .ok t) → a.table n = .error .incomplete) := by
  refine ⟨exists_table_iff, fun t taken => ?_, fun code => ?_, fun code missing => ?_⟩
  · have covers := covers_of_table taken
    obtain ⟨-, rows, hrows, -⟩ := exists_table_iff.mp ⟨t, taken⟩
    refine ⟨covers.locations, covers.durations, rows, hrows, fun i hi j hj => ?_⟩
    obtain ⟨row, entry, hrow, hentry, place⟩ := entry_of_table taken hrows hi hj
    exact ⟨row, entry, _, hrow, hentry, place, Doubles.cutTo_wholeSeconds entry⟩
  · have refused : a.code ≠ good := code
    have missing : ¬ ∃ t, a.table n = .ok t := fun taken => refused (exists_table_iff.mp taken).1
    rw [table_eq_error missing, if_neg refused, noMessage]
  · have taken : a.code = good := code
    rw [table_eq_error missing, if_pos taken]

/-- The table of two points, cut to whole seconds. -/
example : table ⟨"Ok", none, some [[some 0.0, some 412.7], [some 398.2, some 0.0]]⟩ 2 matches
    .ok ⟨[0, 412, 398, 0], 2⟩ := by decide +kernel

end DeliveryRouting.TableAnswer
