import DeliveryRouting.Time.Clock
import Mathlib.Data.List.TakeDrop

/-! # Time: clock times that are read and written

A clock time is read from a numeral, a colon and a numeral of two digits (`minutes?_eq_some_iff`), so
what is read is never negative and within the range of hours. Conversely every number of minutes in
this range is read back from the clock time that is written for it (`readMinutes_formatMinutes`).
Seconds of the shift are what lies between two clock times that are read. -/

namespace DeliveryRouting

/-! ### Numerals with leading zeros -/

namespace Numeral

theorem value_replicate_zero (k : Nat) : value (List.replicate k '0') = 0 := by
  induction k with
  | zero => rfl
  | succ k ih =>
    rw [List.replicate_succ', value_append, ih]
    rfl

theorem value_padded (width n : Nat) : value (padded width n) = n := by
  rw [padded, value_append, value_replicate_zero, value_digits]
  omega

theorem isNumeral_iff {cs : List Char} :
    isNumeral cs = true ↔ cs ≠ [] ∧ ∀ c ∈ cs, c.isDigit = true := by
  simp [isNumeral]

theorem isNumeral_padded (width n : Nat) : isNumeral (padded width n) = true := by
  have numeral := isNumeral_iff.mp (isNumeral_digits n)
  refine isNumeral_iff.mpr ⟨fun none => numeral.1 (List.append_eq_nil_iff.mp none).2, fun c hc => ?_⟩
  rcases List.mem_append.mp hc with hc | hc
  · rw [(List.mem_replicate.mp hc).2]
    decide
  · exact numeral.2 c hc

theorem length_digits_le {n k : Nat} (hk : 0 < k) (h : n < 10 ^ k) : (digits n).length ≤ k := by
  fun_induction digits n generalizing k with
  | case1 n => exact hk
  | case2 n large ih =>
    obtain ⟨k, rfl⟩ : ∃ j, k = j + 1 := ⟨k - 1, by omega⟩
    rw [Nat.pow_succ] at h
    have many : 0 < k := by
      by_contra none
      have zero : k = 0 := by omega
      rw [zero, Nat.pow_zero] at h
      omega
    have shorter := ih many (by omega)
    rw [List.length_append, List.length_singleton]
    omega

theorem length_padded {width n : Nat} (hw : 0 < width) (h : n < 10 ^ width) :
    (padded width n).length = width := by
  have few := length_digits_le hw h
  rw [padded, List.length_append, List.length_replicate]
  omega

end Numeral

/-! ### Clock times -/

namespace Clock

variable {text : List Char} {hours minutes : List Char} {time : String} {n : Int}

theorem wellFormed_iff : wellFormed hours minutes = true ↔
    Numeral.isNumeral hours = true ∧ Numeral.isNumeral minutes = true ∧ minutes.length = 2 ∧
      Numeral.value hours ≤ maxHours ∧ Numeral.value minutes < 60 := by
  simp [wellFormed, and_assoc]

theorem span_colon (h : Numeral.isNumeral hours = true) :
    (hours ++ ':' :: minutes).span (· != ':') = (hours, ':' :: minutes) := by
  have others : ∀ c ∈ hours, (c != ':') = true := by
    intro c hc
    have digit := (Numeral.isNumeral_iff.mp h).2 c hc
    rw [bne_iff_ne]
    rintro rfl
    revert digit
    decide
  rw [List.span_eq_takeWhile_dropWhile, List.takeWhile_append_of_pos others,
    List.dropWhile_append_of_pos others]
  simp

/-- The hours and the minutes that a text names. -/
def parts? (text : List Char) : Option (Nat × Nat) :=
  match text.span (· != ':') with
  | (hours, _ :: minutes) =>
    if wellFormed hours minutes then some (Numeral.value hours, Numeral.value minutes) else none
  | (_, []) => none

theorem minutes?_eq (text : List Char) :
    minutes? text = (parts? text).map fun parts => (parts.1 : Int) * 60 + parts.2 := by
  unfold minutes? parts?
  generalize text.span (· != ':') = split
  obtain ⟨hours, rest⟩ := split
  cases rest with
  | nil => rfl
  | cons c minutes =>
    cases formed : wellFormed hours minutes <;> simp [formed]

theorem parts?_eq_some_iff {parts : Nat × Nat} : parts? text = some parts ↔
    ∃ hours minutes, text = hours ++ ':' :: minutes ∧ wellFormed hours minutes = true ∧
      parts = (Numeral.value hours, Numeral.value minutes) := by
  constructor
  · intro h
    unfold parts? at h
    split at h
    · next hours c minutes split =>
      split at h
      · next formed =>
        rw [List.span_eq_takeWhile_dropWhile, Prod.mk.injEq] at split
        obtain ⟨rfl, rest⟩ := split
        have colon : c = ':' := by
          have some : text.dropWhile (· != ':') ≠ [] := by
            rw [rest]
            exact List.cons_ne_nil _ _
          have first := List.head_dropWhile_not (· != ':') some
          simpa [rest] using first
        subst colon
        cases h
        refine ⟨_, minutes, ?_, formed, rfl⟩
        rw [← rest, List.takeWhile_append_dropWhile]
      · cases h
    · cases h
  · rintro ⟨hours, minutes, rfl, formed, rfl⟩
    rw [parts?, span_colon (wellFormed_iff.mp formed).1]
    exact if_pos formed

/-- **What is read as a clock time.** -/
theorem minutes?_eq_some_iff : minutes? text = some n ↔
    ∃ hours minutes, text = hours ++ ':' :: minutes ∧ wellFormed hours minutes = true ∧
      n = (Numeral.value hours : Int) * 60 + (Numeral.value minutes : Int) := by
  rw [minutes?_eq, Option.map_eq_some_iff]
  constructor
  · rintro ⟨parts, found, rfl⟩
    obtain ⟨hours, minutes, split, formed, rfl⟩ := parts?_eq_some_iff.mp found
    exact ⟨hours, minutes, split, formed, rfl⟩
  · rintro ⟨hours, minutes, split, formed, rfl⟩
    exact ⟨_, parts?_eq_some_iff.mpr ⟨hours, minutes, split, formed, rfl⟩, rfl⟩

theorem readMinutes_eq_ok_iff : readMinutes time = .ok n ↔ minutes? time.toList = some n := by
  unfold readMinutes
  cases minutes? time.toList with
  | none => simp
  | some k => simp

theorem minutes_bounds (h : readMinutes time = .ok n) : 0 ≤ n ∧ n / 60 ≤ maxHours := by
  obtain ⟨hours, minutes, -, formed, rfl⟩ := minutes?_eq_some_iff.mp (readMinutes_eq_ok_iff.mp h)
  obtain ⟨-, -, -, most, few⟩ := wellFormed_iff.mp formed
  omega

/-- **The clock time that is written for a number of minutes names it.** -/
theorem readMinutes_formatMinutes (nonneg : 0 ≤ n) (most : n / 60 ≤ maxHours) :
    readMinutes (formatMinutes n) = .ok n := by
  obtain ⟨k, rfl⟩ := Int.eq_ofNat_of_zero_le nonneg
  have hours : Numeral.signed 2 ((k : Int) / 60) = Numeral.padded 2 (k / 60) := rfl
  have minutes : Numeral.signed 2 ((k : Int) % 60) = Numeral.padded 2 (k % 60) := rfl
  have few : k % 60 < 60 := Nat.mod_lt k (by decide)
  have formed : wellFormed (Numeral.padded 2 (k / 60)) (Numeral.padded 2 (k % 60)) = true := by
    rw [wellFormed_iff, Numeral.value_padded, Numeral.value_padded]
    refine ⟨Numeral.isNumeral_padded .., Numeral.isNumeral_padded ..,
      Numeral.length_padded (by decide) ?_, by omega, few⟩
    have hundred : 10 ^ 2 = 100 := rfl
    omega
  rw [readMinutes_eq_ok_iff, formatMinutes, hours, minutes, String.toList_ofList,
    minutes?_eq_some_iff]
  refine ⟨_, _, rfl, formed, ?_⟩
  rw [Numeral.value_padded, Numeral.value_padded]
  omega

/-! ### Seconds of the shift -/

section Seconds

variable {base : String} {seconds : Int}

theorem toSeconds_eq_ok_iff : toSeconds time base = .ok seconds ↔ ∃ later earlier,
    readMinutes time = .ok later ∧ readMinutes base = .ok earlier ∧
      seconds = (later - earlier) * 60 := by
  unfold toSeconds
  simp only [bind, Except.bind, pure, Except.pure]
  cases readMinutes time with
  | error e => simp
  | ok later =>
    cases readMinutes base with
    | error e => simp
    | ok earlier => simp [eq_comm]

theorem ofSeconds_eq_ok_iff {text : String} : ofSeconds seconds base = .ok text ↔
    ∃ start, readMinutes base = .ok start ∧ text = formatMinutes (start + seconds / 60) := by
  unfold ofSeconds
  simp only [bind, Except.bind, pure, Except.pure]
  cases readMinutes base with
  | error e => simp
  | ok start => simp [eq_comm]

end Seconds

end Clock

end DeliveryRouting
