import DeliveryRouting.Proofs.Time.Reading
import Mathlib.Data.List.Induction

/-! # Time: the grammar of clock times

What a clock time looks like can be said without saying how it is read. A numeral is one digit, or a
numeral with one more digit behind it, which then counts ten times (`Numeral.Writes`); a clock time
is a numeral, a colon and a numeral of two digits, and nothing else (`Clock.Names`).

* `Numeral.writes_iff`: the runs of digits are the numerals, each with its value.
* `Clock.exists_names_iff`: what the reader accepts is what the grammar generates.
* `Clock.reading_follows_grammar`: whatever else a text is, it is the complaint itself. -/

namespace DeliveryRouting

/-! ### Numerals -/

namespace Numeral

/-- The run of digits writes the number. It may start with zeros. -/
inductive Writes : List Char → Nat → Prop
  | digit {d : Nat} (few : d < 10) : Writes [d.digitChar] d
  | next {cs : List Char} {n d : Nat} (before : Writes cs n) (few : d < 10) :
      Writes (cs ++ [d.digitChar]) (10 * n + d)

variable {cs : List Char} {c : Char} {n : Nat}

theorem value_append_singleton (cs : List Char) (c : Char) :
    value (cs ++ [c]) = 10 * value cs + digitValue c := by
  rw [value, List.foldl_append]
  rfl

theorem digitValue_lt (h : c.isDigit = true) : digitValue c < 10 := by
  have range := Char.isDigit_iff_toNat.mp h
  have zero : '0'.toNat = 48 := rfl
  have nine : '9'.toNat = 57 := rfl
  unfold digitValue
  omega

theorem digitChar_digitValue (h : c.isDigit = true) : (digitValue c).digitChar = c := by
  have range := Char.isDigit_iff_toNat.mp h
  have zero : '0'.toNat = 48 := rfl
  have code := Nat.toNat_digitChar_of_lt_ten (digitValue_lt h)
  rw [← Char.toNat_inj, code]
  unfold digitValue
  omega

theorem Writes.isNumeral (h : Writes cs n) : isNumeral cs = true := by
  induction h with
  | digit few => simp [isNumeral_iff, isDigit_digitChar few]
  | next before few ih =>
    have digits := (isNumeral_iff.mp ih).2
    have last := isDigit_digitChar few
    rw [isNumeral_iff]
    refine ⟨by simp, fun c hc => ?_⟩
    rcases List.mem_append.mp hc with hc | hc
    · exact digits c hc
    · rw [List.mem_singleton.mp hc]
      exact last

theorem Writes.value_eq (h : Writes cs n) : value cs = n := by
  induction h with
  | digit few => simp [value, digitValue_digitChar few]
  | next before few ih => rw [value_append_singleton, ih, digitValue_digitChar few]

theorem writes_of_isNumeral (h : isNumeral cs = true) : Writes cs (value cs) := by
  -- the last digit counts once, so the induction takes it off first
  induction cs using List.reverseRecOn with
  | nil => cases h
  | append_singleton cs c ih =>
    have digits := (isNumeral_iff.mp h).2
    have last : c.isDigit = true := digits c (by simp)
    have few := digitValue_lt last
    have shape := digitChar_digitValue last
    by_cases first : cs = []
    · subst first
      have single := Writes.digit few
      rw [shape] at single
      simpa [value_append_singleton, value] using single
    · have before : isNumeral cs = true :=
        isNumeral_iff.mpr ⟨first, fun x hx => digits x (List.mem_append_left _ hx)⟩
      have longer := (ih before).next few
      rwa [shape, ← value_append_singleton] at longer

/-- **The runs of digits are the numerals.** -/
theorem writes_iff : Writes cs n ↔ isNumeral cs = true ∧ value cs = n := by
  constructor
  · intro h
    exact ⟨h.isNumeral, h.value_eq⟩
  · rintro ⟨h, rfl⟩
    exact writes_of_isNumeral h

end Numeral

/-! ### Clock times -/

namespace Clock

/-- The text is the clock time of so many hours, which have to be a signed number of 64 bits, and so
many minutes. -/
structure Names (time : String) (hours minutes : Nat) : Prop where
  written : ∃ before behind : List Char, time.toList = before ++ ':' :: behind ∧
    Numeral.Writes before hours ∧ Numeral.Writes behind minutes ∧ behind.length = 2
  hours_lt : hours < 0x8000000000000000
  minutes_lt : minutes < 60

/-- The text is a clock time. -/
def IsTime (time : String) : Prop := ∃ hours minutes, Names time hours minutes

variable {time base : String} {hours minutes : Nat} {n : Int} {fault : InvalidTime}

/-- The parts of a clock time are the hours and the minutes that it names. -/
theorem names_iff_parts? : Names time hours minutes ↔
    parts? time.toList = some (hours, minutes) := by
  have most : maxHours + 1 = 0x8000000000000000 := rfl
  rw [parts?_eq_some_iff]
  constructor
  · rintro ⟨⟨before, behind, text, hoursWritten, minutesWritten, two⟩, range, few⟩
    refine ⟨before, behind, text, ?_, by rw [hoursWritten.value_eq, minutesWritten.value_eq]⟩
    rw [wellFormed_iff, hoursWritten.value_eq, minutesWritten.value_eq]
    exact ⟨hoursWritten.isNumeral, minutesWritten.isNumeral, two, by omega, few⟩
  · rintro ⟨before, behind, text, formed, same⟩
    obtain ⟨rfl, rfl⟩ := Prod.mk.inj same
    obtain ⟨hoursNumeral, minutesNumeral, two, range, few⟩ := wellFormed_iff.mp formed
    have hoursWritten := Numeral.writes_of_isNumeral hoursNumeral
    have minutesWritten := Numeral.writes_of_isNumeral minutesNumeral
    exact ⟨⟨before, behind, text, hoursWritten, minutesWritten, two⟩, by omega, few⟩

theorem Names.reads (h : Names time hours minutes) :
    readMinutes time = .ok (60 * (hours : Int) + minutes) := by
  rw [readMinutes_eq_ok_iff, minutes?_eq, names_iff_parts?.mp h, Int.mul_comm]
  rfl

theorem exists_names_of_reads (h : readMinutes time = .ok n) :
    ∃ hours minutes, Names time hours minutes ∧ n = 60 * (hours : Int) + minutes := by
  rw [readMinutes_eq_ok_iff, minutes?_eq, Option.map_eq_some_iff] at h
  obtain ⟨⟨hours, minutes⟩, found, rfl⟩ := h
  exact ⟨hours, minutes, names_iff_parts?.mpr found, by rw [Int.mul_comm]⟩

/-- **What is read as a clock time is one.** -/
theorem exists_names_iff : readMinutes time = .ok n ↔
    ∃ hours minutes, Names time hours minutes ∧ n = 60 * (hours : Int) + minutes := by
  constructor
  · exact exists_names_of_reads
  · rintro ⟨hours, minutes, names, rfl⟩
    exact names.reads

theorem isTime_iff : IsTime time ↔ ∃ n, readMinutes time = .ok n := by
  constructor
  · rintro ⟨hours, minutes, names⟩
    exact ⟨_, names.reads⟩
  · rintro ⟨n, h⟩
    obtain ⟨hours, minutes, names, -⟩ := exists_names_of_reads h
    exact ⟨hours, minutes, names⟩

theorem readMinutes_eq_error_iff : readMinutes time = .error fault ↔
    ¬ IsTime time ∧ fault = ⟨time⟩ := by
  rw [isTime_iff]
  unfold readMinutes
  cases minutes? time.toList with
  | none => simp [eq_comm]
  | some k => simp

theorem toSeconds_eq_error_iff : toSeconds time base = .error fault ↔
    readMinutes time = .error fault ∨ IsTime time ∧ readMinutes base = .error fault := by
  rw [isTime_iff]
  unfold toSeconds
  simp only [bind, Except.bind, pure, Except.pure]
  cases readMinutes time with
  | error e => simp
  | ok later => cases readMinutes base <;> simp

/-- **A text is read exactly if it is a clock time, and as the time it names.** Any other text is
itself the complaint, and of two texts the first one that is none. -/
theorem reading_follows_grammar (time base : String) :
    (∀ n, readMinutes time = .ok n ↔
      ∃ hours minutes : Nat, Names time hours minutes ∧ n = 60 * (hours : Int) + minutes) ∧
    (∀ fault, readMinutes time = .error fault ↔ ¬ IsTime time ∧ fault = ⟨time⟩) ∧
    ∀ fault, toSeconds time base = .error fault ↔
      ¬ IsTime time ∧ fault = ⟨time⟩ ∨ IsTime time ∧ ¬ IsTime base ∧ fault = ⟨base⟩ := by
  refine ⟨fun n => exists_names_iff, fun fault => readMinutes_eq_error_iff, fun fault => ?_⟩
  rw [toSeconds_eq_error_iff, readMinutes_eq_error_iff, readMinutes_eq_error_iff]

/-- A digit of another script is none. -/
example : toSeconds "٨:00" "8h30" = .error ⟨"٨:00"⟩ := by decide

end Clock

end DeliveryRouting
