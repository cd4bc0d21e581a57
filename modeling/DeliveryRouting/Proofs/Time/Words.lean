import DeliveryRouting.Proofs.Time.Grammar

/-! # Time: counting in machine words

The numbers of the clock have no bound, but a machine counts in signed words of 64 bits. The range of
the hours keeps the hours within a word, not the minutes and seconds that are counted from them. Here
the count is made step by step, and a parameter says how a machine holds each number that it forms
(`secondsBy`). Held as it is, every number leads to `toSeconds` (`secondsBy_exact`).

* `secondsBy_wrap`: a machine that wraps around ends with what a word keeps of the exact seconds.
* `secondsBy_check_of_outgrows`, `secondsBy_check_of_not_outgrows`: a machine that checks its numbers
  stops where the minutes of a clock time, or the seconds, outgrow a word, and nowhere else.
* `not_outgrows_of_modest`: fewer than `2 ^ 63 / 3600` hours are always counted within a word. -/

namespace DeliveryRouting.Clock

/-! ### Words -/

/-- The number fits a signed word of 64 bits. -/
def Fits (n : Int) : Prop := -0x8000000000000000 ≤ n ∧ n < 0x8000000000000000

instance (n : Int) : Decidable (Fits n) := inferInstanceAs (Decidable (_ ∧ _))

/-- What a signed word of 64 bits keeps of a number. -/
def wrap (n : Int) : Int := (Int64.ofInt n).toInt

/-- Why there is no count: a text is no clock time, or a number outgrows its word. -/
inductive CountFault
  | invalid (e : InvalidTime)
  | overflow
  deriving DecidableEq

/-- The number, provided that it fits a word. -/
def check (n : Int) : Except CountFault Int := if Fits n then .ok n else .error .overflow

variable {m n : Int}

theorem wrap_eq_bmod (n : Int) : wrap n = n.bmod Int64.size := Int64.toInt_ofInt

theorem wrap_eq_self (h : Fits n) : wrap n = n := by
  have size : Int64.size = 0x10000000000000000 := rfl
  unfold Fits at h
  rw [wrap_eq_bmod]
  exact Int.bmod_eq_of_le (by omega) (by omega)

theorem wrap_wrap_add : wrap (wrap m + n) = wrap (m + n) := by
  simp only [wrap_eq_bmod, Int.bmod_add_bmod]

theorem wrap_wrap_sub_wrap : wrap (wrap m - wrap n) = wrap (m - n) := by
  simp only [wrap_eq_bmod, Int.bmod_sub_bmod, Int.sub_bmod_bmod]

theorem wrap_wrap_mul : wrap (wrap m * n) = wrap (m * n) := by
  simp only [wrap_eq_bmod, Int.bmod_mul_bmod]

theorem check_of_fits (h : Fits n) : check n = .ok n := if_pos h

theorem check_of_not_fits (h : ¬ Fits n) : check n = .error .overflow := if_neg h

/-- Two checks are one if a number that fails the first one also fails the second. -/
theorem check_bind {f : Int → Int} (outgrows : ¬ Fits n → ¬ Fits (f n)) :
    ((check n).bind fun k => check (f k)) = check (f n) := by
  by_cases fits : Fits n
  · rw [check_of_fits fits]
    rfl
  · rw [check_of_not_fits fits, check_of_not_fits (outgrows fits)]
    rfl

/-! ### The count, step by step -/

section Steps

variable {ε : Type} (complain : InvalidTime → ε) (hold : Int → Except ε Int)

/-- Minutes from midnight, counted by a machine that holds numbers in its own way. -/
def minutesBy (time : String) : Except ε Int :=
  match parts? time.toList with
  | some (hours, minutes) => do
    let whole ← hold ((hours : Int) * 60)
    hold (whole + minutes)
  | none => .error (complain ⟨time⟩)

/-- Seconds from `base` to `time`, counted by a machine that holds numbers in its own way. -/
def secondsBy (time base : String) : Except ε Int := do
  let later ← minutesBy complain hold time
  let earlier ← minutesBy complain hold base
  let between ← hold (later - earlier)
  hold (between * 60)

end Steps

variable {time base : String}

theorem readMinutes_eq (time : String) : readMinutes time =
    match parts? time.toList with
    | some (hours, minutes) => .ok ((hours : Int) * 60 + minutes)
    | none => .error ⟨time⟩ := by
  rw [readMinutes, minutes?_eq]
  cases parts? time.toList <;> rfl

theorem minutesBy_exact (time : String) : minutesBy id .ok time = readMinutes time := by
  rw [readMinutes_eq, minutesBy]
  cases parts? time.toList <;> rfl

/-- **The steps that hold every number as it is are the seconds of the shift.** -/
theorem secondsBy_exact (time base : String) : secondsBy id .ok time base = toSeconds time base := by
  rw [secondsBy, minutesBy_exact, minutesBy_exact, toSeconds]
  cases readMinutes time with
  | error e => rfl
  | ok later => cases readMinutes base <;> rfl

/-! ### Wrapping around -/

theorem minutesBy_wrap (time : String) :
    minutesBy id (fun n => .ok (wrap n)) time = (readMinutes time).map wrap := by
  rw [readMinutes_eq, minutesBy]
  cases parts? time.toList with
  | none => rfl
  | some parts => exact congrArg Except.ok wrap_wrap_add

/-- **A count that wraps around ends with what a word keeps of the exact seconds.** -/
theorem secondsBy_wrap (time base : String) :
    secondsBy id (fun n => .ok (wrap n)) time base = (toSeconds time base).map wrap := by
  rw [secondsBy, minutesBy_wrap, minutesBy_wrap, toSeconds]
  cases readMinutes time with
  | error e => rfl
  | ok later =>
    cases readMinutes base with
    | error e => rfl
    | ok earlier =>
      refine congrArg Except.ok ?_
      rw [wrap_wrap_sub_wrap, wrap_wrap_mul]

/-! ### Checking -/

/-- A number that is counted from the two clock times outgrows its word: the minutes of the first
one or, as soon as both are read, those of the second one or the seconds between them. -/
def Outgrows (time base : String) : Prop :=
  ∃ later, readMinutes time = .ok later ∧ (¬ Fits later ∨
    ∃ earlier, readMinutes base = .ok earlier ∧ (¬ Fits earlier ∨ ¬ Fits ((later - earlier) * 60)))

/-- The hours that a clock time names are still within a word when they are counted in seconds. -/
def Modest (time : String) : Prop :=
  ∀ hours minutes, Names time hours minutes → hours < 0x8000000000000000 / 3600

theorem minutesBy_check_of_ok (h : readMinutes time = .ok n) :
    minutesBy .invalid check time = check n := by
  rw [readMinutes_eq] at h
  rw [minutesBy]
  cases named : parts? time.toList with
  | none =>
    rw [named] at h
    cases h
  | some parts =>
    obtain ⟨hours, minutes⟩ := parts
    rw [named] at h
    obtain rfl : (hours : Int) * 60 + minutes = n := Except.ok.inj h
    refine check_bind fun outgrown => ?_
    unfold Fits at outgrown ⊢
    omega

theorem minutesBy_check_of_error {e : InvalidTime} (h : readMinutes time = .error e) :
    minutesBy .invalid check time = .error (.invalid e) := by
  rw [readMinutes_eq] at h
  rw [minutesBy]
  cases named : parts? time.toList with
  | none =>
    rw [named] at h
    obtain rfl : ⟨time⟩ = e := Except.error.inj h
    rfl
  | some parts =>
    rw [named] at h
    cases h

/-- The seconds outgrow a word if the minutes between do, so only they are to be checked. -/
theorem secondsBy_check (time base : String) : secondsBy .invalid check time base =
    (minutesBy .invalid check time).bind fun later =>
      (minutesBy .invalid check base).bind fun earlier => check ((later - earlier) * 60) := by
  refine congrArg (Except.bind _) (funext fun later => ?_)
  refine congrArg (Except.bind _) (funext fun earlier => ?_)
  refine check_bind fun outgrown => ?_
  unfold Fits at outgrown ⊢
  omega

theorem secondsBy_check_of_outgrows (h : Outgrows time base) :
    secondsBy .invalid check time base = .error .overflow := by
  obtain ⟨later, read, outgrown⟩ := h
  rw [secondsBy_check, minutesBy_check_of_ok read]
  by_cases fits : Fits later
  · obtain ⟨earlier, readBase, outgrown⟩ := outgrown.resolve_left (not_not_intro fits)
    rw [check_of_fits fits, minutesBy_check_of_ok readBase]
    by_cases fitsBase : Fits earlier
    · have last := outgrown.resolve_left (not_not_intro fitsBase)
      rw [check_of_fits fitsBase]
      exact check_of_not_fits last
    · rw [check_of_not_fits fitsBase]
      rfl
  · rw [check_of_not_fits fits]
    rfl

theorem secondsBy_check_of_not_outgrows (h : ¬ Outgrows time base) :
    secondsBy .invalid check time base = (toSeconds time base).mapError .invalid := by
  rw [secondsBy_check, toSeconds]
  cases read : readMinutes time with
  | error e =>
    rw [minutesBy_check_of_error read]
    rfl
  | ok later =>
    have fits : Fits later := by
      by_contra outgrown
      exact h ⟨later, read, .inl outgrown⟩
    rw [minutesBy_check_of_ok read, check_of_fits fits]
    cases readBase : readMinutes base with
    | error e =>
      rw [minutesBy_check_of_error readBase]
      rfl
    | ok earlier =>
      have fitsBase : Fits earlier := by
        by_contra outgrown
        exact h ⟨later, read, .inr ⟨earlier, readBase, .inl outgrown⟩⟩
      have last : Fits ((later - earlier) * 60) := by
        by_contra outgrown
        exact h ⟨later, read, .inr ⟨earlier, readBase, .inr outgrown⟩⟩
      rw [minutesBy_check_of_ok readBase, check_of_fits fitsBase]
      exact check_of_fits last

/-- Wrapping around does no harm where checking finds nothing. -/
theorem secondsBy_wrap_of_not_outgrows (h : ¬ Outgrows time base) :
    secondsBy id (fun n => .ok (wrap n)) time base = toSeconds time base := by
  rw [secondsBy_wrap]
  cases counted : toSeconds time base with
  | error e => rfl
  | ok seconds =>
    obtain ⟨later, earlier, read, readBase, rfl⟩ := toSeconds_eq_ok_iff.mp counted
    have last : Fits ((later - earlier) * 60) := by
      by_contra outgrown
      exact h ⟨later, read, .inr ⟨earlier, readBase, .inr outgrown⟩⟩
    exact congrArg Except.ok (wrap_eq_self last)

theorem modest_of_parts {parts : Nat × Nat} (h : parts? time.toList = some parts)
    (few : parts.1 < 0x8000000000000000 / 3600) : Modest time := by
  intro hours minutes names
  have same : parts = (hours, minutes) :=
    Option.some.inj (h.symm.trans (names_iff_parts?.mp names))
  rw [same] at few
  exact few

theorem Modest.bounds (h : Modest time) (read : readMinutes time = .ok n) :
    0 ≤ n ∧ n < 60 * (0x8000000000000000 / 3600) := by
  obtain ⟨hours, minutes, names, rfl⟩ := exists_names_of_reads read
  have few := h hours minutes names
  have last := names.minutes_lt
  omega

theorem not_outgrows_of_modest (h : Modest time) (hbase : Modest base) : ¬ Outgrows time base := by
  rintro ⟨later, read, outgrown⟩
  have bounds := h.bounds read
  rcases outgrown with outgrown | ⟨earlier, readBase, outgrown⟩
  · unfold Fits at outgrown
    omega
  · have boundsBase := hbase.bounds readBase
    unfold Fits at outgrown
    omega

/-- **Counting in words.** Step by step and with every number as it is, the count is that of the
seconds of the shift. A machine that checks its numbers stops at clock times that outgrow its words,
and counts the exact seconds of all others. One that wraps around always ends with what a word keeps
of the exact seconds, and these are the seconds themselves where checking finds nothing. Nothing that
is counted from fewer than `2 ^ 63 / 3600` hours outgrows a word. -/
theorem counting_in_words (time base : String) :
    secondsBy id .ok time base = toSeconds time base ∧
    (Outgrows time base → secondsBy .invalid check time base = .error .overflow) ∧
    (¬ Outgrows time base →
      secondsBy .invalid check time base = (toSeconds time base).mapError .invalid ∧
      secondsBy id (fun n => .ok (wrap n)) time base = toSeconds time base) ∧
    secondsBy id (fun n => .ok (wrap n)) time base = (toSeconds time base).map wrap ∧
    (Modest time → Modest base → ¬ Outgrows time base) := by
  refine ⟨secondsBy_exact time base, secondsBy_check_of_outgrows, fun fits => ?_,
    secondsBy_wrap time base, not_outgrows_of_modest⟩
  exact ⟨secondsBy_check_of_not_outgrows fits, secondsBy_wrap_of_not_outgrows fits⟩

/-- An evening is counted in words, and two times at the end of all hours are not. -/
theorem counting_in_words_evening :
    secondsBy .invalid check "18:00" "08:00" = .ok 36000 ∧
    secondsBy id (fun n => .ok (wrap n)) "18:00" "08:00" = .ok 36000 ∧
    Outgrows "9223372036854775807:01" "9223372036854775807:00" ∧
    secondsBy .invalid check "9223372036854775807:01" "9223372036854775807:00" =
      .error .overflow := by
  have evening : Modest "18:00" := modest_of_parts rfl (by decide)
  have morning : Modest "08:00" := modest_of_parts rfl (by decide)
  obtain ⟨-, -, exact, -, modest⟩ := counting_in_words "18:00" "08:00"
  obtain ⟨checked, wrapped⟩ := exact (modest evening morning)
  have outgrown : Outgrows "9223372036854775807:01" "9223372036854775807:00" :=
    ⟨9223372036854775807 * 60 + 1, rfl, .inl (by decide)⟩
  obtain ⟨-, stopped, -⟩ :=
    counting_in_words "9223372036854775807:01" "9223372036854775807:00"
  exact ⟨checked, wrapped, outgrown, stopped outgrown⟩

/-- **The range of the hours does not keep the count within a word.** A minute at the end of all hours
is sixty seconds, which a machine that checks cannot count; and one that wraps around does not see
`2 ^ 60` hours more than an evening. -/
theorem words_outgrown :
    toSeconds "9223372036854775807:01" "9223372036854775807:00" = .ok 60 ∧
    secondsBy .invalid check "9223372036854775807:01" "9223372036854775807:00" =
      .error .overflow ∧
    secondsBy id (fun n => .ok (wrap n)) "1152921504606846994:00" "08:00" =
      toSeconds "18:00" "08:00" ∧
    ¬ ∀ time base, secondsBy .invalid check time base ≠ .error .overflow := by
  have stopped : secondsBy .invalid check "9223372036854775807:01" "9223372036854775807:00" =
      .error .overflow := by decide
  refine ⟨rfl, stopped, by decide, fun never => ?_⟩
  exact never _ _ stopped

end DeliveryRouting.Clock
