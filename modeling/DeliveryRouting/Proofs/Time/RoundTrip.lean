import DeliveryRouting.Proofs.Time.Grammar
import Mathlib.Data.List.Basic
import Mathlib.Data.List.TakeWhile

/-! # Time: there and back

Within a shift, seconds become clock times and clock times become seconds. One way loses the seconds
of the last minute and nothing else. The other way loses how the hours were written: they come back
in at least two digits and without superfluous zeros (`Clock.tidied`), because a run of digits that
does not start with zero is the numeral of its number (`Numeral.Writes.digits_eq`). Neither way is
hurt by times before the shift or past midnight (`Clock.there_and_back`). -/

namespace DeliveryRouting

/-! ### Numerals without superfluous zeros -/

namespace Numeral

/-- The run of digits with as many leading zeros as `width` asks for. -/
def trimmed (width : Nat) (cs : List Char) : List Char :=
  let significant := cs.dropWhile (· == '0')
  List.replicate (width - significant.length) '0' ++ significant

/-- The run of digits has at least `width` digits, and beyond that no leading zero. -/
def IsTrim (width : Nat) (cs : List Char) : Prop :=
  width ≤ cs.length ∧ (width < cs.length → cs.head? ≠ some '0')

variable {cs : List Char} {n width : Nat}

theorem Writes.ne_nil (h : Writes cs n) : cs ≠ [] := (isNumeral_iff.mp h.isNumeral).1

theorem Writes.head?_next (h : Writes cs n) (c : Char) : (cs ++ [c]).head? = cs.head? :=
  List.head?_append_of_ne_nil cs h.ne_nil

theorem Writes.pos (h : Writes cs n) (lead : cs.head? ≠ some '0') : 0 < n := by
  induction h with
  | @digit d few =>
    by_contra none
    have zero : d = 0 := by omega
    subst zero
    exact lead rfl
  | next before few ih =>
    rw [before.head?_next] at lead
    have positive := ih lead
    omega

/-- **A run of digits that does not start with zero is the numeral of its number.** -/
theorem Writes.digits_eq (h : Writes cs n) (lead : cs.head? ≠ some '0') : digits n = cs := by
  induction h with
  | digit few => rw [digits, if_pos few]
  | @next cs n d before few ih =>
    rw [before.head?_next] at lead
    have positive := before.pos lead
    have front : (10 * n + d) / 10 = n := by omega
    have last : (10 * n + d) % 10 = d := by omega
    rw [digits, if_neg (by omega), front, last, ih lead]

theorem value_dropWhile_zero (cs : List Char) : value (cs.dropWhile (· == '0')) = value cs := by
  induction cs with
  | nil => rfl
  | cons c cs ih =>
    by_cases zero : c = '0'
    · subst zero
      have front : value ('0' :: cs) = value ['0'] * 10 ^ cs.length + value cs :=
        value_append ['0'] cs
      have nothing : value ['0'] = 0 := rfl
      rw [List.dropWhile_cons_of_pos (by simp), ih, front, nothing, Nat.zero_mul, Nat.zero_add]
    · rw [List.dropWhile_cons_of_neg (by simpa using zero)]

/-- A number that was read is written as it was, up to the zeros in front. -/
theorem padded_value (wide : 0 < width) (h : isNumeral cs = true) :
    padded width (value cs) = trimmed width cs := by
  have kept := value_dropWhile_zero cs
  have lead := List.head?_dropWhile_not (· == '0') cs
  have within : ∀ c ∈ cs.dropWhile (· == '0'), c.isDigit = true := fun c hc =>
    (isNumeral_iff.mp h).2 c ((List.dropWhile_sublist _).subset hc)
  unfold padded trimmed
  dsimp only
  rw [← kept]
  generalize cs.dropWhile (· == '0') = significant at lead within ⊢
  -- if there is nothing but zeros, one of them is the numeral and not filled up
  by_cases zero : significant = []
  · subst zero
    obtain ⟨k, rfl⟩ : ∃ k, width = k + 1 := ⟨width - 1, by omega⟩
    have none : digits (value []) = ['0'] := by rw [digits]; rfl
    rw [none, List.append_nil]
    exact List.replicate_succ'.symm
  · have numeral := writes_of_isNumeral (isNumeral_iff.mpr ⟨zero, within⟩)
    have first : significant.head? ≠ some '0' := by
      intro starts
      rw [starts] at lead
      simp at lead
    rw [numeral.digits_eq first]

theorem trimmed_eq_self (h : IsTrim width cs) : trimmed width cs = cs := by
  obtain ⟨wide, lead⟩ := h
  have whole : cs.takeWhile (· == '0') ++ cs.dropWhile (· == '0') = cs :=
    List.takeWhile_append_dropWhile
  have zeros : cs.takeWhile (· == '0') =
      List.replicate (cs.takeWhile (· == '0')).length '0' := by
    refine List.eq_replicate_of_mem fun c hc => ?_
    simpa using List.mem_takeWhile_imp hc
  have length := congrArg List.length whole
  rw [List.length_append] at length
  -- a run that is as wide as asked for gets its zeros back, a wider one has none to lose
  rcases Nat.eq_or_lt_of_le wide with exact | longer
  · have missing : width - (cs.dropWhile (· == '0')).length =
        (cs.takeWhile (· == '0')).length := by omega
    rw [trimmed, missing, ← zeros]
    exact whole
  · have nothing : cs.takeWhile (· == '0') = [] := by
      cases cs with
      | nil => rfl
      | cons c cs =>
        have other : c ≠ '0' := fun same => lead longer (congrArg some same)
        rw [List.takeWhile_cons_of_neg (by simpa using other)]
    rw [nothing, List.length_nil] at length
    rw [nothing, List.nil_append] at whole
    have missing : width - (cs.dropWhile (· == '0')).length = 0 := by omega
    rw [trimmed, missing, whole]
    rfl

end Numeral

/-! ### Clock times with tidy hours -/

namespace Clock

/-- What stands before the first colon. -/
def hoursOf (time : String) : List Char := time.toList.takeWhile (· != ':')

/-- The clock time with its hours in at least two digits, and no zeros in front beyond that. -/
def tidied (time : String) : String :=
  String.ofList (Numeral.trimmed 2 (hoursOf time) ++ time.toList.dropWhile (· != ':'))

/-- The hours are written in at least two digits, and without zeros in front beyond that. -/
def IsTidy (time : String) : Prop := Numeral.IsTrim 2 (hoursOf time)

variable {time base : String} {start seconds n : Int}

theorem tidied_eq_self (h : IsTidy time) : tidied time = time := by
  rw [tidied, Numeral.trimmed_eq_self h, hoursOf, List.takeWhile_append_dropWhile,
    String.ofList_toList]

theorem formatMinutes_eq {hours minutes : Nat} (few : minutes < 60) :
    formatMinutes ((hours : Int) * 60 + minutes) =
      String.ofList (Numeral.padded 2 hours ++ ':' :: Numeral.padded 2 minutes) := by
  have front : ((hours : Int) * 60 + minutes) / 60 = hours := by omega
  have back : ((hours : Int) * 60 + minutes) % 60 = minutes := by omega
  rw [formatMinutes, front, back]
  rfl

/-- A clock time that was read is written as it was, up to the zeros in front of its hours. -/
theorem formatMinutes_of_reads (h : readMinutes time = .ok n) : formatMinutes n = tidied time := by
  obtain ⟨hours, minutes, text, formed, rfl⟩ := minutes?_eq_some_iff.mp (readMinutes_eq_ok_iff.mp h)
  obtain ⟨hoursNumeral, minutesNumeral, two, -, few⟩ := wellFormed_iff.mp formed
  have split : (hours ++ ':' :: minutes).span (· != ':') = (hours, ':' :: minutes) :=
    span_colon hoursNumeral
  rw [← text, List.span_eq_takeWhile_dropWhile, Prod.mk.injEq] at split
  have exact : Numeral.IsTrim 2 minutes := ⟨by omega, by omega⟩
  rw [formatMinutes_eq few, Numeral.padded_value (by decide) hoursNumeral,
    Numeral.padded_value (by decide) minutesNumeral, Numeral.trimmed_eq_self exact, tidied, hoursOf,
    split.1, split.2]

theorem toSeconds_ofSeconds (formed : readMinutes base = .ok start)
    (nonneg : 0 ≤ start + seconds / 60) (most : (start + seconds / 60) / 60 ≤ maxHours) :
    ∃ time, ofSeconds seconds base = .ok time ∧
      toSeconds time base = .ok (60 * (seconds / 60)) := by
  refine ⟨_, ofSeconds_eq_ok_iff.mpr ⟨start, formed, rfl⟩, ?_⟩
  have read := readMinutes_formatMinutes nonneg most
  rw [toSeconds_eq_ok_iff]
  exact ⟨_, start, read, formed, by omega⟩

theorem ofSeconds_toSeconds (formed : readMinutes base = .ok start)
    (h : readMinutes time = .ok n) : ∃ seconds, toSeconds time base = .ok seconds ∧
      ofSeconds seconds base = .ok (tidied time) := by
  refine ⟨_, toSeconds_eq_ok_iff.mpr ⟨n, start, h, formed, rfl⟩, ?_⟩
  have same : start + (n - start) * 60 / 60 = n := by omega
  rw [ofSeconds_eq_ok_iff]
  exact ⟨start, formed, by rw [same, formatMinutes_of_reads h]⟩

/-- **Seconds that become a clock time come back as whole minutes, and a clock time that becomes
seconds comes back with tidy hours**, whatever the base is and on which side of it or of midnight
the time lies, as long as no time before midnight of the first day or out of range is asked for. -/
theorem there_and_back (formed : readMinutes base = .ok start) :
    (∀ seconds : Int, 0 ≤ start + seconds / 60 → (start + seconds / 60) / 60 ≤ maxHours →
      ∃ time, ofSeconds seconds base = .ok time ∧
        toSeconds time base = .ok (60 * (seconds / 60)) ∧
        (60 ∣ seconds → toSeconds time base = .ok seconds)) ∧
    ∀ time n, readMinutes time = .ok n → ∃ seconds, toSeconds time base = .ok seconds ∧
      ofSeconds seconds base = .ok (tidied time) ∧
      (IsTidy time → ofSeconds seconds base = .ok time) := by
  constructor
  · intro seconds nonneg most
    obtain ⟨time, told, back⟩ := toSeconds_ofSeconds formed nonneg most
    refine ⟨time, told, back, fun whole => ?_⟩
    have same : 60 * (seconds / 60) = seconds := Int.mul_ediv_cancel' whole
    rwa [same] at back
  · intro time n h
    obtain ⟨seconds, counted, back⟩ := ofSeconds_toSeconds formed h
    refine ⟨seconds, counted, back, fun tidy => ?_⟩
    rwa [tidied_eq_self tidy] at back

/-- Three seconds short of a minute are lost past midnight, and a zero before the shift. -/
theorem there_and_back_lateShift : readMinutes "23:30" = .ok 1410 ∧
    (∃ time, ofSeconds 5397 "23:30" = .ok time ∧ toSeconds time "23:30" = .ok 5340) ∧
    ∃ seconds, toSeconds "007:05" "23:30" = .ok seconds ∧
      ofSeconds seconds "23:30" = .ok "07:05" := by
  have formed : readMinutes "23:30" = .ok 1410 := rfl
  obtain ⟨forth, back⟩ := there_and_back formed
  obtain ⟨time, told, whole, -⟩ := forth 5397 (by decide) (by decide)
  obtain ⟨seconds, counted, again, -⟩ := back "007:05" 425 rfl
  exact ⟨formed, ⟨time, told, whole⟩, seconds, counted, again⟩

end Clock

end DeliveryRouting
