/-! # Arithmetic: the width of integers

Sums are counted in signed words of 64 bits, which wrap around, unless integers without a bound are
asked for. What is kept of a sum does not depend on what has been kept of its parts. An integer is
held if it is kept as it is, and then so is all that is no further from zero. -/

namespace DeliveryRouting

/-- How wide the integers are that are counted in. -/
inductive Width where
  /-- signed words of 64 bits, which wrap around -/
  | word
  | unbounded
  deriving Repr, DecidableEq, Inhabited

namespace Width

/-- What is kept of an integer. -/
def keep : Width → Int → Int
  | word, n => (Int64.ofInt n).toInt
  | unbounded, n => n

/-- The integer is kept as it is. -/
def Holds (w : Width) (n : Int) : Prop := w.keep n = n

instance (w : Width) (n : Int) : Decidable (w.Holds n) := inferInstanceAs (Decidable (_ = _))

variable {w : Width} {a b n : Int}

theorem keep_word (n : Int) :
    word.keep n = (n + 0x8000000000000000) % 0x10000000000000000 - 0x8000000000000000 := by
  have wraps : word.keep n = n.bmod 0x10000000000000000 := Int64.toInt_ofInt
  rw [wraps, Int.bmod]
  omega

theorem le_keep_word (n : Int) : -0x8000000000000000 ≤ word.keep n := by
  rw [keep_word]
  omega

@[simp] theorem keep_unbounded (n : Int) : unbounded.keep n = n := rfl

@[simp] theorem keep_zero (w : Width) : w.keep 0 = 0 := by cases w <;> rfl

@[simp] theorem keep_keep : w.keep (w.keep n) = w.keep n := by
  cases w with
  | word => simp only [keep_word]; omega
  | unbounded => rfl

@[simp] theorem keep_keep_add : w.keep (w.keep a + b) = w.keep (a + b) := by
  cases w with
  | word => simp only [keep_word]; omega
  | unbounded => rfl

@[simp] theorem keep_add_keep : w.keep (a + w.keep b) = w.keep (a + b) := by
  rw [Int.add_comm, keep_keep_add, Int.add_comm]

@[simp] theorem keep_keep_sub : w.keep (w.keep a - b) = w.keep (a - b) := by
  rw [Int.sub_eq_add_neg, keep_keep_add, Int.sub_eq_add_neg]

@[simp] theorem keep_sub_keep : w.keep (a - w.keep b) = w.keep (a - b) := by
  cases w with
  | word => simp only [keep_word]; omega
  | unbounded => rfl

/-- A sum may be kept at its end as well as part by part. -/
theorem keep_sum_map {α : Type} (f : α → Int) (xs : List α) :
    w.keep (xs.map fun x => w.keep (f x)).sum = w.keep (xs.map f).sum := by
  induction xs with
  | nil => rfl
  | cons x xs ih =>
    rw [List.map_cons, List.map_cons, List.sum_cons, List.sum_cons, keep_keep_add, ← keep_add_keep,
      ih, keep_add_keep]

/-! ### Integers that are held -/

theorem holds_unbounded (n : Int) : unbounded.Holds n := rfl

theorem holds_word_iff :
    word.Holds n ↔ -0x8000000000000000 ≤ n ∧ n < 0x8000000000000000 := by
  rw [Holds, keep_word]
  omega

/-- What is neither above an integer that is held nor below its opposite is held too. -/
theorem Holds.within (hb : w.Holds b) (above : -b ≤ n) (below : n ≤ b) : w.Holds n := by
  cases w with
  | word =>
    rw [holds_word_iff] at *
    omega
  | unbounded => rfl

/-- Any width holds what is less than the end of a word, with either sign. -/
theorem holds_of_natAbs_lt (small : n.natAbs < 0x8000000000000000) : w.Holds n := by
  cases w with
  | word =>
    rw [holds_word_iff]
    omega
  | unbounded => rfl

end Width

end DeliveryRouting
