import DeliveryRouting.Arithmetic
import Mathlib

/-! # Comparing doubles

Doubles that are numbers, the infinite ones among them, are compared by their sign and then by
exponent and mantissa (`le_iff`): they are in one line. What is no number is not comparable to
anything, so to be not at least as large as another double is to be less only where both are numbers
(`not_le_trans`). -/

namespace DeliveryRouting.Doubles

open Float.Model Float.Model.UnpackedFloat

/-- Where a number stands among all numbers, by parts that count one after the other. -/
def rank : UnpackedFloat → Int × Int × Int
  | .infinity .negative => (-2, 0, 0)
  | .finite .negative mantissa exponent _ => (-1, -exponent, -mantissa)
  | .zero _ => (0, 0, 0)
  | .finite .positive mantissa exponent _ => (1, exponent, mantissa)
  | .infinity .positive => (2, 0, 0)
  | .notANumber => (3, 0, 0)

/-- The first rank does not come after the second. -/
def Upto (a b : Int × Int × Int) : Prop :=
  a.1 < b.1 ∨ a.1 = b.1 ∧ (a.2.1 < b.2.1 ∨ a.2.1 = b.2.1 ∧ a.2.2 ≤ b.2.2)

theorem Upto.trans {a b c : Int × Int × Int} (h : Upto a b) (h' : Upto b c) : Upto a c := by
  unfold Upto at *
  omega

theorem upto_or_upto (a b : Int × Int × Int) : Upto a b ∨ Upto b a := by
  unfold Upto
  omega

section Order

variable {a b : UnpackedFloat}

theorem isLE_then_compare (e e' : Int) (m m' : Nat) :
    ((compare e e').then (compare m m')).isLE = true ↔ e < e' ∨ e = e' ∧ m ≤ m' := by
  rcases Int.lt_trichotomy e e' with h | rfl | h
  · simp [Int.compare_eq_lt.mpr h, h]
  · simp [Nat.isLE_compare]
  · simp [Int.compare_eq_gt.mpr h]
    omega

theorem isGE_then_compare (e e' : Int) (m m' : Nat) :
    ((compare e e').then (compare m m')).isGE = true ↔ e' < e ∨ e = e' ∧ m' ≤ m := by
  rcases Int.lt_trichotomy e e' with h | rfl | h
  · simp [Int.compare_eq_lt.mpr h]
    omega
  · simp [Nat.isGE_compare]
  · simp [Int.compare_eq_gt.mpr h, h]

theorem le_iff (ha : a.isNaN = false) (hb : b.isNaN = false) :
    a.le b = true ↔ Upto (rank a) (rank b) := by
  unfold UnpackedFloat.le UnpackedFloat.compare Upto
  rcases a with (_ | _) | _ | (_ | _) | ⟨_ | _, m, e, hm⟩ <;>
    rcases b with (_ | _) | _ | (_ | _) | ⟨_ | _, m', e', hm'⟩ <;>
    first
    | exact absurd ha (by decide)
    | exact absurd hb (by decide)
    | simp [rank, isLE_then_compare, isGE_then_compare] <;> decide

theorem isNaN_of_le (h : a.le b = true) : a.isNaN = false ∧ b.isNaN = false := by
  constructor
  · cases a with
    | notANumber => exact absurd h (by simp [UnpackedFloat.le, UnpackedFloat.compare])
    | _ => rfl
  · cases b with
    | notANumber => exact absurd h (by cases a <;> simp [UnpackedFloat.le, UnpackedFloat.compare])
    | _ => rfl

end Order

theorem le_iff_unpack (a b : Float) : a ≤ b ↔ a.toModel.unpack.le b.toModel.unpack = true := by
  show Float.le a b = true ↔ _
  rw [Float.le, decide_eq_true_iff]
  exact Iff.rfl

/-- What is not at least as large as a number is not at least as large as what this is not at least
as large as. -/
theorem not_le_trans {a b c : Float} (number : b.isNaN = false) (h : ¬ a ≤ b) (h' : ¬ b ≤ c) :
    ¬ a ≤ c := by
  rw [le_iff_unpack] at *
  have hb : b.toModel.unpack.isNaN = false := number
  intro ac
  obtain ⟨ha, hc⟩ := isNaN_of_le ac
  rw [le_iff ha hb] at h
  rw [le_iff hb hc] at h'
  rw [le_iff ha hc] at ac
  have ba := (upto_or_upto _ _).resolve_left h
  exact h' (ba.trans ac)

end DeliveryRouting.Doubles
