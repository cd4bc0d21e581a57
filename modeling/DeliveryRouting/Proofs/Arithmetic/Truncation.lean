import DeliveryRouting.Proofs.Arithmetic.Doubles
import DeliveryRouting.Travel.GreatCircle

/-! # Doubles cut to whole numbers

A finite double stands for a rational number (`value?`). Cut to a whole one, it loses what comes
after the point: it moves towards zero (`towardZero`). What is then too large for a signed word of
64 bits becomes the last number on that side (`saturated`). The two infinite doubles have no value
and become the two last numbers, and what is no number becomes zero. `CutTo` says all of this, and
whole seconds are cut in this way (`cutTo_wholeSeconds`). -/

namespace DeliveryRouting.Doubles

open Float.Model Float.Model.UnpackedFloat

/-- The number that a finite double stands for. -/
def value? (x : Float) : Option ℚ :=
  match x.toModel.unpack with
  | .zero _ => some 0
  | .finite sign mantissa exponent _ => some (sign.apply mantissa * 2 ^ exponent)
  | .infinity _ => none
  | .notANumber => none

/-- The number without what comes after the point. -/
def towardZero (q : ℚ) : ℤ := if 0 ≤ q then ⌊q⌋ else ⌈q⌉

/-- The closest number that a signed word of 64 bits holds. -/
def saturated (n : ℤ) : ℤ := max (-0x8000000000000000) (min n 0x7FFFFFFFFFFFFFFF)

/-- The double is cut to the whole number. -/
structure CutTo (x : Float) (n : ℤ) : Prop where
  finite : ∀ q, value? x = some q → n = saturated (towardZero q)
  above : x.toModel.unpack = .infinity .positive → n = 0x7FFFFFFFFFFFFFFF
  below : x.toModel.unpack = .infinity .negative → n = -0x8000000000000000
  noNumber : x.toModel.unpack = .notANumber → n = 0

/-! ### Mantissas without what comes after the point -/

theorem floor_mantissa (mantissa : ℕ) (exponent : ℤ) :
    ⌊(mantissa : ℚ) * 2 ^ exponent⌋ =
      (mantissa * 2 ^ exponent.toNat / 2 ^ (-exponent).toNat : ℕ) := by
  rcases Int.le_total 0 exponent with up | down
  · obtain ⟨k, rfl⟩ := Int.eq_ofNat_of_zero_le up
    have whole : (mantissa : ℚ) * 2 ^ (k : ℤ) = (mantissa * 2 ^ k : ℕ) := by
      push_cast
      rw [zpow_natCast]
    have none : (-(k : ℤ)).toNat = 0 := by omega
    rw [whole, Int.floor_natCast, none, Nat.pow_zero, Nat.div_one, Int.toNat_natCast]
  · obtain ⟨k, hk⟩ := Int.eq_ofNat_of_zero_le (Int.neg_nonneg.mpr down)
    obtain rfl : exponent = -k := by omega
    have quotient : (mantissa : ℚ) * 2 ^ (-(k : ℤ)) = (mantissa : ℚ) / (2 ^ k : ℕ) := by
      push_cast
      rw [zpow_neg, zpow_natCast, div_eq_mul_inv]
    have none : (-(k : ℤ)).toNat = 0 := by omega
    rw [quotient, Rat.floor_natCast_div_natCast, none, Nat.pow_zero, Nat.mul_one, Int.neg_neg,
      Int.toNat_natCast]
    rfl

theorem roundToInt_eq (sign : Sign) {mantissa : ℕ} (hpos : 0 < mantissa) (exponent : ℤ) :
    roundToInt sign mantissa exponent = towardZero (sign.apply mantissa * 2 ^ exponent) := by
  have cut : roundToInt sign mantissa exponent =
      sign.apply (mantissa * 2 ^ exponent.toNat / 2 ^ (-exponent).toNat : ℕ) := by
    have amount : (0 - (exponent - ((exponent - 0).toNat : ℤ))).toNat = (-exponent).toNat := by
      omega
    simp only [roundToInt, decreaseExponent, shiftToExponent, amount, mantissa_shiftRight]
    simp only [ExtendedMantissa.ofMantissaAndAccuracy, Nat.shiftLeft_eq, Int.sub_zero]
  rw [cut, ← floor_mantissa]
  have above : (0 : ℚ) < mantissa * 2 ^ exponent := by positivity
  cases sign with
  | positive =>
    have same : ((Sign.positive.apply mantissa : ℤ) : ℚ) * 2 ^ exponent =
        mantissa * 2 ^ exponent := by
      rw [Sign.apply, Int.cast_natCast]
    rw [same, towardZero, if_pos above.le]
    rfl
  | negative =>
    have opposite : ((Sign.negative.apply mantissa : ℤ) : ℚ) * 2 ^ exponent =
        -(mantissa * 2 ^ exponent) := by
      rw [Sign.apply, Int.cast_neg, Int.cast_natCast, neg_mul]
    rw [opposite, towardZero, if_neg (by linarith), Int.ceil_neg]
    rfl

theorem toInt_ofIntClamp_eq (n : ℤ) : (Int64.ofIntClamp n).toInt = saturated n := by
  have least : Int64.minValue.toInt = -0x8000000000000000 := rfl
  have most : Int64.maxValue.toInt = 0x7FFFFFFFFFFFFFFF := rfl
  unfold Int64.ofIntClamp saturated
  split
  · split
    · rw [Int64.toInt_ofIntLE]
      omega
    · omega
  · omega

theorem cutTo_wholeSeconds (x : Float) : CutTo x (GreatCircle.wholeSeconds x) := by
  have cut : GreatCircle.wholeSeconds x =
      saturated (x.toModel.unpack.toInt (-0x8000000000000000) 0x7FFFFFFFFFFFFFFF) :=
    toInt_ofIntClamp_eq _
  rw [cut]
  constructor
  case finite =>
    intro q hq
    unfold value? at hq
    cases h : x.toModel.unpack with
    | zero sign =>
      rw [h] at hq
      obtain rfl := Option.some.inj hq
      rw [towardZero, if_pos le_rfl, Int.floor_zero]
      rfl
    | finite sign mantissa exponent hpos =>
      rw [h] at hq
      obtain rfl := Option.some.inj hq
      exact congrArg saturated (roundToInt_eq sign hpos exponent)
    | infinity sign =>
      rw [h] at hq
      cases hq
    | notANumber =>
      rw [h] at hq
      cases hq
  case above => intro h; rw [h]; rfl
  case below => intro h; rw [h]; rfl
  case noNumber => intro h; rw [h]; rfl

end DeliveryRouting.Doubles
