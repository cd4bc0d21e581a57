import DeliveryRouting.Arithmetic
import Mathlib

/-! # Whole numbers as doubles

A whole number below `2 ^ 53` is a double, and so are sums and differences that stay below it: they
are exact. `whole n` is the sign, mantissa and exponent of the number `n`. Its mantissa is scaled to
53 bits, and so is what any computation with it is rounded to (`normalize_whole`), as nothing but
zeros is shifted out of it. `Exact` follows a number through a longer computation.

A number that is not exact is still the same after nothing has been added to it
(`ofInt_add_mul_zero`). -/

namespace DeliveryRouting.Doubles

open Float.Model Float.Model.UnpackedFloat

/-! ### Shifts that lose nothing -/

theorem log2_mul_two_pow {n : Nat} (hn : n ≠ 0) (k : Nat) : (n * 2 ^ k).log2 = n.log2 + k := by
  induction k with
  | zero => simp
  | succ k ih =>
    have hpos : n * 2 ^ k ≠ 0 := Nat.mul_ne_zero hn (Nat.two_pow_pos k).ne'
    rw [Nat.pow_succ, ← Nat.mul_assoc, Nat.mul_comm, Nat.log2_two_mul hpos, ih, Nat.add_assoc]

theorem shiftRight_exact (mantissa k : Nat) :
    (⟨mantissa * 2 ^ k, false, false⟩ : ExtendedMantissa) >>> k = ⟨mantissa, false, false⟩ := by
  induction k generalizing mantissa with
  | zero => rw [Nat.pow_zero, Nat.mul_one]; rfl
  | succ k ih =>
    have step : (⟨mantissa * 2 ^ (k + 1), false, false⟩ : ExtendedMantissa) >>> (k + 1) =
        ((⟨mantissa * 2 * 2 ^ k, false, false⟩ : ExtendedMantissa) >>> k).shiftRightOne := by
      rw [Nat.mul_assoc, ← Nat.pow_succ']
      rfl
    rw [step, ih]
    simp [ExtendedMantissa.shiftRightOne]

/-- A mantissa that fills its bits. -/
def scaled (n : Nat) : Nat := n * 2 ^ (52 - n.log2)

theorem scaled_pos {n : Nat} (hn : n ≠ 0) : 0 < scaled n :=
  Nat.mul_pos (Nat.pos_of_ne_zero hn) (Nat.two_pow_pos _)

theorem log2_le {n : Nat} (hn : n ≠ 0) (h : n < 2 ^ 53) : n.log2 ≤ 52 :=
  Nat.le_of_lt_succ ((Nat.log2_lt hn).mpr h)

theorem log2_scaled {n : Nat} (hn : n ≠ 0) (h : n < 2 ^ 53) : (scaled n).log2 = 52 := by
  rw [scaled, log2_mul_two_pow hn, Nat.add_sub_cancel' (log2_le hn h)]

/-- The sign of a number. -/
def signOf (n : Int) : Sign := if n < 0 then .negative else .positive

/-- A whole number as sign, mantissa and exponent. -/
def whole (n : Int) : UnpackedFloat :=
  if h : n.natAbs = 0 then .zero .positive
  else .finite (signOf n) (scaled n.natAbs) (n.natAbs.log2 - 52) (scaled_pos h)

/-- The exponent that leaves a mantissa its 53 bits. -/
theorem targetExponent_exact {n : Nat} (hn : n ≠ 0) (h : n < 2 ^ 53) (k : Nat) :
    Format.binary64.targetExponent (totalExponent (n * 2 ^ k) (-k)) = n.log2 - 52 := by
  have few := log2_le hn h
  have bits : (Format.binary64.mantissaBits : Int) = 53 := rfl
  have least : Format.binary64.minExponent = -1074 := rfl
  rw [totalExponent, log2_mul_two_pow hn, Format.targetExponent, bits, least]
  omega

theorem shiftToTargetExponent_exact {n k : Nat} (hn : n ≠ 0) (h : n < 2 ^ 53)
    (long : 52 - n.log2 ≤ k) : shiftToTargetExponent .binary64 (n * 2 ^ k) (-k) .exact =
      ((⟨scaled n, false, false⟩ : ExtendedMantissa), (n.log2 : Int) - 52) := by
  have few := log2_le hn h
  obtain ⟨zeros, rfl⟩ : ∃ zeros, k = 52 - n.log2 + zeros := ⟨_, (Nat.add_sub_cancel' long).symm⟩
  have amount : ((n.log2 : Int) - 52 - -((52 - n.log2 + zeros : Nat) : Int)).toNat = zeros := by
    omega
  have mantissa : n * 2 ^ (52 - n.log2 + zeros) = scaled n * 2 ^ zeros := by
    rw [scaled, Nat.pow_add, Nat.mul_assoc]
  rw [shiftToTargetExponent, targetExponent_exact hn h, shiftToExponent, amount, mantissa]
  refine Prod.ext (shiftRight_exact _ _) ?_
  show -((52 - n.log2 + zeros : Nat) : Int) + zeros = n.log2 - 52
  omega

theorem roundWithAccuracy_exact (sign : Sign) {n k : Nat} (hn : n ≠ 0) (h : n < 2 ^ 53)
    (long : 52 - n.log2 ≤ k) :
    roundWithAccuracy .binary64 sign (n * 2 ^ k) (-k) .exact =
      .finite sign (scaled n) (n.log2 - 52) (scaled_pos hn) := by
  have few := log2_le hn h
  have exponent : -((52 - n.log2 : Nat) : Int) = n.log2 - 52 := by omega
  have again := shiftToTargetExponent_exact hn h (Nat.le_refl _)
  rw [← scaled, exponent] at again
  simp only [roundWithAccuracy, shiftToTargetExponent_exact hn h long,
    ExtendedMantissa.roundedMantissa, ExtendedMantissa.accuracy, Accuracy.roundToNearestEven, again,
    dif_neg (scaled_pos hn).ne']

theorem round_exact (sign : Sign) {n : Nat} (hn : n ≠ 0) (h : n < 2 ^ 53) (k : Nat) :
    UnpackedFloat.round .binary64 sign (n * 2 ^ k) (-k) =
      .finite sign (scaled n) (n.log2 - 52) (scaled_pos hn) := by
  have few := log2_le hn h
  have amount : (-(k : Int) - (n.log2 - 52)).toNat = 52 - n.log2 - k := by omega
  have exponent : -(k : Int) - ((52 - n.log2 - k : Nat) : Int) =
      -((k + (52 - n.log2 - k) : Nat) : Int) := by omega
  rw [UnpackedFloat.round, targetExponent_exact hn h]
  simp only [decreaseExponent, amount, Nat.shiftLeft_eq, Nat.mul_assoc, ← Nat.pow_add, exponent]
  exact roundWithAccuracy_exact sign hn h (by omega)

/-- **A whole number is rounded to itself**, however many zeros its mantissa has. -/
theorem normalize_whole {n : Int} (h : n.natAbs < 2 ^ 53) (k : Nat) :
    UnpackedFloat.normalize .binary64 (n * (2 ^ k : Nat)) (-k) .positive = whole n := by
  have scale : (0 : Int) < (2 ^ k : Nat) := Int.natCast_pos.mpr (Nat.two_pow_pos k)
  have size : (n * (2 ^ k : Nat)).natAbs = n.natAbs * 2 ^ k := by
    rw [Int.natAbs_mul, Int.natAbs_natCast]
  rcases Int.lt_trichotomy n 0 with negative | rfl | positive
  · have below := Int.mul_neg_of_neg_of_pos negative scale
    have sign : compare (n * (2 ^ k : Nat)) 0 = .lt := compare_lt_iff_lt.mpr below
    have amount : (-(n * (2 ^ k : Nat))).toNat = n.natAbs * 2 ^ k := by
      omega
    have hn : n.natAbs ≠ 0 := by omega
    rw [UnpackedFloat.normalize, sign, whole, dif_neg hn, signOf, if_pos negative]
    simp only [amount]
    exact round_exact .negative hn h k
  · rw [Int.zero_mul]
    rfl
  · have above := Int.mul_pos positive scale
    have sign : compare (n * (2 ^ k : Nat)) 0 = .gt := compare_gt_iff_gt.mpr above
    have amount : (n * (2 ^ k : Nat)).toNat = n.natAbs * 2 ^ k := by
      omega
    have hn : n.natAbs ≠ 0 := by omega
    rw [UnpackedFloat.normalize, sign, whole, dif_neg hn, signOf, if_neg (by omega)]
    simp only [amount]
    exact round_exact .positive hn h k

/-! ### The bits of a double -/

theorem unpack_pack (u : UnpackedFloat) : (Float.Model.pack u).unpack =
    UnpackedFloat.unpack .binary64 (UnpackedFloat.pack .binary64 u) := rfl

theorem unpack_pack_zero (sign : Sign) :
    (Float.Model.pack (.zero sign)).unpack = .zero sign := by
  cases sign <;> rfl

section Finite

variable {sign : Sign} {mantissa : Nat} {exponent : Int} (hpos : 0 < mantissa)
  (full : mantissa.log2 = 52)
include full

theorem pack_finite {biased : Nat} (high : biased < 2047) :
    UnpackedFloat.pack .binary64 (.finite sign mantissa (biased - 1075) hpos) =
      packComponents .binary64 sign (BitVec.ofNat 11 biased) (BitVec.ofNat 52 mantissa) := by
  have exponent : ((biased : Int) - 1075 + (Format.binary64.exponentBias : Nat) +
      (Format.binary64.mantissaBitsWithoutImplicit : Nat)).toNat = biased := by
    show ((biased : Int) - 1075 + 1023 + 52).toNat = biased
    omega
  have inRange : ¬ 2 ^ Format.binary64.exponentBits ≤ biased + 1 := by
    show ¬ 2048 ≤ biased + 1
    omega
  have bits : mantissa.log2 + 1 = Format.binary64.mantissaBits := by rw [full]; rfl
  simp only [UnpackedFloat.pack]
  rw [exponent, if_neg inRange, if_pos bits]

theorem unpack_components {biased : Nat} (low : 0 < biased) (high : biased < 2047) :
    UnpackedFloat.unpack .binary64
        (packComponents .binary64 sign (BitVec.ofNat 11 biased) (BitVec.ofNat 52 mantissa)) =
      .finite sign mantissa (biased - 1075) hpos := by
  have notLast : BitVec.ofNat Format.binary64.exponentBits biased ≠ -1#11 := by
    intro h
    have value := congrArg BitVec.toNat h
    simp at value
    omega
  have notZero : BitVec.ofNat Format.binary64.exponentBits biased ≠ 0#11 := by
    intro h
    have value := congrArg BitVec.toNat h
    simp at value
    omega
  have least : 2 ^ 52 ≤ mantissa := full ▸ Nat.log2_self_le hpos.ne'
  have most : mantissa < 2 ^ 53 := (Nat.log2_lt hpos.ne').mp (by omega)
  -- the leading bit is not stored
  have leading : (1#1 ++ BitVec.ofNat 52 mantissa).toNat = mantissa := by
    rw [BitVec.toNat_append]
    show 1 <<< 52 ||| (mantissa % 2 ^ 52) = mantissa
    rw [← Nat.shiftLeft_add_eq_or_of_lt (by omega)]
    omega
  have unbiased : ((BitVec.ofNat 11 biased).toNat : Int) - (1023 + 52) = biased - 1075 := by
    rw [BitVec.toNat_ofNat]
    omega
  simp only [UnpackedFloat.unpack, unpackExponent_packComponents, unpackMantissa_packComponents,
    unpackSign_packComponents, Sign.ofBitVec_toBitVec]
  rw [if_neg notLast, if_neg notZero]
  simp only [finite.injEq]
  exact ⟨trivial, leading, unbiased⟩

theorem unpack_pack_finite (low : -1074 ≤ exponent) (high : exponent ≤ 971) :
    (Float.Model.pack (.finite sign mantissa exponent hpos)).unpack =
      .finite sign mantissa exponent hpos := by
  obtain ⟨biased, rfl⟩ : ∃ biased : Nat, exponent = biased - 1075 :=
    ⟨(exponent + 1075).toNat, by omega⟩
  rw [unpack_pack, pack_finite hpos full (by omega),
    unpack_components hpos full (by omega) (by omega)]

end Finite

/-! ### Doubles of whole numbers -/

/-- The double of a whole number. -/
def ofWhole (n : Int) : Float := ⟨.pack (whole n)⟩

theorem whole_of_ne {n : Int} (hn : n.natAbs ≠ 0) : whole n =
    .finite (signOf n) (scaled n.natAbs) (n.natAbs.log2 - 52) (scaled_pos hn) := dif_neg hn

section Exact

variable {a b n : Int}

theorem unpack_ofWhole (h : n.natAbs < 2 ^ 53) : (ofWhole n).toModel.unpack = whole n := by
  show (Float.Model.pack (whole n)).unpack = whole n
  by_cases hn : n.natAbs = 0
  · rw [whole, dif_pos hn, unpack_pack_zero]
  · have few := log2_le hn h
    rw [whole_of_ne hn, unpack_pack_finite _ (log2_scaled hn h) (by omega) (by omega)]

theorem shiftLeft_scaled {n k : Nat} (few : n.log2 ≤ 52) (long : 52 - n.log2 ≤ k) :
    scaled n <<< ((n.log2 : Int) - 52 - -(k : Int)).toNat = n * 2 ^ k := by
  have amount : ((n.log2 : Int) - 52 - -(k : Int)).toNat = k - (52 - n.log2) := by omega
  rw [amount, Nat.shiftLeft_eq, scaled, Nat.mul_assoc, ← Nat.pow_add, Nat.add_sub_cancel' long]

theorem apply_signOf (n : Int) (k : Nat) :
    (signOf n).apply ((n.natAbs * k : Nat) : Int) = n * k := by
  rw [Int.natCast_mul]
  by_cases h : n < 0
  · rw [signOf, if_pos h, Sign.apply, ← Int.neg_mul]
    congr 1
    omega
  · rw [signOf, if_neg h, Sign.apply]
    congr 1
    omega

theorem exists_scale (hza : a.natAbs ≠ 0) (ha : a.natAbs < 2 ^ 53) (hzb : b.natAbs ≠ 0)
    (hb : b.natAbs < 2 ^ 53) : ∃ k : Nat,
    min ((a.natAbs.log2 : Int) - 52) (b.natAbs.log2 - 52) = -k ∧
    (signOf a).apply (scaled a.natAbs <<< ((a.natAbs.log2 : Int) - 52 - -(k : Int)).toNat : Nat) =
      a * (2 ^ k : Nat) ∧
    (signOf b).apply (scaled b.natAbs <<< ((b.natAbs.log2 : Int) - 52 - -(k : Int)).toNat : Nat) =
      b * (2 ^ k : Nat) := by
  have fewa := log2_le hza ha
  have fewb := log2_le hzb hb
  refine ⟨52 - min a.natAbs.log2 b.natAbs.log2, by omega, ?_, ?_⟩
  · rw [shiftLeft_scaled fewa (by omega), apply_signOf]
  · rw [shiftLeft_scaled fewb (by omega), apply_signOf]

theorem whole_zero : whole 0 = .zero .positive := rfl

theorem neg_whole (hn : n.natAbs ≠ 0) : (whole n).neg = whole (-n) := by
  have sign : -signOf n = signOf (-n) := by
    by_cases h : n < 0
    · rw [signOf, signOf, if_pos h, if_neg (by omega)]
      rfl
    · rw [signOf, signOf, if_neg h, if_pos (by omega)]
      rfl
  have hneg : (-n).natAbs ≠ 0 := by omega
  rw [whole_of_ne hn, whole_of_ne hneg, UnpackedFloat.neg, sign]
  simp only [Int.natAbs_neg]

theorem add_whole (ha : a.natAbs < 2 ^ 53) (hb : b.natAbs < 2 ^ 53)
    (hab : (a + b).natAbs < 2 ^ 53) :
    UnpackedFloat.add .binary64 (whole a) (whole b) = whole (a + b) := by
  by_cases hza : a.natAbs = 0
  · obtain rfl := Int.natAbs_eq_zero.mp hza
    rw [Int.zero_add, whole_zero]
    by_cases hzb : b.natAbs = 0
    · obtain rfl := Int.natAbs_eq_zero.mp hzb
      rfl
    · rw [whole_of_ne hzb]
      rfl
  by_cases hzb : b.natAbs = 0
  · obtain rfl := Int.natAbs_eq_zero.mp hzb
    rw [Int.add_zero, whole_zero, whole_of_ne hza]
    rfl
  obtain ⟨k, exponent, scaleda, scaledb⟩ := exists_scale hza ha hzb hb
  rw [whole_of_ne hza, whole_of_ne hzb]
  simp only [UnpackedFloat.add, decreaseExponent, exponent, scaleda, scaledb]
  rw [← Int.add_mul, normalize_whole hab]

theorem sub_whole (ha : a.natAbs < 2 ^ 53) (hb : b.natAbs < 2 ^ 53)
    (hab : (a - b).natAbs < 2 ^ 53) :
    UnpackedFloat.sub .binary64 (whole a) (whole b) = whole (a - b) := by
  by_cases hza : a.natAbs = 0
  · obtain rfl := Int.natAbs_eq_zero.mp hza
    rw [Int.zero_sub, whole_zero]
    by_cases hzb : b.natAbs = 0
    · obtain rfl := Int.natAbs_eq_zero.mp hzb
      rfl
    · rw [← neg_whole hzb, whole_of_ne hzb]
      rfl
  by_cases hzb : b.natAbs = 0
  · obtain rfl := Int.natAbs_eq_zero.mp hzb
    rw [Int.sub_zero, whole_zero, whole_of_ne hza]
    rfl
  obtain ⟨k, exponent, scaleda, scaledb⟩ := exists_scale hza ha hzb hb
  rw [whole_of_ne hza, whole_of_ne hzb]
  simp only [UnpackedFloat.sub, decreaseExponent, exponent, scaleda, scaledb]
  rw [← Int.sub_mul, normalize_whole hab]

/-- **Sums below `2 ^ 53` are exact.** -/
theorem ofWhole_add (ha : a.natAbs < 2 ^ 53) (hb : b.natAbs < 2 ^ 53)
    (hab : (a + b).natAbs < 2 ^ 53) : ofWhole a + ofWhole b = ofWhole (a + b) := by
  show (⟨.pack (UnpackedFloat.add .binary64 (ofWhole a).toModel.unpack
    (ofWhole b).toModel.unpack)⟩ : Float) = _
  rw [unpack_ofWhole ha, unpack_ofWhole hb, add_whole ha hb hab]
  rfl

/-- **Differences below `2 ^ 53` are exact.** -/
theorem ofWhole_sub (ha : a.natAbs < 2 ^ 53) (hb : b.natAbs < 2 ^ 53)
    (hab : (a - b).natAbs < 2 ^ 53) : ofWhole a - ofWhole b = ofWhole (a - b) := by
  show (⟨.pack (UnpackedFloat.sub .binary64 (ofWhole a).toModel.unpack
    (ofWhole b).toModel.unpack)⟩ : Float) = _
  rw [unpack_ofWhole ha, unpack_ofWhole hb, sub_whole ha hb hab]
  rfl

/-- The double of one, by which a natural number is multiplied when it is read. -/
def one : UnpackedFloat := .finite .positive (2 ^ 52) (-52) (Nat.two_pow_pos 52)

theorem mul_one {n : Nat} (h : n < 2 ^ 53) : UnpackedFloat.mul .binary64 (whole n) one = whole n := by
  by_cases hn : n = 0
  · subst hn
    rfl
  have few := log2_le hn h
  have sign : signOf n * .positive = signOf n := by
    rw [signOf, if_neg (by omega)]
    rfl
  have mantissa : scaled n * 2 ^ 52 = n * 2 ^ (52 - n.log2 + 52) := by
    rw [scaled, Nat.mul_assoc, ← Nat.pow_add]
  have exponent : (n.log2 : Int) - 52 + -52 = -((52 - n.log2 + 52 : Nat) : Int) := by omega
  rw [whole_of_ne (n := n) hn, one]
  simp only [UnpackedFloat.mul, Int.natAbs_natCast, sign, mantissa, exponent]
  exact roundWithAccuracy_exact _ hn h (by omega)

theorem ofNat_eq {n : Nat} (h : n < 2 ^ 53) : Float.ofNat n = ofWhole n := by
  have hone : (Float.ofBits 4607182418800017408).toModel.unpack = one := rfl
  have read : Float.ofNat n = n.toUInt64.toFloat * Float.ofBits 4607182418800017408 := by
    show Float.ofScientific n false 0 = _
    rw [Float.ofScientific, dif_pos ⟨h, by decide⟩]
    rfl
  have small : n.toUInt64.toNat = n := by
    simp
    omega
  have exact := normalize_whole (n := (n : Int)) h 0
  have first : n.toUInt64.toFloat = ofWhole n := by
    show (⟨.pack (UnpackedFloat.normalize .binary64 n.toUInt64.toNat 0 .positive)⟩ : Float) = _
    rw [small, ofWhole, ← exact]
    simp
  rw [read, first]
  show (⟨.pack (UnpackedFloat.mul .binary64 (ofWhole n).toModel.unpack
    (Float.ofBits 4607182418800017408).toModel.unpack)⟩ : Float) = _
  rw [unpack_ofWhole (n := (n : Int)) h, hone, mul_one h]
  rfl

theorem ofInt_eq (h : n.natAbs < 2 ^ 53) : Float.ofInt n = ofWhole n := by
  cases n with
  | ofNat n => exact ofNat_eq h
  | negSucc n =>
    show (⟨.pack (Float.ofNat n.succ).toModel.unpack.neg⟩ : Float) = _
    have h : n.succ < 2 ^ 53 := h
    rw [ofNat_eq h, unpack_ofWhole (n := (n.succ : Int)) h, neg_whole (by omega)]
    rfl

end Exact

/-! ### Sums -/

/-- A computation in doubles gives the number `n`, whose size is at most `size`, as long as `size`
is below `2 ^ 53`. -/
structure Exact (x : Float) (n : Int) (size : Nat) : Prop where
  bound : n.natAbs ≤ size
  eq_ofWhole : size < 2 ^ 53 → x = ofWhole n

namespace Exact

variable {x y : Float} {a b n : Int} {k l size : Nat}

theorem eq_ofInt (h : Exact x n size) (small : size < 2 ^ 53) : x = Float.ofInt n := by
  have := h.bound
  rw [h.eq_ofWhole small, ofInt_eq (by omega)]

theorem zero : Exact 0.0 0 0 := ⟨Nat.le_refl _, fun _ => rfl⟩

theorem ofInt (n : Int) : Exact (Float.ofInt n) n n.natAbs := ⟨Nat.le_refl _, ofInt_eq⟩

theorem add (hx : Exact x a k) (hy : Exact y b l) : Exact (x + y) (a + b) (k + l) := by
  have ha := hx.bound
  have hb := hy.bound
  refine ⟨by omega, fun small => ?_⟩
  rw [hx.eq_ofWhole (by omega), hy.eq_ofWhole (by omega), ofWhole_add] <;> omega

theorem sub (hx : Exact x a k) (hy : Exact y b l) : Exact (x - y) (a - b) (k + l) := by
  have ha := hx.bound
  have hb := hy.bound
  refine ⟨by omega, fun small => ?_⟩
  rw [hx.eq_ofWhole (by omega), hy.eq_ofWhole (by omega), ofWhole_sub] <;> omega

theorem foldl {α : Type} {term : α → Float} {value : α → Int} {sizes : α → Nat}
    (terms : ∀ i, Exact (term i) (value i) (sizes i)) (hx : Exact x a k) (is : List α) :
    Exact (is.foldl (fun sum i => sum + term i) x) (is.foldl (fun sum i => sum + value i) a)
      (is.foldl (fun sum i => sum + sizes i) k) := by
  induction is generalizing x a k with
  | nil => exact hx
  | cons i is ih => exact ih (hx.add (terms i))

end Exact

/-! ### Nothing is added -/

/-- A number other than zero whose mantissa fills its bits, however large its exponent is. -/
def Full (u : UnpackedFloat) : Prop :=
  ∃ sign mantissa exponent, ∃ hpos : 0 < mantissa,
    u = .finite sign mantissa exponent hpos ∧ mantissa.log2 = 52 ∧ -1074 ≤ exponent

theorem mantissa_shiftRight (em : ExtendedMantissa) (k : Nat) :
    (em >>> k).mantissa = em.mantissa / 2 ^ k := by
  induction k with
  | zero => rw [Nat.pow_zero, Nat.div_one]; rfl
  | succ k ih =>
    show (em >>> k).mantissa / 2 = _
    rw [ih, Nat.div_div_eq_div_mul, ← Nat.pow_succ]

theorem le_roundedMantissa (em : ExtendedMantissa) : em.mantissa ≤ em.roundedMantissa := by
  unfold ExtendedMantissa.roundedMantissa Accuracy.roundToNearestEven
  split <;> omega

theorem log2_shiftToTargetExponent {mantissa : Nat} {exponent : Int}
    (long : 52 ≤ mantissa.log2) (low : -1074 ≤ exponent) :
    (shiftToTargetExponent .binary64 mantissa exponent .exact).1.mantissa.log2 = 52 ∧
      -1074 ≤ (shiftToTargetExponent .binary64 mantissa exponent .exact).2 := by
  have hm : mantissa ≠ 0 := by
    rintro rfl
    simp at long
  have target : Format.binary64.targetExponent (totalExponent mantissa exponent) =
      mantissa.log2 - 52 + exponent := by
    have bits : (Format.binary64.mantissaBits : Int) = 53 := rfl
    have least : Format.binary64.minExponent = -1074 := rfl
    rw [totalExponent, Format.targetExponent, bits, least]
    omega
  have amount : ((mantissa.log2 : Int) - 52 + exponent - exponent).toNat = mantissa.log2 - 52 := by
    omega
  rw [shiftToTargetExponent, target, shiftToExponent, amount]
  refine ⟨?_, ?_⟩
  · have pow : 2 ^ 52 * 2 ^ (mantissa.log2 - 52) = 2 ^ mantissa.log2 := by
      rw [← Nat.pow_add, Nat.add_sub_cancel' long]
    have least := Nat.log2_self_le hm
    have most := Nat.lt_log2_self (n := mantissa)
    have scale := Nat.two_pow_pos (mantissa.log2 - 52)
    have cut : 2 ^ 52 ≤ mantissa / 2 ^ (mantissa.log2 - 52) ∧
        mantissa / 2 ^ (mantissa.log2 - 52) < 2 ^ 53 := by
      refine ⟨(Nat.le_div_iff_mul_le scale).mpr (by omega), (Nat.div_lt_iff_lt_mul scale).mpr ?_⟩
      rw [Nat.pow_succ] at most
      omega
    have hcut : mantissa / 2 ^ (mantissa.log2 - 52) ≠ 0 := by omega
    rw [mantissa_shiftRight]
    exact (Nat.log2_eq_iff hcut).mpr cut
  · show -1074 ≤ exponent + ((mantissa.log2 - 52 : Nat) : Int)
    omega

theorem full_roundWithAccuracy (sign : Sign) {mantissa : Nat} {exponent : Int}
    (long : 52 ≤ mantissa.log2) (low : -1074 ≤ exponent) :
    Full (roundWithAccuracy .binary64 sign mantissa exponent .exact) := by
  obtain ⟨bits, low'⟩ := log2_shiftToTargetExponent long low
  simp only [roundWithAccuracy]
  generalize shiftToTargetExponent .binary64 mantissa exponent .exact = cut at bits low' ⊢
  have hcut : cut.1.mantissa ≠ 0 := by
    intro h
    rw [h] at bits
    simp at bits
  have least : 2 ^ 52 ≤ cut.1.roundedMantissa :=
    Nat.le_trans ((Nat.le_log2 hcut).mp bits.ge) (le_roundedMantissa cut.1)
  have long' : 52 ≤ cut.1.roundedMantissa.log2 := (Nat.le_log2 (by omega)).mpr least
  obtain ⟨bits', low''⟩ := log2_shiftToTargetExponent long' low'
  have hne : (shiftToTargetExponent .binary64 cut.1.roundedMantissa cut.2 .exact).1.mantissa ≠ 0 := by
    intro h
    rw [h] at bits'
    simp at bits'
  rw [dif_neg hne]
  exact ⟨_, _, _, _, rfl, bits', low''⟩

theorem full_whole {n : Int} (hn : n.natAbs ≠ 0) (h : n.natAbs < 2 ^ 53) : Full (whole n) := by
  rw [whole_of_ne hn]
  exact ⟨_, _, _, _, rfl, log2_scaled hn h, by omega⟩

section Overflow

variable {sign : Sign} {mantissa : Nat} {exponent : Int} (hpos : 0 < mantissa)
  (high : 971 < exponent)
include high

theorem pack_overflow : Float.Model.pack (.finite sign mantissa exponent hpos) =
    Float.Model.pack (.infinity sign) := by
  have same : UnpackedFloat.pack .binary64 (.finite sign mantissa exponent hpos) =
      UnpackedFloat.pack .binary64 (.infinity sign) := by
    simp only [UnpackedFloat.pack]
    rw [if_pos]
    show 2048 ≤ (exponent + 1023 + 52).toNat + 1
    omega
  simp only [Float.Model.pack, same]

theorem unpack_pack_overflow : (Float.Model.pack (.finite sign mantissa exponent hpos)).unpack =
    .infinity sign := by
  rw [pack_overflow hpos high]
  cases sign <;> rfl

end Overflow

/-- The opposite of a full number is one, also beyond the largest double. -/
theorem exists_full_neg {u : UnpackedFloat} (hu : Full u) :
    ∃ v, Full v ∧ Float.Model.pack (Float.Model.pack u).unpack.neg = Float.Model.pack v := by
  obtain ⟨sign, mantissa, exponent, hpos, rfl, bits, low⟩ := hu
  refine ⟨.finite (-sign) mantissa exponent hpos, ⟨_, _, _, _, rfl, bits, low⟩, ?_⟩
  by_cases high : exponent ≤ 971
  · rw [unpack_pack_finite hpos bits low high]
    rfl
  · rw [unpack_pack_overflow hpos (by omega), pack_overflow hpos (by omega)]
    rfl

theorem exists_full_ofNat {n : Nat} (hn : n ≠ 0) : ∃ u, Full u ∧ Float.ofNat n = ⟨.pack u⟩ := by
  by_cases h : n < 2 ^ 53
  · exact ⟨whole n, full_whole hn h, ofNat_eq h⟩
  refine ⟨roundWithAccuracy .binary64 (.positive * .positive) (n <<< 53 * 10 ^ 0) (-53 + 0) .exact,
    full_roundWithAccuracy _ ?_ (by omega), ?_⟩
  · rw [Nat.pow_zero, Nat.mul_one, Nat.shiftLeft_eq, log2_mul_two_pow hn]
    omega
  · show Float.ofScientific n false 0 = _
    rw [Float.ofScientific, dif_neg (by omega)]
    show (⟨.pack (UnpackedFloat.ofScientific .binary64 n 0)⟩ : Float) = _
    rw [UnpackedFloat.ofScientific, dif_neg hn, if_neg (by decide), if_neg, if_pos (by decide)]
    · rfl
    · show ¬ (0 : Int) < -(2048 + n.log2)
      omega

theorem exists_full_ofInt {n : Int} (hn : n ≠ 0) : ∃ u, Full u ∧ Float.ofInt n = ⟨.pack u⟩ := by
  cases n with
  | ofNat n => exact exists_full_ofNat fun h => hn (congrArg Int.ofNat h)
  | negSucc n =>
    obtain ⟨u, hu, read⟩ := exists_full_ofNat (Nat.succ_ne_zero n)
    obtain ⟨v, hv, opposite⟩ := exists_full_neg hu
    refine ⟨v, hv, ?_⟩
    show (⟨.pack (Float.ofNat n.succ).toModel.unpack.neg⟩ : Float) = _
    rw [read, ← opposite]

theorem exists_mul_zero {x : Float} (finite : x.isFinite = true) :
    ∃ sign, (x * Float.ofNat 0).toModel.unpack = .zero sign := by
  have product : (x * Float.ofNat 0).toModel.unpack =
      (Float.Model.pack (UnpackedFloat.mul .binary64 x.toModel.unpack (.zero .positive))).unpack :=
    rfl
  have hfinite : x.toModel.unpack.isFinite = true := finite
  rw [product]
  cases h : x.toModel.unpack with
  | notANumber => rw [h] at hfinite; cases hfinite
  | infinity sign => rw [h] at hfinite; cases hfinite
  | zero sign => exact ⟨_, unpack_pack_zero _⟩
  | finite sign mantissa exponent hpos => exact ⟨_, unpack_pack_zero _⟩

/-- **Nothing is added to a whole number by a finite number of times zero.** -/
theorem ofInt_add_mul_zero {x : Float} (finite : x.isFinite = true) (n : Int) :
    Float.ofInt n + x * Float.ofNat 0 = Float.ofInt n := by
  obtain ⟨sign, hzero⟩ := exists_mul_zero finite
  show (⟨.pack (UnpackedFloat.add .binary64 (Float.ofInt n).toModel.unpack
    (x * Float.ofNat 0).toModel.unpack)⟩ : Float) = _
  rw [hzero]
  by_cases hn : n = 0
  · subst hn
    cases sign <;> rfl
  obtain ⟨u, ⟨sign', mantissa, exponent, hpos, rfl, bits, low⟩, read⟩ := exists_full_ofInt hn
  rw [read]
  by_cases high : exponent ≤ 971
  · show (⟨.pack (UnpackedFloat.add .binary64 (Float.Model.pack _).unpack _)⟩ : Float) = _
    rw [unpack_pack_finite hpos bits low high]
    rfl
  · show (⟨.pack (UnpackedFloat.add .binary64 (Float.Model.pack _).unpack _)⟩ : Float) = _
    rw [unpack_pack_overflow hpos (by omega), pack_overflow hpos (by omega)]
    rfl

end DeliveryRouting.Doubles
