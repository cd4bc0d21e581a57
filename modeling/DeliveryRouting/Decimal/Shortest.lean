import DeliveryRouting.Arithmetic

/-! # Decimals: the fewest digits that identify a binary value

A positive finite double is `m · 2 ^ q`. The reals that round to it form an interval that reaches
half way to either neighbour, its ends included when `m` is even. Of the decimals in this interval
those with the fewest digits are looked for, on coarser grids first, and of two on the same grid
the closer one is taken. All comparisons are exact, between natural numbers. -/

namespace DeliveryRouting.Decimal

/-- A positive value `m · 2 ^ q`. -/
structure Binary where
  m : Nat
  q : Int
  /-- the gap to the neighbour below is half of the gap to the one above -/
  narrowBelow : Bool

/-- A value `digits · 10 ^ exponent`. -/
structure Dec where
  digits : Nat
  exponent : Int
  deriving Repr, DecidableEq, Inhabited

/-- Which of two equally close decimals is taken. -/
inductive Tie where
  | even
  | up
  deriving Repr, DecidableEq

/-- The value that the lower 63 bits of a finite double stand for. -/
def Binary.ofBits (bits : UInt64) : Binary :=
  let exponent := ((bits >>> 52) &&& 0x7FF).toNat
  let fraction := (bits &&& 0xFFFFFFFFFFFFF).toNat
  if exponent = 0 then ⟨fraction, -1074, false⟩
  else ⟨0x10000000000000 + fraction, (exponent : Int) - 1075, fraction == 0 && exponent > 1⟩

/-- How `a · 10 ^ i` compares with `n · 2 ^ j`. -/
def compareScaled (a : Nat) (i : Int) (n : Nat) (j : Int) : Ordering :=
  compare (a * 10 ^ i.toNat * 2 ^ (-j).toNat) (n * 2 ^ j.toNat * 10 ^ (-i).toNat)

/-- The decimal lies among the reals that round to `x`. -/
def Binary.readsBack (x : Binary) (d : Dec) : Bool :=
  let low := if x.narrowBelow then 4 * x.m - 1 else 4 * x.m - 2
  let fromLow := compareScaled d.digits d.exponent low (x.q - 2)
  let fromHigh := compareScaled d.digits d.exponent (4 * x.m + 2) (x.q - 2)
  let ends := x.m % 2 == 0
  (fromLow == .gt || (ends && fromLow == .eq)) && (fromHigh == .lt || (ends && fromHigh == .eq))

/-- The greatest multiple of `10 ^ p` up to `x`, in units of `10 ^ p`. -/
def Binary.floorOn (x : Binary) (p : Int) : Nat :=
  (x.m * 2 ^ x.q.toNat * 10 ^ (-p).toNat) / (2 ^ (-x.q).toNat * 10 ^ p.toNat)

/-- The least `k` with `x < 10 ^ k`, which an estimate by the binary logarithm misses by two at
most. -/
def Binary.magnitude (x : Binary) : Int :=
  let estimate := (((Nat.log2 x.m : Int) + x.q) * 30103) / 100000
  let fits := fun k => compareScaled 1 k x.m x.q == .gt
  if fits estimate then estimate else if fits (estimate + 1) then estimate + 1 else estimate + 2

/-- Of the two neighbours of `x` on the grid of `10 ^ p` that round to it the closer one. -/
def Binary.nearestOn (tie : Tie) (x : Binary) (p : Int) : Option Dec :=
  let below := x.floorOn p
  let lower : Dec := ⟨below, p⟩
  let upper : Dec := ⟨below + 1, p⟩
  match x.readsBack lower, x.readsBack upper with
  | true, true =>
    match compareScaled (2 * below + 1) p (2 * x.m) x.q with
    | .lt => some upper
    | .gt => some lower
    | .eq => if tie = .even ∧ below % 2 = 0 then some lower else some upper
  | true, false => some lower
  | false, true => some upper
  | false, false => none

/-- The digits without trailing zeros, at most `steps` of them. -/
def Dec.strip : (steps : Nat) → Dec → Dec
  | 0, d => d
  | steps + 1, d =>
    if d.digits ≠ 0 ∧ d.digits % 10 = 0 then Dec.strip steps ⟨d.digits / 10, d.exponent + 1⟩ else d

/-- The decimal with the fewest digits that rounds to `x`; if seventeen did not suffice, the exact
value. -/
def Binary.shortest (tie : Tie) (x : Binary) : Dec :=
  let k := x.magnitude
  let found := (List.range 17).findSome? fun n => x.nearestOn tie (k - (n + 1 : Nat))
  (found.getD ⟨x.m * 2 ^ x.q.toNat * 5 ^ (-x.q).toNat, -((-x.q).toNat : Int)⟩).strip 800

end DeliveryRouting.Decimal
