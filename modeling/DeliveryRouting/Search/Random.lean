/-! # Search: random orders

The order in which the search looks at its neighbourhoods is drawn from a generator of 64-bit words
with four words of state (xoshiro256++), which a seed fills by the SplitMix64 sequence. An order of
up to twelve things is drawn from one number below 12 factorial, whose mixed-radix digits are the
exchanges to make. The order that was left by the last draw is where the next one starts. -/

namespace DeliveryRouting

/-- The state of a generator of 64-bit words. -/
structure Random where
  a : UInt64
  b : UInt64
  c : UInt64
  d : UInt64
  deriving Repr, DecidableEq, Inhabited

namespace Random

/-- The bits of `x` moved `k` places up, those that leave at the top entering at the bottom. -/
def rotateLeft (x : UInt64) (k : UInt64) : UInt64 := (x <<< k) ||| (x >>> (64 - k))

/-- Distance between two states of the sequence that fills the generator. -/
def seedStep : UInt64 := 0x9e3779b97f4a7c15

/-- The word that a state of that sequence stands for. -/
def mix (x : UInt64) : UInt64 :=
  let z := (x ^^^ (x >>> 30)) * 0xbf58476d1ce4e5b9
  let z := (z ^^^ (z >>> 27)) * 0x94d049bb133111eb
  z ^^^ (z >>> 31)

/-- The generator that a seed starts. -/
def ofSeed (seed : UInt64) : Random where
  a := mix (seed + seedStep)
  b := mix (seed + 2 * seedStep)
  c := mix (seed + 3 * seedStep)
  d := mix (seed + 4 * seedStep)

/-- The next word and the state after it. -/
def next (r : Random) : UInt64 × Random :=
  let word := rotateLeft (r.a + r.d) 23 + r.a
  let c := r.c ^^^ r.a
  let d := r.d ^^^ r.b
  (word, ⟨r.a ^^^ d, r.b ^^^ c, c ^^^ (r.b <<< 17), rotateLeft d 45⟩)

/-- The upper half of the next word and the state after it. -/
def nextHalf (r : Random) : Nat × Random :=
  let (word, r) := r.next
  ((word >>> 32).toNat, r)

/-- A number below `bound`, which is less than 2 to the 32: the integer part of a fraction of
`bound`, with a second half word behind the point where the first one leaves the carry open. -/
def below (bound : Nat) (r : Random) : Nat × Random :=
  let (x, r) := r.nextHalf
  let product := x * bound
  let whole := product / 0x100000000
  let fraction := product % 0x100000000
  if fraction > 0x100000000 - bound then
    let (y, r) := r.nextHalf
    (if fraction + y * bound / 0x100000000 ≥ 0x100000000 then whole + 1 else whole, r)
  else (whole, r)

/-- The number of orders of twelve things. -/
def orders : Nat := 479001600

/-- Make the exchanges from index `i` on that the digits of `code` name, `steps` of them. -/
def exchange {α : Type} : (steps i code : Nat) → Array α → Array α
  | 0, _, _, xs => xs
  | steps + 1, i, code, xs =>
    exchange steps (i + 1) (code / (i + 1)) (xs.swapIfInBounds i (code % (i + 1)))

/-- Put up to twelve things into a random order. -/
def shuffle {α : Type} (xs : Array α) (r : Random) : Array α × Random :=
  let drawn := r.below orders
  (exchange (xs.size - 1) 1 drawn.1 xs, drawn.2)

end Random

end DeliveryRouting
