/-! # Jobs: fresh ids

An id for a job that has none is made of sixteen random bytes, of which six bits are fixed to say
so, in five groups of hexadecimal digits. -/

namespace DeliveryRouting.FreshId

/-- Number of random bytes. -/
def size : Nat := 16

/-- The bytes with the bits that say how they came about. -/
def marked (bytes : List UInt8) : List UInt8 :=
  bytes.zipIdx.map fun (b, i) =>
    if i = 6 then (b &&& 0x0F) ||| 0x40
    else if i = 8 then (b &&& 0x3F) ||| 0x80
    else b

/-- The two hexadecimal digits of a byte. -/
def hex (b : UInt8) : List Char := [(b >>> 4).toNat.digitChar, (b &&& 0x0F).toNat.digitChar]

/-- The digits from one place to another. -/
def group (digits : List Char) (start length : Nat) : String :=
  String.ofList ((digits.drop start).take length)

/-- The id of random bytes. -/
def ofBytes (bytes : List UInt8) : String :=
  let digits := (marked bytes).flatMap hex
  String.intercalate "-" [group digits 0 8, group digits 8 4, group digits 12 4,
    group digits 16 4, group digits 20 12]

end DeliveryRouting.FreshId
