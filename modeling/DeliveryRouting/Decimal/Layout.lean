import DeliveryRouting.Decimal.Shortest
import DeliveryRouting.Text.Numeral

/-! # Decimals: how a number is laid out

A layout settles what the digits of a number leave open: which exponents are written out, whether
a whole number shows a zero behind the point, how an exponent is written and which of two equally
close decimals is taken. Whatever the layout, the sign of zero is kept. -/

namespace DeliveryRouting.Decimal

/-- A way to write doubles. -/
structure Layout where
  /-- the exponents of the leading digit that are written out; without bounds all of them -/
  plain : Option (Int × Int)
  /-- a whole number is written with a zero behind the point -/
  pointZero : Bool
  /-- least number of digits of an exponent -/
  exponentWidth : Nat
  tie : Tie

/-- Digits with the point `place` digits behind the first one, which may lie outside of them. -/
def Layout.positional (f : Layout) (digits : List Char) (place : Int) : List Char :=
  if place < 0 then '0' :: '.' :: (List.replicate (-place - 1).toNat '0' ++ digits)
  else
    let whole := place.toNat + 1
    if digits.length ≤ whole then
      digits ++ List.replicate (whole - digits.length) '0' ++
        (if f.pointZero then ['.', '0'] else [])
    else digits.take whole ++ '.' :: digits.drop whole

/-- Digits with the point behind the first one, and an exponent. -/
def Layout.scientific (f : Layout) (digits : List Char) (place : Int) : List Char :=
  let mantissa := match digits with
    | first :: second :: rest => first :: '.' :: second :: rest
    | short => short
  mantissa ++ 'e' :: (if place < 0 then '-' else '+') ::
    Numeral.padded f.exponentWidth place.natAbs

/-- The exponent is one of those that are written out. -/
def Layout.writesOut (f : Layout) (place : Int) : Bool :=
  match f.plain with
  | none => true
  | some (least, greatest) => decide (least ≤ place) && decide (place ≤ greatest)

/-- The text of a finite double. -/
def Layout.write (f : Layout) (x : Float) : String :=
  let sign := if x.toBits >>> 63 == 1 then ['-'] else []
  if x == 0.0 then
    String.ofList (sign ++ f.positional ['0'] 0)
  else
    let d := (Binary.ofBits (x.toBits &&& 0x7FFFFFFFFFFFFFFF)).shortest f.tie
    let digits := Numeral.digits d.digits
    let place := d.exponent + (digits.length : Int) - 1
    let body := if f.writesOut place then f.positional digits place else f.scientific digits place
    String.ofList (sign ++ body)

end DeliveryRouting.Decimal
