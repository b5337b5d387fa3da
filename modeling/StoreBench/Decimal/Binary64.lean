/-!
Doubles as exact numbers, and rounding to them.

A finite double is `± mantissa * 2 ^ exponent` with natural `mantissa`; nothing in the decimal
modules computes with doubles, all of it is arithmetic on that pair.  The other way, a ratio of
naturals is rounded to the nearest double, ties to the even mantissa.
-/

namespace StoreBench.Decimal

inductive Binary64 where
  | nan
  | infinite (negative : Bool)
  | finite (negative : Bool) (mantissa : Nat) (exponent : Int)
  deriving DecidableEq

def Binary64.ofBits (bits : UInt64) : Binary64 :=
  let negative := bits >>> 63 != 0
  let exponent := ((bits >>> 52) &&& 0x7FF).toNat
  let fraction := (bits &&& 0xFFFFFFFFFFFFF).toNat
  if exponent = 0x7FF then
    if fraction = 0 then .infinite negative else .nan
  else if exponent = 0 then .finite negative fraction (-1074)
  else .finite negative (fraction + 0x10000000000000) ((exponent : Int) - 1075)

def Binary64.ofFloat (value : Float) : Binary64 :=
  .ofBits value.toBits

/-- `num / den` to the nearest natural, a half to the even neighbour. -/
def roundDiv (num den : Nat) : Nat :=
  let quotient := num / den
  let twice := 2 * (num % den)
  if twice > den || (twice == den && quotient % 2 == 1) then quotient + 1 else quotient

/-- The bits of the double nearest to `num / den`; the numerator and the denominator are
positive.  The unit is chosen so that the quotient has 53 binary digits, unless that unit were
below the smallest one; a quotient that rounds up to 54 digits carries into the exponent. -/
def ratioBits (num den : Nat) : Nat :=
  let guess : Int := (num.log2 : Int) - den.log2 - 52
  let scaled (exponent : Int) : Nat × Nat :=
    (num * Nat.pow 2 (-exponent).toNat, den * Nat.pow 2 exponent.toNat)
  let (top, bottom) := scaled guess
  let exponent := max (if top < bottom * 0x10000000000000 then guess - 1 else guess) (-1074)
  let (top, bottom) := scaled exponent
  min ((exponent + 1074).toNat * 0x10000000000000 + roundDiv top bottom) (0x7FF * 0x10000000000000)

def ofRatio (num den : Nat) : Float :=
  if num = 0 || den = 0 then 0.0 else Float.ofBits (UInt64.ofNat (ratioBits num den))

def ofNat (value : Nat) : Float :=
  ofRatio value 1

/-- `digits * 10 ^ exponent` to the nearest double.  Exponents far outside the range of doubles
are decided by the number of digits, before any power of ten is computed. -/
def ofDecimal (negative : Bool) (digits : Nat) (exponent : Int) : Float :=
  let magnitude : Int := (Nat.toDigits 10 digits).length + exponent
  let size :=
    if digits = 0 || magnitude < -330 then 0.0
    else if magnitude > 330 then Float.ofBits 0x7FF0000000000000
    else ofRatio (digits * Nat.pow 10 exponent.toNat) (Nat.pow 10 (-exponent).toNat)
  if negative then -size else size

end StoreBench.Decimal
