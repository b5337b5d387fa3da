import StoreBench.Decimal.Binary64

/-!
The fewest digits that read back.

The reals that round to a double form an interval around it.  On the grid of decimals with `n`
significant digits only the two neighbours of the value can be the nearest point of that interval,
so grids of 1, 2, 3, … digits are tried until one of the two lies inside; of two hits the nearer
is taken, and an exact tie goes up.
-/

namespace StoreBench.Decimal

structure Span where
  value : Nat
  low : Nat
  high : Nat
  den : Nat
  closed : Bool

/-- The interval reaches half a unit up; half a unit down, but only a quarter below a power of
two.  The ends belong to it when the mantissa is even. -/
def Span.ofDyadic (mantissa : Nat) (exponent : Int) : Span :=
  let unit := Nat.pow 2 exponent.toNat
  let value := 4 * mantissa * unit
  { value
    low := value - (if mantissa = 0x10000000000000 then 1 else 2) * unit
    high := value + 2 * unit
    den := 4 * Nat.pow 2 (-exponent).toNat
    closed := mantissa % 2 == 0 }

def Span.holds (span : Span) (num den : Nat) : Bool :=
  if span.closed then span.low * den ≤ num * span.den && num * span.den ≤ span.high * den
  else span.low * den < num * span.den && num * span.den < span.high * den

def decimalMagnitude (num den : Nat) : Int :=
  if den ≤ num then (Nat.toDigits 10 (num / den)).length
  else
    let length := (Nat.toDigits 10 (den / num)).length
    if den ≤ num * Nat.pow 10 (length - 1) then 2 - (length : Int) else 1 - (length : Int)

/-- The neighbour of the value on the grid `10 ^ place` that the rule chooses, if one of the two
lies in the interval. -/
def Span.onGrid (span : Span) (place : Int) : Option Nat :=
  let stepUp := Nat.pow 10 place.toNat
  let stepDown := Nat.pow 10 (-place).toNat
  let num := span.value * stepDown
  let den := span.den * stepUp
  let below := num / den
  let belowFits := span.holds (below * stepUp) stepDown
  let aboveFits := span.holds ((below + 1) * stepUp) stepDown
  if aboveFits && (!belowFits || den ≤ 2 * (num % den)) then some (below + 1)
  else if belowFits then some below
  else none

def Span.shortestFrom (span : Span) (magnitude : Int) (count : Nat) : Nat → Nat × Int
  | 0 => (span.value / span.den, 0)
  | fuel + 1 =>
    let place := magnitude - count
    match span.onGrid place with
    | some digits => (digits, place)
    | none => span.shortestFrom magnitude (count + 1) fuel

def shortest (mantissa : Nat) (exponent : Int) : Nat × Int :=
  let span := Span.ofDyadic mantissa exponent
  span.shortestFrom (decimalMagnitude span.value span.den) 1 17

/-- Scientific text: the digits without trailing zeros, a point after the first one if more
follow, and the exponent without a plus sign. -/
def scientificDigits (digits : Nat) (place : Int) : String :=
  let all := Nat.toDigits 10 digits
  let kept := (all.reverse.dropWhile (· == '0')).reverse
  let exponent : Int := place + all.length - 1
  match kept with
  | [] => "0e0"
  | [only] => s!"{only}e{exponent}"
  | first :: rest => s!"{first}.{String.ofList rest}e{exponent}"

def scientific (value : Float) : String :=
  match Binary64.ofFloat value with
  | .nan => "NaN"
  | .infinite negative => if negative then "-inf" else "inf"
  | .finite negative mantissa exponent =>
    let sign := if negative then "-" else ""
    if mantissa = 0 then sign ++ "0e0"
    else
      let (digits, place) := shortest mantissa exponent
      sign ++ scientificDigits digits place

end StoreBench.Decimal
