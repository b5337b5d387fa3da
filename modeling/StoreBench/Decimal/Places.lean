import StoreBench.Decimal.Binary64

/-!
A fixed number of decimal places.

The exact value of the double is rounded to the grid `10 ^ -places`, a half to the even neighbour.
The sign of a negative zero is kept.
-/

namespace StoreBench.Decimal

/-- `units / 10 ^ places`, with exactly `places` digits after the point. -/
def placesText (units places : Nat) : String :=
  let whole := units / Nat.pow 10 places
  let part := Nat.toDigits 10 (units % Nat.pow 10 places)
  s!"{whole}." ++ String.ofList (List.replicate (places - part.length) '0' ++ part)

def fixed (places : Nat) (value : Float) : String :=
  match Binary64.ofFloat value with
  | .nan => "NaN"
  | .infinite negative => if negative then "-inf" else "inf"
  | .finite negative mantissa exponent =>
    let sign := if negative then "-" else ""
    let units :=
      roundDiv (mantissa * Nat.pow 2 exponent.toNat * Nat.pow 10 places)
        (Nat.pow 2 (-exponent).toNat)
    sign ++ placesText units places

end StoreBench.Decimal
