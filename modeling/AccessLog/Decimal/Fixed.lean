/-
Decimal texts with a fixed number of places.

* `Binary64.fixed`: the exact value rounded to the given number of places, a
  half to the even neighbour.
-/
import AccessLog.Decimal.Binary64

namespace AccessLog

/-- A natural number of units `10 ^ -places`. -/
def placed (places units : Nat) : Text :=
  let numeral := (Text.ofNat units).padLeft (places + 1) '0'
  if places = 0 then numeral
  else
    let k := numeral.length - places
    numeral.take k ++ "." ++ numeral.drop k

/-- The exact value with a fixed number of places. -/
def Binary64.fixed (places : Nat) : Binary64 → Text
  | nan => "nan"
  | inf negative => if negative then "-inf" else "inf"
  | finite negative m e =>
    let (n, d) := magnitude m e
    let sign : Text := if negative then "-" else ""
    sign ++ placed places (roundDiv (n * Nat.pow 10 places) d)

end AccessLog
