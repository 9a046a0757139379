/-
The shortest decimal text of a floating-point number.

* `Rounding`: the interval of values that round to a number.
* `shortestDigits`: the fewest digits of a decimal value in that interval, and
  of those the nearest.
* `Binary64.shown`: positional for exponents from `-4` to `15`, with at least
  one digit after the point; scientific otherwise.
-/
import AccessLog.Decimal.Binary64

namespace AccessLog

/-- The values that round to a positive number: a common denominator, the
number, and the two ends, which belong to the interval if `closed`. -/
structure Rounding where
  den : Nat
  value : Nat
  low : Nat
  high : Nat
  closed : Bool

namespace Rounding

/-- The interval of a number with the given mantissa and exponent: it reaches
half-way to both neighbours. -/
def of (mantissa : Nat) (exponent : Int) : Rounding :=
  let below := if mantissa = Nat.pow 2 52 && Binary64.minExponent < exponent then 1 else 2
  let unit := Binary64.magnitude 1 (exponent - 2)
  ⟨unit.2, 4 * mantissa * unit.1, (4 * mantissa - below) * unit.1,
    (4 * mantissa + 2) * unit.1, mantissa % 2 == 0⟩

/-- The value `c * 10 ^ p` lies in the interval. -/
def holds (r : Rounding) (c : Nat) (p : Int) : Bool :=
  let (n, d) := if 0 ≤ p then (c * Nat.pow 10 p.toNat, 1) else (c, Nat.pow 10 (-p).toNat)
  if r.closed then r.low * d ≤ n * r.den && n * r.den ≤ r.high * d
  else r.low * d < n * r.den && n * r.den < r.high * d

/-- The decimal exponent of the leading digit. -/
def leading (r : Rounding) : Int :=
  if r.den ≤ r.value then ((Nat.toDigits 10 (r.value / r.den)).length : Int) - 1
  else
    let l := (Nat.toDigits 10 (r.den / r.value)).length - 1
    if r.value * Nat.pow 10 l = r.den then -(l : Int) else -(l : Int) - 1

/-- The neighbour of the number on the grid of multiples of `10 ^ p` that lies
in the interval; of two the nearer, of two as near the even one. -/
def onGrid? (r : Rounding) (p : Int) : Option Nat :=
  let (n, d) := if 0 ≤ p then (r.value, r.den * Nat.pow 10 p.toNat)
    else (r.value * Nat.pow 10 (-p).toNat, r.den)
  let down := n / d
  let near := roundDiv n d
  if r.holds near p then some near
  else if r.holds down p then some down
  else if r.holds (down + 1) p then some (down + 1)
  else none

/-- The first of the grids `10 ^ (top - 1)`, `10 ^ (top - 2)`, … that has a
value in the interval, with that value. -/
def search (r : Rounding) (top : Int) : (digits : Nat) → Nat × Int
  | 0 => (roundDiv r.value r.den, 0)
  | left + 1 =>
    match r.onGrid? top with
    | some c => (c, top)
    | none => search r (top - 1) left

end Rounding

/-- The fewest decimal digits that round to the number, and the exponent of
the last one; seventeen digits are always enough. -/
def shortestDigits (mantissa : Nat) (exponent : Int) : Nat × Int :=
  let r := Rounding.of mantissa exponent
  r.search r.leading 17

/-- Without the zeros at the end of a numeral. -/
def dropZeros (digits : Text) : Text :=
  (digits.reverse.dropWhile fun c : CodePoint => c = '0').reverse

namespace Binary64

/-- Digits with the decimal point behind the first `point` of them, at least
one digit on both sides. -/
def positional (digits : Text) (point : Int) : Text :=
  if point ≤ 0 then "0." ++ List.replicate (-point).toNat (CodePoint.ofChar '0') ++ digits
  else
    let k := point.toNat
    if digits.length ≤ k then
      digits ++ List.replicate (k - digits.length) (CodePoint.ofChar '0') ++ ".0"
    else digits.take k ++ "." ++ digits.drop k

/-- Digits with the point behind the first one and an exponent of at least two
digits. -/
def scientific (digits : Text) (point : Int) : Text :=
  let e := point - 1
  let mantissa : Text := match digits with
    | [] => []
    | [d] => [d]
    | d :: ds => d :: ("." ++ ds)
  let sign : Text := if e < 0 then "-" else "+"
  mantissa ++ "e" ++ sign ++ (Text.ofNat e.natAbs).padLeft 2 '0'

/-- The shortest text that reads back as the number. -/
def shown : Binary64 → Text
  | nan => "nan"
  | inf negative => if negative then "-inf" else "inf"
  | finite negative m e =>
    let sign : Text := if negative then "-" else ""
    if m = 0 then sign ++ "0.0"
    else
      let (c, p) := shortestDigits m e
      let numeral := Text.ofNat c
      let point := p + numeral.length
      let digits := dropZeros numeral
      sign ++
        if -4 < point && point ≤ 16 then positional digits point else scientific digits point

end Binary64

end AccessLog
