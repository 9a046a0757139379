/-
Binary floating-point numbers of 64 bits.

* `Binary64`: not a number, an infinity, or a sign with `mantissa * 2 ^ exponent`.
* `roundDiv`: the quotient of two naturals rounded to the nearest natural, a
  half to the even one.
* `Binary64.ofRatio`: the nearest number to a quotient, ties to the even
  mantissa; too large a quotient becomes an infinity.
* `Binary64.magnitude`: the exact value as a quotient of naturals.
* `Binary64.ofText?`: reading a decimal text.
* `Number`: an exact value that integers and floating-point numbers share, with
  its order.
-/
import AccessLog.Text.Blank
import AccessLog.Text.Case

namespace AccessLog

/-- A floating-point number: mantissas stay below `2 ^ 53`, exponents between
`-1074` and `971`, and only the smallest exponent goes with a mantissa below
`2 ^ 52`. -/
inductive Binary64 where
  | nan
  | inf (negative : Bool)
  | finite (negative : Bool) (mantissa : Nat) (exponent : Int)
deriving DecidableEq

/-- The quotient rounded to the nearest natural, a half to the even one. -/
def roundDiv (num den : Nat) : Nat :=
  let q := num / den
  let r := num % den
  if 2 * r < den then q
  else if den < 2 * r then q + 1
  else if q % 2 = 0 then q else q + 1

/-- The quotient `num / den` divided by `2 ^ e`, as numerator and denominator. -/
def scaleDown (num den : Nat) (e : Int) : Nat × Nat :=
  if 0 ≤ e then (num, den * Nat.pow 2 e.toNat) else (num * Nat.pow 2 (-e).toNat, den)

namespace Binary64

/-- The smallest exponent. -/
def minExponent : Int := -1074

/-- The largest exponent. -/
def maxExponent : Int := 971

/-- Zero with a sign. -/
def zero (negative : Bool) : Binary64 :=
  finite negative 0 minExponent

/-- The exponent that gives the quotient a mantissa of 53 bits, or the
smallest one. -/
def exponentFor (num den : Nat) : Int :=
  let guess : Int := (num.log2 : Int) - (den.log2 : Int) - 52
  let (n, d) := scaleDown num den guess
  let e := if n < d * Nat.pow 2 52 then guess - 1 else guess
  max e minExponent

/-- The floating-point number nearest to a quotient. -/
def ofRatio (negative : Bool) (num den : Nat) : Binary64 :=
  if num = 0 then zero negative
  else
    let e := exponentFor num den
    let (n, d) := scaleDown num den e
    let m := roundDiv n d
    let (m, e) := if m = Nat.pow 2 53 then (Nat.pow 2 52, e + 1) else (m, e)
    if maxExponent < e then inf negative else finite negative m e

/-- The floating-point number nearest to an integer. -/
def ofInt (n : Int) : Binary64 :=
  ofRatio (n < 0) n.natAbs 1

/-- The exact absolute value of a finite number as a quotient. -/
def magnitude (mantissa : Nat) (exponent : Int) : Nat × Nat :=
  if 0 ≤ exponent then (mantissa * Nat.pow 2 exponent.toNat, 1)
  else (mantissa, Nat.pow 2 (-exponent).toNat)

/-- The quotient of a finite number and a positive natural. -/
def divNat (x : Binary64) (den : Nat) : Binary64 :=
  match x with
  | finite negative m e =>
    let (n, d) := magnitude m e
    ofRatio negative n (d * den)
  | x => x

/-- The number is zero, of either sign. -/
def isZero : Binary64 → Bool
  | finite _ m _ => m == 0
  | _ => false

/-- The exact integer, if the number is one. -/
def toInt? : Binary64 → Option Int
  | finite negative m e =>
    let (n, d) := magnitude m e
    if n % d = 0 then some (if negative then -((n / d : Nat) : Int) else ((n / d : Nat) : Int))
    else none
  | _ => none

/-! ### Reading -/

/-- The digits of a decimal text: value of the digits, number of digits after
the point, and the rest. -/
def readDigits (t : Text) : Nat × Nat × Nat × Text :=
  let whole := t.takeWhile CodePoint.isDigit
  let rest := t.dropWhile CodePoint.isDigit
  match rest with
  | c :: tail =>
    if c = '.' then
      let part := tail.takeWhile CodePoint.isDigit
      (Text.digitsValue (whole ++ part), whole.length + part.length, part.length,
        tail.dropWhile CodePoint.isDigit)
    else (Text.digitsValue whole, whole.length, 0, rest)
  | [] => (Text.digitsValue whole, whole.length, 0, [])

/-- A decimal exponent: nothing, or the letter and an integer. -/
def readExponent? : Text → Option Int
  | [] => some 0
  | c :: t =>
    if c = 'e' || c = 'E' then
      let (negative, digits) := match t with
        | s :: r => if s = '-' then (true, r) else if s = '+' then (false, r) else (false, t)
        | [] => (false, [])
      if digits.isEmpty || !digits.all CodePoint.isDigit then none
      else
        let n : Int := Text.digitsValue digits
        some (if negative then -n else n)
    else none

/-- Decimal exponents beyond this bound give zero or an infinity. -/
def exponentBound (digits : Nat) : Int := digits + 400

/-- The number nearest to `value * 10 ^ exponent`, for `value` of at most
`digits` digits. -/
def ofDecimal (negative : Bool) (value digits : Nat) (exponent : Int) : Binary64 :=
  if value = 0 || exponent < -exponentBound digits then zero negative
  else if exponentBound digits < exponent then inf negative
  else if 0 ≤ exponent then ofRatio negative (value * Nat.pow 10 exponent.toNat) 1
  else ofRatio negative value (Nat.pow 10 (-exponent).toNat)

/-- Reads a decimal text: an optional sign, then digits with an optional point
and exponent, or a name of an infinity or of what is not a number. -/
def ofText? (t : Text) : Option Binary64 :=
  let t := t.trim
  let (negative, body) := match t with
    | c :: r => if c = '-' then (true, r) else if c = '+' then (false, r) else (false, t)
    | [] => (false, [])
  let name := Text.lower body
  if name = "nan" then some nan
  else if name = "inf" || name = "infinity" then some (inf negative)
  else
    let (value, digits, places, rest) := readDigits body
    if digits = 0 then none
    else (readExponent? rest).map fun e => ofDecimal negative value digits (e - places)

end Binary64

/-! ### Exact values -/

/-- The exact value of an integer or of a floating-point number. -/
inductive Number where
  | nan
  | inf (negative : Bool)
  | ratio (num : Int) (den : Nat)

namespace Number

/-- The exact value of a floating-point number. -/
def ofBinary64 : Binary64 → Number
  | .nan => nan
  | .inf negative => inf negative
  | .finite negative m e =>
    let (n, d) := Binary64.magnitude m e
    ratio (if negative then -(n : Int) else (n : Int)) d

/-- The exact value of an integer. -/
def ofInt (n : Int) : Number :=
  ratio n 1

/-- Strict order; what is not a number is below nothing and above nothing. -/
def lt : Number → Number → Bool
  | nan, _ => false
  | _, nan => false
  | inf true, inf true => false
  | inf true, _ => true
  | _, inf true => false
  | inf false, _ => false
  | ratio _ _, inf false => true
  | ratio n d, ratio n' d' => n * d' < n' * d

/-- Equality of values; what is not a number equals nothing. -/
def same : Number → Number → Bool
  | inf a, inf b => a == b
  | ratio n d, ratio n' d' => n * d' == n' * d
  | _, _ => false

end Number

end AccessLog
