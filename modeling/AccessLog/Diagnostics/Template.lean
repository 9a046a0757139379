/-
Lines with places for arguments.

* `Arguments`: what fills the places.
* `Place`: a place in a line: how the argument is to be written.
* `Place.read?`: the place behind a percent sign.
* `Place.fill?`: an argument in its place.
* `fillIn?`: a line with all its places filled, if the arguments fit.
-/
import AccessLog.Decimal.Fixed
import AccessLog.Text.Json

namespace AccessLog.Template

/-- A value as an integer, where a flag is zero or one. -/
def integer? : Value → Option Int
  | .flag b => some b.toInt
  | .int n => some n
  | _ => none

/-- What fills the places of a line: values in order, of which one may be
chosen by its key instead. -/
structure Arguments where
  values : List Value
  /-- The mapping that keys choose from. -/
  entries : Option (List (Value × Value)) := none

namespace Arguments

/-- The arguments of a line; a single mapping that is not empty is chosen from. -/
def ofList : List Value → Arguments
  | [.dict (e :: es)] => ⟨[.dict (e :: es)], some (e :: es)⟩
  | values => ⟨values, none⟩

/-- The next value, with the others. -/
def next? (a : Arguments) : Option (Value × Arguments) :=
  match a.values with
  | [] => none
  | v :: rest => some (v, { a with values := rest })

/-- The value of a key is next. -/
def choose? (a : Arguments) (key : Text) : Option Arguments := do
  let entry ← (← a.entries).find? fun entry => entry.1.same (.text key)
  return { a with values := [entry.2] }

/-- No argument is left over; the values of a mapping need not be used. -/
def isDone (a : Arguments) : Bool :=
  a.values.isEmpty || a.entries.isSome

end Arguments

/-- How an argument is to be written. -/
structure Place where
  /-- To the left of the width. -/
  left : Bool := false
  /-- Numbers with a plus sign. -/
  plus : Bool := false
  /-- Numbers with a blank for the plus sign. -/
  blank : Bool := false
  /-- Numerals with the mark of their base. -/
  marked : Bool := false
  /-- Numbers filled up with zeros. -/
  zeros : Bool := false
  width : Nat := 0
  precision : Option Nat := none
  kind : CodePoint
deriving DecidableEq

namespace Place

/-- The flags at the front of a place. -/
def readFlags (p : Place) : Text → Place × Text
  | [] => (p, [])
  | c :: rest =>
    if c = '-' then readFlags { p with left := true } rest
    else if c = '+' then readFlags { p with plus := true } rest
    else if c = ' ' then readFlags { p with blank := true } rest
    else if c = '#' then readFlags { p with marked := true } rest
    else if c = '0' then readFlags { p with zeros := true } rest
    else (p, c :: rest)

/-- A number at the front, zero if there is none. -/
def readNumber (t : Text) : Nat × Text :=
  (Text.digitsValue (t.takeWhile CodePoint.isDigit), t.dropWhile CodePoint.isDigit)

/-- A key up to the parenthesis that closes it, inside some others. -/
def readKey? : Nat → Text → Option (Text × Text)
  | _, [] => none
  | depth, c :: rest =>
    if c = ')' then
      match depth with
      | 0 => some ([], rest)
      | depth + 1 => (readKey? depth rest).map fun (key, rest) => (c :: key, rest)
    else (readKey? (if c = '(' then depth + 1 else depth) rest).map fun (key, rest) =>
      (c :: key, rest)

/-- A size at the front: a number, or a star for the next argument. It has to
fit into signed words of so many bits. -/
def readSize? (bits : Nat) (a : Arguments) : Text → Option (Int × Arguments × Text)
  | [] => some (0, a, [])
  | c :: rest =>
    let bound : Int := Nat.pow 2 (bits - 1)
    let fits (n : Int) : Bool := -bound ≤ n && n < bound
    if c = '*' then do
      let (v, a) ← a.next?
      let n ← integer? v
      if fits n then some (n, a, rest) else none
    else
      let (n, rest) := readNumber (c :: rest)
      if fits n then some (n, a, rest) else none

/-- The same with a width; a negative one is to the left of it. -/
def withWidth (p : Place) (n : Int) : Place :=
  if n < 0 then { p with left := true, width := n.natAbs } else { p with width := n.natAbs }

/-- One letter for the size of an argument is passed over. -/
def dropSize : Text → Text
  | [] => []
  | c :: rest => if c = 'h' || c = 'l' || c = 'L' then rest else c :: rest

/-- The arguments for a place, chosen by its key if it has one. -/
def readChoice? (a : Arguments) : Text → Option (Arguments × Text)
  | [] => none
  | c :: rest =>
    if c = '(' then do
      let (key, rest) ← readKey? 0 rest
      return (← a.choose? key, rest)
    else some (a, c :: rest)

/-- The place behind a percent sign, with the arguments that are left for it
and the rest of the line. -/
def read? (a : Arguments) (t : Text) : Option (Place × Arguments × Text) := do
  let (a, t) ← readChoice? a t
  let (p, t) := readFlags { kind := '%' } t
  let (width, a, t) ← readSize? 64 a t
  let p := p.withWidth width
  let (p, a, t) ← match t with
    | c :: rest =>
      if c = '.' then do
        let (n, a, rest) ← readSize? 32 a rest
        some ({ p with precision := some n.toNat }, a, rest)
      else some (p, a, t)
    | [] => none
  match dropSize t with
  | kind :: rest => some ({ p with kind }, a, rest)
  | [] => none

/-- Filled up to the width; zeros go between sign and number. -/
def pad (p : Place) (numeric : Bool) (sign body : Text) : Text :=
  if p.left then (sign ++ body).padRight p.width ' '
  else if numeric && p.zeros then sign ++ body.padLeft (p.width - sign.length) '0'
  else (sign ++ body).padLeft p.width ' '

/-- The sign of a number. -/
def signOf (p : Place) (negative : Bool) : Text :=
  if negative then "-" else if p.plus then "+" else if p.blank then " " else []

/-- A text, cut to the precision. -/
def fillText (p : Place) (t : Text) : Text :=
  p.pad false [] (match p.precision with
    | some n => t.take n
    | none => t)

/-- An integer with the digits of its absolute value. -/
def fillInteger (p : Place) (n : Int) (mark : Text) (digits : Nat → Text) : Text :=
  let body := (digits n.natAbs).padLeft (p.precision.getD 0) '0'
  p.pad true (p.signOf (n < 0) ++ if p.marked then mark else []) body

/-- The digits of a value at a number of places behind the leading digit, and
the decimal exponent. -/
def significant (places mantissa : Nat) (exponent : Int) : Text × Int :=
  let (n, d) := Binary64.magnitude mantissa exponent
  if n = 0 then (List.replicate (places + 1) (CodePoint.ofChar '0'), 0)
  else
    let lead := (Rounding.of mantissa exponent).leading
    let shift : Int := places - lead
    let c := if 0 ≤ shift then roundDiv (n * Nat.pow 10 shift.toNat) d
      else roundDiv n (d * Nat.pow 10 (-shift).toNat)
    let digits := Text.ofNat c
    if digits.length = places + 2 then (digits.take (places + 1), lead + 1) else (digits, lead)

/-- Digits with a point between them; the point stays at the end only if it
has to. -/
def withPoint (always : Bool) (whole rest : Text) : Text :=
  if rest.isEmpty && !always then whole else whole ++ "." ++ rest

/-- A decimal exponent of at least two digits. -/
def exponentText (e : Int) : Text :=
  "e" ++ (if e < 0 then "-" else "+" : Text) ++ (Text.ofNat e.natAbs).padLeft 2 '0'

/-- The digits of a finite number in scientific form. -/
def scientific (always : Bool) (digits : Text) (lead : Int) : Text :=
  withPoint always (digits.take 1) (digits.drop 1) ++ exponentText lead

/-- The digits of a finite number in general form: the shorter of positional
and scientific, without zeros at the end unless all are kept. -/
def general (always : Bool) (precision mantissa : Nat) (exponent : Int) : Text :=
  let places := (if precision = 0 then 1 else precision) - 1
  let (digits, lead) := significant places mantissa exponent
  let kept := if always then digits else dropZeros digits
  let kept := if kept.isEmpty then digits.take 1 else kept
  let zeros (n : Nat) : Text := List.replicate n (CodePoint.ofChar '0')
  if lead < -4 || places < lead then scientific always kept lead
  else if lead < 0 then withPoint always "0" (zeros ((-lead).toNat - 1) ++ kept)
  else
    let k := lead.toNat + 1
    withPoint always (kept.take k ++ zeros (k - kept.length)) (kept.drop k)

/-- A floating-point number in fixed, scientific or general form. -/
def fillFloat (p : Place) (x : Binary64) : Text :=
  let precision := p.precision.getD 6
  let upper := p.kind = 'F' || p.kind = 'E' || p.kind = 'G'
  let (negative, body) : Bool × Text := match x with
    | .nan => (false, "nan")
    | .inf negative => (negative, "inf")
    | .finite negative m e =>
      (negative,
        if p.kind = 'f' || p.kind = 'F' then
          let t := (Binary64.finite false m e).fixed precision
          if p.marked && precision = 0 then t ++ "." else t
        else if p.kind = 'e' || p.kind = 'E' then
          let (digits, lead) := significant precision m e
          scientific p.marked digits lead
        else general p.marked precision m e)
  let raise (c : CodePoint) : CodePoint :=
    if 0x61 ≤ c.toNat && c.toNat ≤ 0x7A then .ofNat (c.toNat - 0x20) else c
  p.pad true (p.signOf negative) (if upper then body.map raise else body)

/-- The integer part of a finite number. -/
def truncated? : Binary64 → Option Int
  | .finite negative m e =>
    let (n, d) := Binary64.magnitude m e
    some (if negative then -((n / d : Nat) : Int) else ((n / d : Nat) : Int))
  | _ => none

/-- A value as a floating-point number, unless it is too large for one. -/
def float? (v : Value) : Option Binary64 :=
  match v with
  | .float x => some x
  | v => (integer? v).bind fun n => match Binary64.ofInt n with
    | .inf _ => none
    | x => some x

/-- Only ASCII, by escapes for all else. -/
def asciiOnly (t : Text) : Text :=
  t.flatMap fun c => if c.toNat < 0x80 then [c] else c.escaped

/-- One code point, given as such or by its number. -/
def character? : Value → Option Text
  | .text [c] => some [c]
  | v => (integer? v).bind fun n =>
    if h : n.toNat < 0x110000 ∧ 0 ≤ n then some [⟨n.toNat, h.1⟩] else none

/-- An argument in its place, if it fits there. -/
def fill? (p : Place) (v : Value) : Option Text :=
  let k := p.kind
  if k = 's' then some (p.fillText v.shown)
  else if k = 'r' then some (p.fillText v.quoted)
  else if k = 'a' then some (p.fillText (asciiOnly v.quoted))
  else if k = 'c' then (character? v).map (p.pad false [])
  else if k = 'd' || k = 'i' || k = 'u' then
    let n? := match v with
      | .float x => truncated? x
      | v => integer? v
    n?.map fun n => p.fillInteger n [] Text.ofNat
  else if k = 'x' then (integer? v).map fun n => p.fillInteger n "0x" (Text.ofHex 1)
  else if k = 'X' then
    (integer? v).map fun n => p.fillInteger n "0X" fun n => (Text.ofHex 1 n).map fun c =>
      if 0x61 ≤ c.toNat then .ofNat (c.toNat - 0x20) else c
  else if k = 'o' then
    (integer? v).map fun n => p.fillInteger n "0o" fun n => (Nat.toDigits 8 n).map .ofChar
  else if k = 'f' || k = 'F' || k = 'e' || k = 'E' || k = 'g' || k = 'G' then
    (float? v).map p.fillFloat
  else none

end Place

/-- A line with its places filled, for a line of at most `fuel` code points. -/
def fillFrom? (fuel : Nat) (a : Arguments) (done : Text) (t : Text) : Option Text :=
  match fuel, t with
  | _, [] => if a.isDone then some done.reverse else none
  | 0, _ => none
  | fuel + 1, c :: rest =>
    if c ≠ '%' then fillFrom? fuel a (c :: done) rest
    else if rest.head? = some c then fillFrom? fuel a (c :: done) rest.tail
    else do
      let (p, a, rest) ← Place.read? a rest
      let (v, a) ← a.next?
      let t ← p.fill? v
      fillFrom? fuel a (t.reverse ++ done) rest

/-- A line with all its places filled; without arguments it stays as it is. -/
def fillIn? (message : Text) (arguments : List Value) : Option Text :=
  if arguments.isEmpty then some message
  else fillFrom? message.length (.ofList arguments) [] message

end AccessLog.Template
