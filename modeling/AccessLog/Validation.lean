/-
Reading options and settings from values.

* `readIntegerText`: the integer that a text stands for.
* `readInteger`, `readFlag`, `readText`, `readAmong`: a value as an option of
  a kind, or why not.
* `between`, `within`: bounds of numbers.
* `Checked`, `option`: an option of a table, or the issue with it.
-/
import AccessLog.Failure
import AccessLog.Text.Blank
import AccessLog.Text.Case

namespace AccessLog.Validation

/-! ### Integers -/

/-- Without the zeros in front, single underscores among them included; one
zero stays in front of a point or at the end. -/
def dropLeadingZeros? : (sawUnderscore : Bool) → Text → Option Text
  | sawUnderscore, [] => if sawUnderscore then none else some "0"
  | sawUnderscore, c :: rest =>
    if c = '0' then dropLeadingZeros? false rest
    else if c = '_' then if sawUnderscore then none else dropLeadingZeros? true rest
    else if c.isDigit then some (c :: rest)
    else if c = '.' then
      if sawUnderscore then none else some ('0' :: c :: rest)
    else none

/-- A numeral or one behind a minus sign, without zeros in front of a numeral. -/
def normalizeSign? (t : Text) : Option Text :=
  match t with
  | [] => none
  | c :: rest =>
    if c = '0' then dropLeadingZeros? false rest
    else if c = '-' || c.isDigit then some t
    else none

/-- Without a point that only zeros follow. -/
def dropPointZeros (t : Text) : Text :=
  match t.cut '.' with
  | (whole, some part) => if part.all (fun c : CodePoint => c = '0') then whole else t
  | (_, none) => t

/-- Without underscores, unless they stand at an end or side by side. -/
def dropUnderscores (t : Text) : Text :=
  let pieces := t.splitOn '_'
  if pieces.any (·.isEmpty) then t else pieces.flatten

/-- The integer of a plain numeral with an optional minus sign; a numeral of
several digits does not start with a zero. -/
def plainInteger? (t : Text) : Option Int :=
  let (negative, digits) := match t with
    | c :: rest => if c = '-' then (true, rest) else (false, t)
    | [] => (false, [])
  if digits.isEmpty || !digits.all CodePoint.isDigit then none
  else if 1 < digits.length && digits.head? = some (CodePoint.ofChar '0') then none
  else
    let n : Int := Text.digitsValue digits
    some (if negative then -n else n)

/-- The longest numeral that is read. -/
def maxNumeral : Nat := 4300

/-- The integer that a text stands for: white space around it, a plus sign,
zeros in front, zeros behind a point and single underscores do not count. -/
def readIntegerText (t : Text) : Except Refusal Int :=
  let t := t.trimBy CodePoint.isWhiteSpace
  let t? : Option Text := match t with
    | c :: rest =>
      if c = '+' then
        if rest.head? = some (CodePoint.ofChar '-') then none else some rest
      else some t
    | [] => some []
  match t?.bind normalizeSign? with
  | none => .error .integerText
  | some t =>
    let t := dropUnderscores (dropPointZeros t)
    if maxNumeral < t.length then .error .integerTooLong
    else match plainInteger? t with
      | some n => .ok n
      | none => .error .integerText

/-- A value as an integer: flags, whole numbers and numerals. -/
def readInteger : Value → Except Refusal Int
  | .flag b => .ok b.toInt
  | .int n => .ok n
  | .float x => match x with
    | .nan | .inf _ => .error .notFinite
    | x => match x.toInt? with
      | some n => .ok n
      | none => .error .fractional
  | .text t => readIntegerText t
  | .bytes bs => match Text.ofUtf8 bs with
    | .ok t => readIntegerText t
    | .error _ => .error .integerText
  | _ => .error .notInteger

/-! ### Flags, texts and names -/

/-- The words for false. -/
def falseWords : List Text := ["0", "off", "f", "false", "n", "no"]

/-- The words for true. -/
def trueWords : List Text := ["1", "on", "t", "true", "y", "yes"]

/-- An ASCII letter in lower case; nothing else changes. -/
def lowerAscii (c : CodePoint) : CodePoint :=
  if 0x41 ≤ c.toNat && c.toNat ≤ 0x5A then .ofNat (c.toNat + 0x20) else c

/-- The flag that a word stands for, in either letter case. -/
def readFlagText (t : Text) : Except Refusal Bool :=
  let word := t.map lowerAscii
  if falseWords.contains word then .ok false
  else if trueWords.contains word then .ok true
  else .error .flagText

/-- The flag that a number stands for. -/
def readFlagNumber (n : Int) : Except Refusal Bool :=
  if n = 0 then .ok false else if n = 1 then .ok true else .error .flagText

/-- A value as a flag: zero and one, and the words for true and false. -/
def readFlag : Value → Except Refusal Bool
  | .flag b => .ok b
  | .int n => readFlagNumber n
  | .float x => match x.toInt? with
    | some n => readFlagNumber n
    | none => .error .notFlag
  | .text t => readFlagText t
  | .bytes bs => match Text.ofUtf8 bs with
    | .ok t => readFlagText t
    | .error _ => .error .flagText
  | _ => .error .notFlag

/-- A value as a text: bytes are taken as UTF-8. -/
def readText : Value → Except Refusal Text
  | .text t => .ok t
  | .bytes bs => match Text.ofUtf8 bs with
    | .ok t => .ok t
    | .error _ => .error .notUtf8
  | _ => .error .notText

/-- A value as a text that may be absent. -/
def readOptionalText : Value → Except Refusal (Option Text)
  | .null => .ok none
  | v => (readText v).map some

/-- A value as one of some names. -/
def readAmong {α : Type} (names : List (Text × α)) (v : Value) : Except Refusal α :=
  match readText v with
  | .ok t => match names.lookup t with
    | some a => .ok a
    | none => .error (.notAmong (names.map (·.1)))
  | .error _ => .error (.notAmong (names.map (·.1)))

/-! ### Bounds and several options -/

/-- A number above one bound and below another. -/
def between (above below : Int) (n : Int) : Except Refusal Int :=
  if n ≤ above then .error (.notAbove above)
  else if below ≤ n then .error (.notBelow below)
  else .ok n

/-- A number from one bound to another. -/
def within (least most : Int) (n : Int) : Except Refusal Int :=
  if n < least then .error (.notAtLeast least)
  else if most < n then .error (.notAtMost most)
  else .ok n

/-- An option that was read, or the issue with it. -/
abbrev Checked (α : Type) := Except Issue α

/-- The option of a name in a table, or its default if it is not there. -/
def option {α : Type} (given : Table Value) (name : Text) (default : α)
    (read : Value → Except Refusal α) : Checked α :=
  match given.get? name with
  | none => .ok default
  | some v => match read v with
    | .ok a => .ok a
    | .error refusal => .error ⟨[name], refusal⟩

/-- The issue with an option, if there is one. -/
def Checked.issues {α : Type} : Checked α → List Issue
  | .ok _ => []
  | .error issue => [issue]

end AccessLog.Validation
