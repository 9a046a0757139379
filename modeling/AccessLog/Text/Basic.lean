/-
Texts as lists of code points.

* `CodePoint`: a number below `0x110000`; unlike a `Char` it may be a
  surrogate, so a text is not always encodable.
* `Text`: a list of code points; string literals read as texts.
* `Text.ofNat`, `Text.ofInt`, `Text.ofHex`: numerals in base ten and sixteen.
* `Text.splitOn`: the pieces between the occurrences of one code point;
  `join_splitOn` puts them together again.
* `Text.le`: the lexicographic order by code point.
-/

namespace AccessLog

/-- A code point is a number below `0x110000`. -/
structure CodePoint where
  /-- The number of the code point. -/
  toNat : Nat
  /-- The last plane ends at `0x10FFFF`. -/
  isLt : toNat < 0x110000
deriving DecidableEq

namespace CodePoint

/-- The code point of a character. -/
def ofChar (c : Char) : CodePoint :=
  ⟨c.toNat, by
    have h := c.valid
    unfold UInt32.isValidChar Nat.isValidChar at h
    change c.val.toNat < 0x110000
    omega⟩

instance : Coe Char CodePoint := ⟨ofChar⟩

instance : Inhabited CodePoint := ⟨⟨0, by decide⟩⟩

/-- The code point of a number, where a number out of range is replaced by
`U+FFFD`. -/
def ofNat (n : Nat) : CodePoint :=
  if h : n < 0x110000 then ⟨n, h⟩ else ⟨0xFFFD, by decide⟩

/-- The code point with the number of a byte. -/
def ofByte (b : UInt8) : CodePoint :=
  ⟨b.toNat, Nat.lt_trans b.toNat_lt (by decide)⟩

/-- A surrogate is reserved for pairs of 16-bit units and has no encoding of
its own. -/
def isSurrogate (c : CodePoint) : Bool :=
  0xD800 ≤ c.toNat && c.toNat < 0xE000

/-- An ASCII digit. -/
def isDigit (c : CodePoint) : Bool :=
  0x30 ≤ c.toNat && c.toNat ≤ 0x39

/-- The value of an ASCII digit. -/
def digitValue (c : CodePoint) : Nat :=
  c.toNat - 0x30

/-- The value of a hexadecimal digit in either letter case. -/
def hexValue? (c : CodePoint) : Option Nat :=
  let n := c.toNat
  if 0x30 ≤ n && n ≤ 0x39 then some (n - 0x30)
  else if 0x41 ≤ n && n ≤ 0x46 then some (n - 0x37)
  else if 0x61 ≤ n && n ≤ 0x66 then some (n - 0x57)
  else none

@[ext] theorem ext {a b : CodePoint} (h : a.toNat = b.toNat) : a = b := by
  cases a; cases b; cases h; rfl

@[simp] theorem ofNat_toNat (c : CodePoint) : ofNat c.toNat = c := by
  simp [ofNat, c.isLt]

theorem toNat_ofNat {n : Nat} (h : n < 0x110000) : (ofNat n).toNat = n := by
  simp [ofNat, h]

@[simp] theorem toNat_ofByte (b : UInt8) : (ofByte b).toNat = b.toNat := rfl

end CodePoint

/-- A text is a list of code points. -/
abbrev Text := List CodePoint

namespace Text

/-- The text of a string literal. -/
def ofString (s : String) : Text :=
  s.toList.map CodePoint.ofChar

instance : Coe String Text := ⟨ofString⟩

/-- Base-ten numeral. -/
def ofNat (n : Nat) : Text :=
  (Nat.toDigits 10 n).map CodePoint.ofChar

/-- Base-ten numeral with a minus sign in front of a negative number. -/
def ofInt (n : Int) : Text :=
  if n < 0 then '-' :: ofNat n.natAbs else ofNat n.natAbs

/-- Filled up on the left with `fill` to at least `width` code points. -/
def padLeft (width : Nat) (fill : CodePoint) (t : Text) : Text :=
  List.replicate (width - t.length) fill ++ t

/-- Filled up on the right with `fill` to at least `width` code points. -/
def padRight (width : Nat) (fill : CodePoint) (t : Text) : Text :=
  t ++ List.replicate (width - t.length) fill

/-- Lower-case base-sixteen numeral of at least `width` digits. -/
def ofHex (width n : Nat) : Text :=
  padLeft width '0' ((Nat.toDigits 16 n).map CodePoint.ofChar)

/-- The value of a run of base-ten digits. -/
def digitsValue (digits : Text) : Nat :=
  digits.foldl (fun n c => 10 * n + c.digitValue) 0

/-- Every occurrence of `old` replaced by `new`. -/
def replace (old new : CodePoint) (t : Text) : Text :=
  t.map fun c => if c = old then new else c

/-- The pieces between the occurrences of `sep`; there is one piece more than
there are occurrences. -/
def splitOn (sep : CodePoint) (t : Text) : List Text :=
  t.foldr (fun c pieces =>
    if c = sep then [] :: pieces
    else match pieces with
      | [] => [[c]]
      | piece :: rest => (c :: piece) :: rest) [[]]

/-- The pieces one after the other with `sep` between them. -/
def join (sep : Text) (pieces : List Text) : Text :=
  sep.intercalate pieces

/-- The part before the first `sep` and, if there is one, the part after it. -/
def cut (sep : CodePoint) (t : Text) : Text × Option Text :=
  (t.takeWhile (· ≠ sep), (t.dropWhile (· ≠ sep)).tail?)

/-- The rest of a text after `lead`, if it starts so. -/
def dropLead? : (lead : Text) → Text → Option Text
  | [], t => some t
  | _ :: _, [] => none
  | l :: lead, c :: t => if l = c then dropLead? lead t else none

/-- Lexicographic order by code point. -/
def le : Text → Text → Bool
  | [], _ => true
  | _ :: _, [] => false
  | a :: s, b :: t =>
    if a.toNat < b.toNat then true
    else if b.toNat < a.toNat then false
    else le s t

/-- Sorted by code point. -/
def sort (ts : List Text) : List Text :=
  ts.mergeSort le

@[simp] theorem splitOn_nil (sep : CodePoint) : splitOn sep [] = [[]] := rfl

theorem splitOn_cons (sep c : CodePoint) (t : Text) :
    splitOn sep (c :: t) =
      if c = sep then [] :: splitOn sep t
      else match splitOn sep t with
        | [] => [[c]]
        | piece :: rest => (c :: piece) :: rest := rfl

@[simp] theorem splitOn_sep_cons (sep : CodePoint) (t : Text) :
    splitOn sep (sep :: t) = [] :: splitOn sep t := by
  simp [splitOn_cons]

theorem splitOn_ne_nil (sep : CodePoint) (t : Text) : splitOn sep t ≠ [] := by
  cases t with
  | nil => simp
  | cons c rest =>
    rw [splitOn_cons]
    split
    · simp
    · split <;> simp

/-- The pieces joined by the separator are the text again. -/
theorem join_splitOn (sep : CodePoint) (t : Text) :
    join [sep] (splitOn sep t) = t := by
  induction t with
  | nil => rfl
  | cons c rest ih =>
    by_cases h : c = sep
    · subst h
      rw [splitOn_sep_cons]
      cases hp : splitOn c rest with
      | nil => exact absurd hp (splitOn_ne_nil c rest)
      | cons p ps =>
        rw [hp] at ih
        simpa [join, List.intercalate] using ih
    · cases hp : splitOn sep rest with
      | nil => exact absurd hp (splitOn_ne_nil sep rest)
      | cons p ps =>
        rw [hp] at ih
        have : splitOn sep (c :: rest) = (c :: p) :: ps := by
          simp [splitOn_cons, h, hp]
        rw [this]
        cases ps with
        | nil => simpa [join, List.intercalate] using ih
        | cons q qs => simpa [join, List.intercalate] using ih

end Text

end AccessLog
