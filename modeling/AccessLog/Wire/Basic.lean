/-
Events and their layout on the wire.

* `Scalar`: the values an attribute can have on the wire.
* `Event`: a type and attributes in order.
* `maxDatagram`: the largest payload of one datagram.
* `TypeToken.text`, `TypeToken.int16`, `TypeToken.int64`, `TypeToken.flag`: the
  byte in front of a value that tells its kind.
* `bigEndian`, `ofBigEndian`: numbers as bytes, the most significant first.
-/
import AccessLog.Table
import AccessLog.Text.Encoding
import AccessLog.Value.Display

namespace AccessLog.Wire

/-- An attribute is a flag, an integer or a text. -/
inductive Scalar where
  | flag (b : Bool)
  | int (n : Int)
  | text (t : Text)
deriving DecidableEq

/-- Whatever is neither a flag nor an integer is written as the text that shows
it. -/
def Scalar.ofValue : Value → Scalar
  | .flag b => flag b
  | .int n => int n
  | v => text v.shown

/-- The value of a scalar. -/
def Scalar.toValue : Scalar → Value
  | flag b => .flag b
  | int n => .int n
  | text t => .text t

/-- An event has a type and attributes in order. -/
structure Event where
  type : Text
  attributes : Table Scalar
deriving DecidableEq

/-- The largest payload of a datagram. -/
def maxDatagram : Nat := 65507

/-- The largest number of bytes of a name. -/
def maxName : Nat := 255

/-- The largest number of bytes of a text value. -/
def maxText : Nat := 65535

/-- The largest number of attributes, the announced encoding included. -/
def maxCount : Nat := 65535

/-- The attribute that announces the encoding of the texts. -/
def encodingName : Text := "enc"

/-- The number that stands for UTF-8. -/
def encodingUtf8 : Nat := 1

namespace TypeToken

/-- A signed number of two bytes follows. -/
def int16 : UInt8 := 0x02

/-- A text with a length of two bytes follows. -/
def text : UInt8 := 0x05

/-- A signed number of eight bytes follows. -/
def int64 : UInt8 := 0x07

/-- One byte follows, zero for false. -/
def flag : UInt8 := 0x09

end TypeToken

/-! ### Numbers -/

/-- The last `width` base-256 digits of a number, the most significant first. -/
def bigEndian : (width n : Nat) → List UInt8
  | 0, _ => []
  | width + 1, n => bigEndian width (n / 256) ++ [UInt8.ofNat n]

/-- The number with the given base-256 digits. -/
def ofBigEndian (bytes : List UInt8) : Nat :=
  bytes.foldl (fun n b => 256 * n + b.toNat) 0

/-- How many numbers `width` bytes can tell apart. -/
def capacity (width : Nat) : Nat :=
  Nat.pow 256 width

/-- The signed number that `width` bytes stand for. -/
def signed (width n : Nat) : Int :=
  if 2 * n < capacity width then n else (n : Int) - capacity width

/-- The unsigned number with the same `width` bytes as a signed one. -/
def unsigned (width : Nat) (n : Int) : Nat :=
  (n % capacity width).toNat

/-- An integer fits into eight bytes. -/
def fitsInt64 (n : Int) : Bool :=
  -0x8000000000000000 ≤ n && n < 0x8000000000000000

@[simp] theorem length_bigEndian (width n : Nat) : (bigEndian width n).length = width := by
  induction width generalizing n with
  | zero => rfl
  | succ w ih => simp [bigEndian, ih]

theorem capacity_succ (width : Nat) : capacity (width + 1) = 256 * capacity width :=
  Nat.pow_succ'

theorem ofBigEndian_append (bs : List UInt8) (b : UInt8) :
    ofBigEndian (bs ++ [b]) = 256 * ofBigEndian bs + b.toNat := by
  simp [ofBigEndian]

/-- Reading the digits gives the number back, as far as the width reaches. -/
theorem ofBigEndian_bigEndian (width n : Nat) :
    ofBigEndian (bigEndian width n) = n % capacity width := by
  induction width generalizing n with
  | zero => simp [bigEndian, ofBigEndian, capacity, Nat.mod_one]
  | succ w ih =>
    rw [bigEndian, ofBigEndian_append, ih, capacity_succ, Nat.mod_mul]
    simp [UInt8.toNat_ofNat']
    omega

end AccessLog.Wire
