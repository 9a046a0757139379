/-
Writing events.

* `WriteFault`: why an event has no written form.
* `writeName`, `writeScalar`, `writeAttribute`: the parts of an event.
* `writeParts`: type, attribute count, the announced encoding and the
  attributes.
* `write`: the same within the size of one datagram.
* `size`: the number of bytes of an event, counted without writing it.
-/
import AccessLog.Wire.Basic

namespace AccessLog.Wire

/-- A name is that of an event or that of an attribute. -/
inductive NameRole where
  | ofEvent
  | ofAttribute
deriving DecidableEq

/-- The first thing about an event that cannot be written. -/
inductive WriteFault where
  | unencodable (fault : EncodingFault)
  | longName (role : NameRole) (name : Text)
  | longText (size : Nat)
  | manyAttributes
  | wideInt
  | tooLarge (size : Nat)
deriving DecidableEq

/-- The UTF-8 bytes of a text. -/
def utf8 (t : Text) : Except WriteFault (List UInt8) :=
  match t.toUtf8 with
  | .ok bytes => .ok bytes
  | .error fault => .error (.unencodable fault)

/-- A name: one byte for its length, then its bytes. -/
def writeName (role : NameRole) (name : Text) : Except WriteFault (List UInt8) := do
  let bytes ← utf8 name
  if maxName < bytes.length then throw (.longName role name)
  return UInt8.ofNat bytes.length :: bytes

/-- A value with the byte that tells its kind. -/
def writeScalar : Scalar → Except WriteFault (List UInt8)
  | .flag b => .ok [TypeToken.flag, if b then 1 else 0]
  | .int n =>
    if fitsInt64 n then .ok (TypeToken.int64 :: bigEndian 8 (unsigned 8 n))
    else .error .wideInt
  | .text t => do
    let bytes ← utf8 t
    if maxText < bytes.length then throw (.longText bytes.length)
    return TypeToken.text :: (bigEndian 2 bytes.length ++ bytes)

/-- An attribute: its name, then its value. -/
def writeAttribute (entry : Text × Scalar) : Except WriteFault (List UInt8) := do
  let name ← writeName .ofAttribute entry.1
  let value ← writeScalar entry.2
  return name ++ value

/-- The number of attributes, in two bytes. -/
def writeCount (count : Nat) : Except WriteFault (List UInt8) :=
  if count ≤ maxCount then .ok (bigEndian 2 count) else .error .manyAttributes

/-- The attribute that announces UTF-8: the only one with a two-byte number. -/
def announcement : List UInt8 :=
  [3, 0x65, 0x6E, 0x63, TypeToken.int16] ++ bigEndian 2 encodingUtf8

/-- The parts of an event one after the other, for an event of `count`
attributes besides the announced encoding. -/
def writeParts (type : Text) (count : Nat) (attributes : List (Text × Scalar)) :
    Except WriteFault (List UInt8) := do
  let name ← writeName .ofEvent type
  let number ← writeCount (count + 1)
  let body ← attributes.mapM writeAttribute
  return name ++ number ++ announcement ++ body.flatten

/-- An event as the payload of one datagram. -/
def write (event : Event) : Except WriteFault (List UInt8) := do
  let payload ← writeParts event.type event.attributes.length event.attributes
  if maxDatagram < payload.length then throw (.tooLarge payload.length)
  return payload

/-! ### Sizes -/

/-- The number of bytes of a text in UTF-8. -/
def utf8Size (t : Text) : Nat :=
  t.foldr (fun c n => c.utf8.length + n) 0

/-- The number of bytes of a value behind the byte that tells its kind. -/
def scalarSize : Scalar → Nat
  | .flag _ => 1
  | .int _ => 8
  | .text t => 2 + utf8Size t

/-- The number of bytes of an event: ten for lengths, count and announced
encoding, and for each attribute two besides its name and value. -/
def size (event : Event) : Nat :=
  10 + utf8Size event.type +
    event.attributes.foldr (fun entry n => 2 + utf8Size entry.1 + scalarSize entry.2 + n) 0

end AccessLog.Wire
