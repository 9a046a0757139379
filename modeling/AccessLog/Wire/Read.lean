/-
Reading events.

* `ReadFault`: why bytes are no event.
* `Cursor`: how far a payload has been read.
* `readName`, `readValue`, `readScalar`, `readAttributes`: the parts of an
  event; a text ends with the payload, and only numbers need all their bytes.
* `read`: the event at the front of a payload; bytes after it are not looked at.
-/
import AccessLog.Wire.Basic

namespace AccessLog.Wire

/-- The first thing about a payload that cannot be read. -/
inductive ReadFault where
  | undecodable (fault : DecodingFault)
  | short (offset need size : Nat)
  | unsupported (token : UInt8)
deriving DecidableEq

/-- The rest of a payload; the offset can lie behind the end. -/
structure Cursor where
  size : Nat
  offset : Nat
  rest : List UInt8
deriving DecidableEq

/-- The cursor in front of a payload. -/
def Cursor.start (payload : List UInt8) : Cursor :=
  ⟨payload.length, 0, payload⟩

/-- The cursor behind the next `n` bytes. -/
def Cursor.skip (c : Cursor) (n : Nat) : Cursor :=
  ⟨c.size, c.offset + n, c.rest.drop n⟩

/-- The number in the next `width` bytes, all of which must be there. -/
def readNumber (width : Nat) (c : Cursor) : Except ReadFault (Nat × Cursor) :=
  let bytes := c.rest.take width
  if bytes.length < width then .error (.short c.offset width c.size)
  else .ok (ofBigEndian bytes, c.skip width)

/-- The text in the next `length` bytes, or in those that are left. -/
def readText (length : Nat) (c : Cursor) : Except ReadFault (Text × Cursor) :=
  match Text.ofUtf8 (c.rest.take length) with
  | .ok t => .ok (t, c.skip length)
  | .error fault => .error (.undecodable fault)

/-- A name with its length in front. -/
def readName (c : Cursor) : Except ReadFault (Text × Cursor) := do
  let (length, c) ← readNumber 1 c
  readText length c

/-- A value whose kind is known. -/
def readValue (token : UInt8) (c : Cursor) : Except ReadFault (Scalar × Cursor) := do
  if token = TypeToken.text then
    let (length, c) ← readNumber 2 c
    let (t, c) ← readText length c
    return (.text t, c)
  else if token = TypeToken.int16 then
    let (n, c) ← readNumber 2 c
    return (.int (signed 2 n), c)
  else if token = TypeToken.int64 then
    let (n, c) ← readNumber 8 c
    return (.int (signed 8 n), c)
  else if token = TypeToken.flag then
    let (n, c) ← readNumber 1 c
    return (.flag (n != 0), c)
  else throw (.unsupported token)

/-- A value with the byte that tells its kind in front. -/
def readScalar (c : Cursor) : Except ReadFault (Scalar × Cursor) := do
  let (token, c) ← readNumber 1 c
  readValue (UInt8.ofNat token) c

/-- The next `count` attributes, put behind those read before; a name that
comes again keeps its place and takes the new value. -/
def readAttributes (attributes : Table Scalar) :
    (count : Nat) → Cursor → Except ReadFault (Table Scalar × Cursor)
  | 0, c => .ok (attributes, c)
  | count + 1, c => do
    let (name, c) ← readName c
    let (value, c) ← readScalar c
    readAttributes (attributes.put name value) count c

/-- The event at the front of a payload, and the cursor behind it. -/
def readEvent (payload : List UInt8) : Except ReadFault (Event × Cursor) := do
  let (type, c) ← readName (.start payload)
  let (count, c) ← readNumber 2 c
  let (attributes, c) ← readAttributes [] count c
  return (⟨type, attributes⟩, c)

/-- The event at the front of a payload. -/
def read (payload : List UInt8) : Except ReadFault Event := do
  let (event, _) ← readEvent payload
  return event

end AccessLog.Wire
