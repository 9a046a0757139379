/-
Values as JSON.

* `JsonStyle`: whether all is written in ASCII, whether keys are in order, and
  what stands between items and behind keys.
* `JsonStyle.line`: one line of a log; `JsonStyle.body`: the body of a reply.
* `JsonStyle.quoted`: a text in quotes; in ASCII, what lies beyond 16 bits is a
  pair of units.
* `JsonStyle.written`: a value.
-/
import AccessLog.Table
import AccessLog.Value.Display

namespace AccessLog

/-- How JSON is written. -/
structure JsonStyle where
  /-- Everything that is not printable ASCII is escaped. -/
  ascii : Bool
  /-- The keys of mappings are in order. -/
  ordered : Bool
  /-- Stands between two items. -/
  comma : Text
  /-- Stands between a key and its value. -/
  colon : Text

namespace CodePoint

/-- One 16-bit unit by its number. -/
def jsonUnit (n : Nat) : Text :=
  "\\u" ++ Text.ofHex 4 n

/-- The units of a code point. -/
def jsonUnits (c : CodePoint) : Text :=
  let n := c.toNat
  if n < 0x10000 then jsonUnit n
  else jsonUnit (0xD800 + (n - 0x10000) / 0x400) ++ jsonUnit (0xDC00 + (n - 0x10000) % 0x400)

/-- A code point inside the quotes of JSON. -/
def json (ascii : Bool) (c : CodePoint) : Text :=
  if c = '"' || c = '\\' then ['\\', c]
  else if c = '\n' then "\\n"
  else if c = '\r' then "\\r"
  else if c = '\t' then "\\t"
  else if c.toNat = 8 then "\\b"
  else if c.toNat = 12 then "\\f"
  else if c.toNat < 0x20 || (ascii && 0x7E < c.toNat) then c.jsonUnits
  else [c]

end CodePoint

namespace JsonStyle

/-- One line of a log. -/
def line : JsonStyle := ⟨true, true, ", ", ": "⟩

/-- The body of a reply. -/
def body : JsonStyle := ⟨false, false, ",", ":"⟩

/-- A text in quotes. -/
def quoted (style : JsonStyle) (t : Text) : Text :=
  "\"" ++ t.flatMap (CodePoint.json style.ascii) ++ "\""

/-- Items between brackets. -/
def array (style : JsonStyle) (items : List Text) : Text :=
  "[" ++ Text.join style.comma items ++ "]"

/-- Entries between braces. -/
def object (style : JsonStyle) (entries : Table Text) : Text :=
  let entries := if style.ordered then Table.sorted entries else entries
  "\x7b" ++ Text.join style.comma (entries.map fun (k, v) => style.quoted k ++ style.colon ++ v) ++
    "\x7d"

mutual

/-- A value as JSON; one that JSON has no form for is the text that shows it. -/
def written (style : JsonStyle) : Value → Text
  | .null => "null"
  | .flag b => if b then "true" else "false"
  | .int n => Text.ofInt n
  | .float .nan => "NaN"
  | .float (.inf negative) => if negative then "-Infinity" else "Infinity"
  | .float x => x.shown
  | .text t => style.quoted t
  | .list xs => style.array (writtenAll style xs)
  | .tuple xs => style.array (writtenAll style xs)
  | .dict es => style.object (writtenEntries style es)
  | .bytes bs => style.quoted (quotedBytes bs)
  | .object shown => style.quoted shown

/-- Several values as JSON. -/
def writtenAll (style : JsonStyle) : List Value → List Text
  | [] => []
  | x :: xs => written style x :: writtenAll style xs

/-- Entries with their values as JSON; a key that is no text is one by its
written form. -/
def writtenEntries (style : JsonStyle) : List (Value × Value) → Table Text
  | [] => []
  | (.text k, v) :: es => (k, written style v) :: writtenEntries style es
  | (k, v) :: es => (written style k, written style v) :: writtenEntries style es

end

end JsonStyle

end AccessLog
