/-
Quoted texts and byte strings.

* `Text.quoted`: a text between quotes, with escapes for the quote, the
  backslash and whatever is not printable.
* `quotedBytes`: a byte string in the same manner, marked by a `b`.
* `CodePoint.escaped`: a code point by its number.
-/
import AccessLog.Text.Printable

namespace AccessLog

/-- The quotation mark is the apostrophe, unless the text has apostrophes and
no double quote. -/
def quoteMark (hasApostrophe hasDouble : Bool) : CodePoint :=
  if hasApostrophe && !hasDouble then '"' else '\''

namespace CodePoint

/-- A code point written by its number, in the shortest of three forms. -/
def escaped (c : CodePoint) : Text :=
  let n := c.toNat
  if n < 0x100 then "\\x" ++ Text.ofHex 2 n
  else if n < 0x10000 then "\\u" ++ Text.ofHex 4 n
  else "\\U" ++ Text.ofHex 8 n

/-- A code point inside quotes. -/
def quotedIn (mark c : CodePoint) : Text :=
  if c = mark || c = '\\' then ['\\', c]
  else if c = '\n' then "\\n"
  else if c = '\r' then "\\r"
  else if c = '\t' then "\\t"
  else if c.isPrintable then [c]
  else c.escaped

/-- A byte inside quotes; only printable ASCII stands for itself. -/
def quotedByte (mark c : CodePoint) : Text :=
  if c.toNat < 0x80 then quotedIn mark c else c.escaped

end CodePoint

/-- A text between quotes. -/
def Text.quoted (t : Text) : Text :=
  let mark := quoteMark (t.contains '\'') (t.contains '"')
  [mark] ++ t.flatMap (CodePoint.quotedIn mark) ++ [mark]

/-- A byte string between quotes. -/
def quotedBytes (bytes : List UInt8) : Text :=
  let t := bytes.map CodePoint.ofByte
  let mark := quoteMark (t.contains '\'') (t.contains '"')
  "b" ++ [mark] ++ t.flatMap (CodePoint.quotedByte mark) ++ [mark]

end AccessLog
