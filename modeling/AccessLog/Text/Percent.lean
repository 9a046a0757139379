/-
Texts inside addresses of pages.

* `isPlain`: stands for itself in every part of an address.
* `Text.percent`: all other bytes by a percent sign and two digits.
-/
import AccessLog.Text.Case
import AccessLog.Text.Encoding

namespace AccessLog

namespace CodePoint

/-- A letter or digit of ASCII, or one of `_`, `.`, `-` and `~`. -/
def isPlain (c : CodePoint) : Bool :=
  let n := c.toNat
  c.isDigit || (0x41 ≤ n && n ≤ 0x5A) || (0x61 ≤ n && n ≤ 0x7A) ||
    "_.-~".toList.any fun d => c = d

end CodePoint

/-- The bytes of a text, each by its number unless it stands for itself or is
one of the given signs. -/
def Text.percent (signs : List Char) (t : Text) : Except EncodingFault Text := do
  let bytes ← t.toUtf8
  return bytes.flatMap fun b =>
    let c := CodePoint.ofByte b
    if c.isPlain || signs.any fun d => c = d then [c]
    else '%' :: (Text.ofHex 2 b.toNat).upperLatin

end AccessLog
