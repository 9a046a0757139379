/-
White space.

* `CodePoint.isWhiteSpace`: the property `White_Space` of Unicode.
* `CodePoint.isBlank`: white space and the four separators `U+001C` to
  `U+001F`; a text is trimmed of blanks and broken into words at them.
* `Text.trim`: without the blanks at both ends.
* `Text.words`: the maximal runs without a blank.
-/
import AccessLog.Text.Ranges

namespace AccessLog

/-- The code points with the property `White_Space`. -/
def whiteSpaceRanges : Ranges :=
  [(0x9, 0xD), (0x20, 0x20), (0x85, 0x85), (0xA0, 0xA0), (0x1680, 0x1680),
    (0x2000, 0x200A), (0x2028, 0x2029), (0x202F, 0x202F), (0x205F, 0x205F),
    (0x3000, 0x3000)]

namespace CodePoint

/-- White space in the sense of Unicode. -/
def isWhiteSpace (c : CodePoint) : Bool :=
  whiteSpaceRanges.contains c.toNat

/-- White space or an information separator. -/
def isBlank (c : CodePoint) : Bool :=
  c.isWhiteSpace || (0x1C ≤ c.toNat && c.toNat ≤ 0x1F)

end CodePoint

namespace Text

/-- Without the code points of a class at both ends. -/
def trimBy (p : CodePoint → Bool) (t : Text) : Text :=
  ((t.dropWhile p).reverse.dropWhile p).reverse

/-- Without the blanks at both ends. -/
def trim (t : Text) : Text :=
  t.trimBy CodePoint.isBlank

/-- A word under construction, put in front of the words after it. -/
def closeWord : Text × List Text → List Text
  | ([], words) => words
  | (word, words) => word :: words

/-- The maximal runs without a blank, in order. -/
def words (t : Text) : List Text :=
  closeWord <| t.foldr (fun c (word, rest) =>
    if c.isBlank then ([], closeWord (word, rest)) else (c :: word, rest)) ([], [])

end Text

end AccessLog
