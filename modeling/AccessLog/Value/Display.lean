/-
Values as texts.

* `Value.quoted`: the text that shows a value and its kind.
* `Value.shown`: the same, but a text stands for itself.
-/
import AccessLog.Decimal.Shortest
import AccessLog.Text.Quoted
import AccessLog.Value.Basic

namespace AccessLog

namespace Value

/-- Items between brackets, separated by commas. -/
def bracketed (opening : Text) (items : List Text) (closing : Text) : Text :=
  opening ++ Text.join ", " items ++ closing

/-- A tuple of one item has a comma behind it. -/
def tupleText : List Text → Text
  | [item] => "(" ++ item ++ ",)"
  | items => bracketed "(" items ")"

mutual

/-- The text that shows a value and its kind. -/
def quoted : Value → Text
  | null => "None"
  | flag b => if b then "True" else "False"
  | int n => Text.ofInt n
  | float x => x.shown
  | text t => t.quoted
  | bytes bs => quotedBytes bs
  | list xs => bracketed "[" (quotedAll xs) "]"
  | tuple xs => tupleText (quotedAll xs)
  | dict es => bracketed "\x7b" (quotedEntries es) "\x7d"
  | object shown => shown

/-- The quoted forms of several values. -/
def quotedAll : List Value → List Text
  | [] => []
  | x :: xs => quoted x :: quotedAll xs

/-- The entries of a mapping, each with a colon between key and value. -/
def quotedEntries : List (Value × Value) → List Text
  | [] => []
  | (k, v) :: es => (quoted k ++ ": " ++ quoted v) :: quotedEntries es

end

/-- A text stands for itself; any other value is quoted. -/
def shown : Value → Text
  | text t => t
  | v => v.quoted

@[simp] theorem shown_text (t : Text) : (text t).shown = t := rfl

end Value

end AccessLog
