/-
Tokens.

* `Extracted`: what a token gives, with the attempts to ask whether it is true
  and to show it as a text.
* `Extractor`: a token, which looks at an exchange and may take an argument.
* `Tokens`: the registry; names are added or overwritten, never removed.
* `Tokens.extractor`: the extractor of a name that must be registered.
-/
import AccessLog.Exchange.View

namespace AccessLog

/-- What a token gives. An object decides for itself whether it counts as true
and how it is shown. -/
structure Extracted where
  value : Value
  /-- Whether the value counts as true; asking an object may fail. -/
  truth : Except Failure Bool
  /-- The value as a text; showing an object may fail. -/
  shown : Except Failure Text

/-- A plain value counts as true, and shows itself, as its kind does. -/
def Extracted.ofValue (v : Value) : Extracted :=
  ⟨v, .ok v.truthy, .ok v.shown⟩

/-- A token looks at an exchange; its argument is absent or a text. -/
abbrev Extractor := View → Value → Except Failure Extracted

/-- Tokens under their names, in the order of registration. -/
abbrev Tokens := Table Extractor

namespace Tokens

/-- The extractor of a name. -/
def lookup (tokens : Tokens) (name : Text) : Option Extractor :=
  tokens.get? name

/-- The extractor of a name that must be registered. -/
def extractor (tokens : Tokens) (name : Text) : Except Failure Extractor :=
  match tokens.lookup name with
  | some f => .ok f
  | none => .error (.plain (.unknownToken (.text name)))

/-- Registered under a name from now on. -/
def register (tokens : Tokens) (name : Text) (f : Extractor) : Tokens :=
  tokens.put name f

end Tokens

end AccessLog
