/-
Token specifiers.

* `fieldName`: the name of a field, from a token and its argument.
* `Entry`: what one item of a format stands for: a token, a literal text, or
  nothing that could be rendered.
* `Entry.ofValue`: the entry of an item; `:name` and `:name[argument]` are
  tokens, any other text but the empty one is a literal.
* `Specifier.IsName`, `Specifier.IsArgument`, `Specifier.written`: the grammar
  of specifiers, said without reading one.
-/
import AccessLog.Text.Word
import AccessLog.Failure

namespace AccessLog

/-- Hyphens have no place in a field name. -/
def underscored (t : Text) : Text :=
  t.replace '-' '_'

/-- The field of a token: its name, and its argument if it has one. -/
def fieldName (name : Text) (argument : Option Text) : Text :=
  match argument with
  | none => underscored name
  | some argument =>
    if argument.isEmpty then underscored name
    else underscored name ++ "_" ++ underscored argument

/-- What one item of a format stands for. -/
inductive Entry where
  /-- A token with an optional argument. -/
  | token (name : Text) (argument : Option Text)
  /-- A text that stands for itself. -/
  | literal (text : Text)
  /-- Neither; an attempt to render it fails. -/
  | malformed (item : Value)
deriving DecidableEq

namespace Entry

/-- The field of an entry. -/
def field : Entry → Text
  | token name argument => fieldName name argument
  | literal text => underscored text
  | malformed _ => []

end Entry

namespace Specifier

/-- A code point of a token name. -/
def isNameChar (c : CodePoint) : Bool :=
  c = '-' || c.isWord

/-- An argument is not empty and does not hold the bracket that ends it. -/
def isArgument (t : Text) : Bool :=
  !t.isEmpty && !t.contains ']'

/-- A token name has two characters or more. -/
def IsName (t : Text) : Prop :=
  2 ≤ t.length ∧ ∀ c ∈ t, isNameChar c = true

/-- An argument. -/
def IsArgument (t : Text) : Prop :=
  t ≠ [] ∧ CodePoint.ofChar ']' ∉ t

instance (t : Text) : Decidable (IsName t) :=
  inferInstanceAs (Decidable (_ ∧ _))

instance (t : Text) : Decidable (IsArgument t) :=
  inferInstanceAs (Decidable (_ ∧ _))

/-- The specifier of a token. -/
def written (name : Text) (argument : Option Text) : Text :=
  match argument with
  | none => ":" ++ name
  | some argument => ":" ++ name ++ "[" ++ argument ++ "]"

/-- The part between brackets, if the text is one that ends with the second
of them. -/
def bracketed? (t : Text) : Option Text :=
  match t with
  | c :: rest =>
    if c = '[' then
      match rest.getLast? with
      | some last => if last = ']' then some rest.dropLast else none
      | none => none
    else none
  | [] => none

/-- Name and argument of a token specifier. -/
def parts? (t : Text) : Option (Text × Option Text) :=
  match t with
  | [] => none
  | c :: rest =>
    if c = ':' then
      let name := rest.takeWhile isNameChar
      let tail := rest.dropWhile isNameChar
      if 2 ≤ name.length then
        if tail.isEmpty then some (name, none)
        else match bracketed? tail with
          | some argument =>
            if isArgument argument then some (name, some argument) else none
          | none => none
      else none
    else none

end Specifier

/-- The entry that an item of a format stands for. -/
def Entry.ofValue : Value → Entry
  | .text t =>
    if t.isEmpty then malformed (.text t)
    else match Specifier.parts? t with
      | some (name, argument) => token name argument
      | none => literal t
  | v => malformed v

namespace Specifier

theorem isArgument_iff {t : Text} : isArgument t = true ↔ IsArgument t := by
  simp [isArgument, IsArgument]

end Specifier

/-- Hyphens have no place in a field name: any text, and any text as argument;
an argument that counts as absent adds nothing. -/
def fieldNameOf (name argument : Value) : Except Failure Text :=
  match name with
  | .text name =>
    if !argument.truthy then .ok (underscored name)
    else match argument with
      | .text argument => .ok (fieldName name (some argument))
      | .bytes _ => .error .wrongType
      | _ => .error .missingAttribute
  | .bytes _ => .error .wrongType
  | _ => .error .missingAttribute

end AccessLog
