/-
Formats as lists of entries, and their rendering.

* `Record`: fields with their texts, in order.
* `CompiledFormat`: the items of a format with their entries.
* `TokenCall`, `Rendered`: the extractors that were called, and the result.
* `CompiledFormat.render`: one text per entry; a later entry of the same field
  replaces the text of an earlier one. The first entry that fails ends it.
* `Renderer`: a compiled format, or any other way to make a record.
-/
import AccessLog.Format.Specifier
import AccessLog.Token.Basic

namespace AccessLog

/-- Fields with their texts. -/
abbrev Record := Table Text

/-- A record as a value. -/
def Record.toValue (r : Record) : Value :=
  .dict (r.map fun (field, t) => (.text field, .text t))

/-- What stands for missing data. -/
def missing : Text := "-"

/-- The items of a format with what they stand for. -/
structure CompiledFormat where
  specifiers : List Value
  entries : List Entry
deriving DecidableEq

namespace CompiledFormat

/-- The format of a list of items, each read once. -/
def ofItems (items : List Value) : CompiledFormat :=
  ⟨items, items.map Entry.ofValue⟩

/-- The fields of the entries, with repetitions. -/
def fields (f : CompiledFormat) : List Text :=
  f.entries.map Entry.field

/-- The text that shows a format by its items. -/
def shown (f : CompiledFormat) : Text :=
  "CompiledFormat(" ++ (Value.list f.specifiers).quoted ++ ")"

end CompiledFormat

/-- The text of what a token gave: missing data for a value that is not true,
which is asked first and not shown then. -/
def Extracted.text (x : Extracted) : Except Failure Text :=
  match x.truth with
  | .error e => .error e
  | .ok true => x.shown
  | .ok false => .ok missing

/-- The argument as tokens are given it. -/
def argumentValue : Option Text → Value
  | none => .null
  | some t => .text t

/-- One call of an extractor. -/
structure TokenCall where
  name : Text
  argument : Value
deriving DecidableEq

/-- What came of an attempt to render: the extractors that were called, in
order, and the result. -/
structure Rendered (α : Type) where
  calls : List TokenCall
  result : Except Failure α

/-- The text of one entry. -/
def Entry.render (tokens : Tokens) (view : View) : Entry → Rendered Text
  | token name argument =>
    match tokens.extractor name with
    | .error e => ⟨[], .error e⟩
    | .ok f =>
      let argument := argumentValue argument
      ⟨[⟨name, argument⟩], (f view argument).bind Extracted.text⟩
  | literal text => ⟨[], .ok text⟩
  | malformed item => ⟨[], .error (.plain (.malformedSpecifier item))⟩

/-- The texts of some entries, put into a record. -/
def renderEntries (tokens : Tokens) (view : View) (record : Record) :
    List Entry → Rendered Record
  | [] => ⟨[], .ok record⟩
  | entry :: rest =>
    let first := entry.render tokens view
    match first.result with
    | .error e => ⟨first.calls, .error e⟩
    | .ok t =>
      let others := renderEntries tokens view (record.put entry.field t) rest
      ⟨first.calls ++ others.calls, others.result⟩

namespace CompiledFormat

/-- The record of a format, with the extractors that were called for it. -/
def run (f : CompiledFormat) (tokens : Tokens) (view : View) : Rendered Record :=
  renderEntries tokens view [] f.entries

/-- The record of a format. -/
def render (f : CompiledFormat) (tokens : Tokens) (view : View) : Except Failure Record :=
  (f.run tokens view).result

end CompiledFormat

/-- Any other way to make a record, with the text that shows it; it may decide
against a record. -/
structure CustomRenderer where
  shown : Text
  render : Tokens → View → Except Failure Value

/-- A compiled format, or any other way to make a record. -/
inductive Renderer where
  | compiled (format : CompiledFormat)
  | custom (renderer : CustomRenderer)

namespace Renderer

/-- The record, or nothing if there is none to be kept. -/
def render (r : Renderer) (tokens : Tokens) (view : View) : Except Failure Value :=
  match r with
  | compiled f => (f.render tokens view).map Record.toValue
  | custom c => c.render tokens view

/-- The text that shows a renderer. -/
def shown : Renderer → Text
  | compiled f => f.shown
  | custom c => c.shown

end Renderer

end AccessLog
