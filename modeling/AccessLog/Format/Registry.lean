/-
Formats under names.

* `FormatDefinition`: a list of items, or a renderer.
* `Formats`: definitions with the formats compiled from them so far.
* `Formats.define`: a new definition; what was compiled from the old one is
  forgotten.
* `Formats.resolve`: the renderer that a format option stands for. A format is
  compiled at its first use under a name and kept.
* `Resolved`: a renderer with its identity, so that one kept and one compiled
  anew can be told apart.
* `Formats.builtIn`: the formats `default`, `short` and `tiny`.
-/
import AccessLog.Diagnostics.Notice
import AccessLog.Format.Compiled
import AccessLog.Text.Blank

namespace AccessLog

/-- Formats under names, over renderers of any kind. -/
inductive FormatDefinition (ρ : Type) where
  | items (specifiers : List Value)
  | renderer (r : ρ)
deriving DecidableEq

/-- A compiled format and the number of its compilation. -/
structure Compilation where
  format : CompiledFormat
  number : Nat
deriving DecidableEq

/-- Definitions in order, what was compiled from them, and how many formats
have been compiled so far. -/
structure Formats (ρ : Type) where
  definitions : Table (FormatDefinition ρ) := []
  compiled : Table Compilation := []
  compilations : Nat := 0

/-- A format option: a value, or a renderer, which may count as not true; asking
it may fail. -/
inductive FormatOption (ρ : Type) where
  | value (v : Value)
  | renderer (r : ρ) (truth : Except Failure Bool := .ok true)

/-- The renderer that an option stands for. -/
inductive Resolved (ρ : Type) where
  | compiled (c : Compilation)
  | renderer (r : ρ)
deriving DecidableEq

namespace Formats

variable {ρ : Type}

/-- A new definition of a name; a value must have elements, and a renderer is not
asked whether it counts as true. -/
def define (formats : Formats ρ) (name : Text) (option : FormatOption ρ) :
    Except Failure (Formats ρ) :=
  match option with
  | .renderer r _ =>
    .ok { formats with
      definitions := formats.definitions.put name (.renderer r)
      compiled := formats.compiled.erase name }
  | .value v =>
    match v.items? with
    | none => .error .wrongType
    | some items =>
      .ok { formats with
        definitions := formats.definitions.put name (.items items)
        compiled := formats.compiled.erase name }

/-- The definition of a name. -/
def get? (formats : Formats ρ) (name : Text) : Option (FormatDefinition ρ) :=
  formats.definitions.get? name

/-- The name is defined. -/
def has (formats : Formats ρ) (name : Text) : Bool :=
  formats.definitions.has name

/-- The defined names in order. -/
def names (formats : Formats ρ) : List Text :=
  formats.definitions.names

/-- Compiles a format that is not kept under a name. -/
def compile (formats : Formats ρ) (items : List Value) : Compilation × Formats ρ :=
  (⟨.ofItems items, formats.compilations⟩,
    { formats with compilations := formats.compilations + 1 })

/-- The renderer of a name, with the registry afterwards. -/
def named (formats : Formats ρ) (name : Text) : Except Failure (Resolved ρ × Formats ρ) :=
  match formats.get? name with
  | none => .error (.missingKey (.text name))
  | some (.renderer r) => .ok (.renderer r, formats)
  | some (.items items) =>
    match formats.compiled.get? name with
    | some c => .ok (.compiled c, formats)
    | none =>
      let (c, formats) := formats.compile items
      .ok (.compiled c, { formats with compiled := formats.compiled.put name c })

/-- The name of the format for an option that is not given. -/
def defaultName : Text := "default"

/-- The renderer that an option stands for, with the registry afterwards: an
option that is not true stands for the default, even if it is a renderer; any
other renderer stands for itself, a text for the format of that name or else for
the specifiers it is made of, and any other value for its elements. -/
def resolve (formats : Formats ρ) (option : FormatOption ρ) :
    Except Failure (Resolved ρ × Formats ρ) :=
  match option with
  | .renderer r truth =>
    match truth with
    | .error e => .error e
    | .ok true => .ok (.renderer r, formats)
    | .ok false => formats.named defaultName
  | .value v =>
    if !v.truthy then formats.named defaultName
    else match v with
      | .text t =>
        if formats.has t then formats.named t
        else
          let (c, formats) := formats.compile (t.words.map .text)
          .ok (.compiled c, formats)
      | v => match v.items? with
        | none => .error .wrongType
        | some items =>
          let (c, formats) := formats.compile items
          .ok (.compiled c, formats)

/-- Fields of the record of a finished exchange. -/
def defaultItems : List Value :=
  [":remote-addr", ":date", ":method", ":url", ":http-version", ":status",
    ":response[content-length]", ":referrer", ":user-agent", ":response-time"]

/-- The same without the date and what the client tells of itself. -/
def shortItems : List Value :=
  [":remote-addr", ":method", ":url", ":http-version", ":status",
    ":response[content-length]", ":response-time"]

/-- The least that tells one exchange from another. -/
def tinyItems : List Value :=
  [":method", ":url", ":status", ":response[content-length]", ":response-time"]

/-- The formats that are there from the start. -/
def builtIn : Formats ρ :=
  { definitions := [(defaultName, .items defaultItems), ("short", .items shortItems),
      ("tiny", .items tinyItems)] }

end Formats

namespace Resolved

/-- The notice that a format was compiled after the given state of the
registry. -/
def notices {ρ : Type} (before : Formats ρ) : Resolved ρ → List Notice
  | compiled c =>
    if before.compilations ≤ c.number then [.compiledFormat c.format.fields] else []
  | renderer _ => []

/-- The renderer itself. -/
def toRenderer : Resolved CustomRenderer → Renderer
  | compiled c => .compiled c.format
  | renderer r => .custom r

end Resolved

end AccessLog
