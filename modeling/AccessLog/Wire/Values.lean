/-
Events given as values.

* `namedScalars`: the entries of a mapping up to the first whose name is no
  text.
* `writeValues`: the payload of an event whose type and attributes may be
  values of any kind.
-/
import AccessLog.Failure

namespace AccessLog.Wire

/-- An entry whose name is a text. -/
def named? : Value × Value → Option (Text × Scalar)
  | (.text name, v) => some (name, .ofValue v)
  | _ => none

/-- The entries up to the first whose name is no text, and whether there are no
others. -/
def namedScalars (entries : List (Value × Value)) : List (Text × Scalar) × Bool :=
  ((entries.takeWhile (·.1.isText)).filterMap named?, entries.all (·.1.isText))

/-- How many elements a value has, if it can be asked for that. -/
def length? : Value → Option Nat
  | .text t => some t.length
  | .bytes bs => some bs.length
  | .list xs => some xs.length
  | .tuple xs => some xs.length
  | .dict es => some es.length
  | _ => none

/-- The failure of writing, if it is one. -/
def orFailure {α : Type} : Except WriteFault α → Except Failure α
  | .ok a => .ok a
  | .error fault => .error fault.toFailure

/-- The payload of an event given by values. -/
def writeValues (type attributes : Value) : Except Failure (List UInt8) :=
  match type with
  | .text type => do
    let _ ← orFailure (writeName .ofEvent type)
    match length? attributes with
    | none => throw .wrongType
    | some count =>
      let (entries, complete) := match attributes with
        | .dict entries => namedScalars entries
        | _ => ([], false)
      let payload ← orFailure (writeParts type count entries)
      if !complete then throw .missingAttribute
      if maxDatagram < payload.length then throw (WriteFault.tooLarge payload.length).toFailure
      return payload
  | _ => .error .missingAttribute

/-- The attributes of an event as a mapping. -/
def attributeValues (attributes : Table Scalar) : List (Value × Value) :=
  attributes.map fun (name, v) => (.text name, v.toValue)

end AccessLog.Wire
