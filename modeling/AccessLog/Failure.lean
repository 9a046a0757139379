/-
Failures.

* `Fault`: what goes wrong in access logging itself, with its wording.
* `Issue`: one reason why an option or a setting was refused.
* `Failure`: everything that can end a computation early, by cause.
* `Failure.message?`: the wording of a failure; a value of a wrong kind has
  none.
* `Failure.isOrdinary`: all but a cancellation.
-/
import AccessLog.Wire.Read
import AccessLog.Wire.Write

namespace AccessLog

/-- What goes wrong in access logging itself. -/
inductive Fault where
  | general (message : Value)
  | format (message : Value)
  | emission (message : Value)
  | options (message : Value)
  | unknownToken (name : Value)
  | malformedSpecifier (specifier : Value)
  | eventTooLarge (size limit : Value)
deriving DecidableEq

/-- The wording of a fault. -/
def Fault.message : Fault → Value
  | general message => message
  | format message => message
  | emission message => message
  | options message => message
  | unknownToken name => .text ("Unknown token ':" ++ name.shown ++ "'")
  | malformedSpecifier specifier =>
    .text ("Malformed format specifier: " ++ specifier.quoted)
  | eventTooLarge size limit =>
    .text ("Serialized event is " ++ size.shown ++ " bytes, limit is " ++ limit.shown)

/-- A fault in making or sending an event. -/
def Fault.isEmission : Fault → Bool
  | emission _ => true
  | eventTooLarge _ _ => true
  | _ => false

/-! ### Refused options -/

/-- Why a given value was refused. -/
inductive Refusal where
  | notInteger
  | integerText
  | integerTooLong
  | fractional
  | notFinite
  | notAbove (bound : Int)
  | notBelow (bound : Int)
  | notAtLeast (bound : Int)
  | notAtMost (bound : Int)
  | notText
  | notUtf8
  | notFlag
  | flagText
  | notAmong (names : List Text)
  | stated (message : Text)
deriving DecidableEq

namespace Refusal

/-- The short name of a refusal. -/
def name : Refusal → Text
  | notInteger => "int_type"
  | integerText => "int_parsing"
  | integerTooLong => "int_parsing_size"
  | fractional => "int_from_float"
  | notFinite => "finite_number"
  | notAbove _ => "greater_than"
  | notBelow _ => "less_than"
  | notAtLeast _ => "greater_than_equal"
  | notAtMost _ => "less_than_equal"
  | notText => "string_type"
  | notUtf8 => "string_unicode"
  | notFlag => "bool_type"
  | flagText => "bool_parsing"
  | notAmong _ => "enum"
  | stated _ => "value_error"

/-- Names in quotes, with commas and a final `or` between them. -/
def alternatives : List Text → Text
  | [] => []
  | [a] => a.quoted
  | [a, b] => a.quoted ++ " or " ++ b.quoted
  | a :: rest => a.quoted ++ ", " ++ alternatives rest

/-- The wording of a refusal. -/
def message : Refusal → Text
  | notInteger => "Input should be a valid integer"
  | integerText =>
    "Input should be a valid integer, unable to parse string as an integer"
  | integerTooLong => "Unable to parse input string as an integer, exceeded maximum size"
  | fractional => "Input should be a valid integer, got a number with a fractional part"
  | notFinite => "Input should be a finite number"
  | notAbove bound => "Input should be greater than " ++ Text.ofInt bound
  | notBelow bound => "Input should be less than " ++ Text.ofInt bound
  | notAtLeast bound => "Input should be greater than or equal to " ++ Text.ofInt bound
  | notAtMost bound => "Input should be less than or equal to " ++ Text.ofInt bound
  | notText => "Input should be a valid string"
  | notUtf8 => "Input should be a valid string, unable to parse raw data as a unicode string"
  | notFlag => "Input should be a valid boolean"
  | flagText => "Input should be a valid boolean, unable to interpret input"
  | notAmong names => "Input should be " ++ alternatives names
  | stated message => "Value error, " ++ message

end Refusal

/-- A refusal with the name of the option, or with none if it concerns several. -/
structure Issue where
  location : List Text
  refusal : Refusal
deriving DecidableEq

/-! ### Failures -/

/-- The ways in which bytes do not fit their layout. -/
inductive LayoutFault where
  | wideInt
  | wideCount
  | short (offset need size : Nat)
deriving DecidableEq

/-- The wording of a layout fault. -/
def LayoutFault.message : LayoutFault → Text
  | wideInt => "int too large to convert"
  | wideCount => "'H' format requires 0 <= number <= 65535"
  | short offset need size =>
    "unpack_from requires a buffer of at least " ++ Text.ofNat (offset + need) ++
      " bytes for unpacking " ++ Text.ofNat need ++ " bytes at offset " ++ Text.ofNat offset ++
      " (actual buffer size is " ++ Text.ofNat size ++ ")"

/-- Everything that can end a computation early. -/
inductive Failure where
  | fault (fault : Fault) (details : List (Value × Value))
  | invalid (issues : List Issue)
  | refusedOptions (issues : List Issue)
  | missingKey (key : Value)
  | wrongType
  | missingAttribute
  | encoding (fault : EncodingFault)
  | decoding (fault : DecodingFault)
  | layout (fault : LayoutFault)
  | unknownSignal (name : Value)
  | unknownEnvironment (name : Value)
  | unknownLevel (name : Text)
  | yearOutOfRange (year : Int)
  | timeNotNumber
  | timeOutOfRange
  | durationOutOfRange
  | untitled
  | io (number : Option Int) (message : Text)
  | value (message : Text)
  | runtime (message : Text)
  | cancelled (message : Text)
deriving DecidableEq

namespace Failure

/-- The wording of a failure of the input or output system. -/
def ioMessage (number : Option Int) (message : Text) : Text :=
  match number with
  | none => message
  | some n => "[Errno " ++ Text.ofInt n ++ "] " ++ message

/-- The wording of a failure, for those that have one. -/
def message? : Failure → Option Text
  | fault f _ => some f.message.shown
  | invalid _ => none
  | refusedOptions _ => some "Invalid LWES options"
  | missingKey key => some key.quoted
  | wrongType => none
  | missingAttribute => none
  | encoding f => some f.message
  | decoding f => some f.message
  | layout f => some f.message
  | unknownSignal name => some (name.quoted ++ " is not a valid Signal")
  | unknownEnvironment name => some (name.quoted ++ " is not a valid AppEnv")
  | unknownLevel name => some ("Unknown level: " ++ name.quoted)
  | yearOutOfRange year => some ("year " ++ Text.ofInt year ++ " is out of range")
  | timeNotNumber => some "Invalid value NaN (not a number)"
  | timeOutOfRange => some "timestamp out of range for platform time_t"
  | durationOutOfRange => some "int too large to convert to float"
  | untitled => some "A title must be provided for OpenAPI, e.g.: 'My API'"
  | io number message => some (ioMessage number message)
  | value message => some message
  | runtime message => some message
  | cancelled message => some message

/-- A cancellation is not to be caught like the others. -/
def isOrdinary : Failure → Bool
  | cancelled _ => false
  | _ => true

/-- A failure of the input or output system. -/
def isInputOutput : Failure → Bool
  | io _ _ => true
  | _ => false

/-- A failure in making or sending an event. -/
def isEmission : Failure → Bool
  | fault f _ => f.isEmission
  | _ => false

/-- A fault without details. -/
def plain (f : Fault) : Failure :=
  fault f []

end Failure

namespace Wire

/-- The wording for a name by its role. -/
def NameRole.title : NameRole → Text
  | ofEvent => "Event name"
  | ofAttribute => "Attribute name"

/-- The failure that a fault in writing is. -/
def WriteFault.toFailure : WriteFault → Failure
  | unencodable fault => .encoding fault
  | longName role name =>
    .plain (.emission (.text (role.title ++ " longer than 255 bytes: " ++
      Text.quoted (name.take 32) ++ "...")))
  | longText size =>
    .plain (.emission (.text ("String attribute longer than 65535 bytes (" ++
      Text.ofNat size ++ ")")))
  | manyAttributes => .layout .wideCount
  | wideInt => .layout .wideInt
  | tooLarge size => .plain (.eventTooLarge (.int size) (.int maxDatagram))

/-- The failure that a fault in reading is. -/
def ReadFault.toFailure : ReadFault → Failure
  | undecodable fault => .decoding fault
  | short offset need size => .layout (.short offset need size)
  | unsupported token =>
    .plain (.emission (.text ("Unsupported LWES type token 0x" ++ Text.ofHex 2 token.toNat)))

end Wire

end AccessLog
