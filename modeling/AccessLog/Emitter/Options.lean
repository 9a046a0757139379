/-
Where and how events are sent.

* `TransportOptions`: address, port, hop limit and event type.
* `TransportOptions.ofTable`: options by name, each checked on its own.
* `TransportOptions.ofMapping`, `TransportOptions.ofValue`: the options of a
  mapping on its own, and of what a layer was given.
* `TransportOptions.IsValid`: what the checks make sure of.
-/
import AccessLog.Validation

namespace AccessLog

/-- The type of events if none is given. -/
def defaultEventType : Text := "MorganLWES::Logger"

/-- Where and how events are sent. -/
structure TransportOptions where
  address : Text := "127.0.0.1"
  port : Int := 1111
  /-- How many routers a multicast datagram may pass. -/
  ttl : Int := 3
  type : Text := defaultEventType
deriving DecidableEq

namespace TransportOptions

/-- The port is that of a receiver, and the hop limit fits into one byte. -/
def IsValid (o : TransportOptions) : Prop :=
  0 < o.port ∧ o.port < 65536 ∧ 0 ≤ o.ttl ∧ o.ttl ≤ 255

instance (o : TransportOptions) : Decidable o.IsValid :=
  inferInstanceAs (Decidable (_ ∧ _))

open Validation in
/-- The options of a table; names of no option do not count, and all issues
are told in the order of the options. -/
def ofTable (given : Table Value) : Except (List Issue) TransportOptions :=
  let defaults : TransportOptions := {}
  let address := option given "address" defaults.address readText
  let port := option given "port" defaults.port fun v => readInteger v >>= between 0 65536
  let ttl := option given "ttl" defaults.ttl fun v => readInteger v >>= within 0 255
  let type := option given "type" defaults.type readText
  match address, port, ttl, type with
  | .ok address, .ok port, .ok ttl, .ok type => .ok ⟨address, port, ttl, type⟩
  | _, _, _, _ => .error (address.issues ++ port.issues ++ ttl.issues ++ type.issues)

/-- The options with given values. -/
def check (address : Text) (port ttl : Int) (type : Text) :
    Except (List Issue) TransportOptions :=
  ofTable [("address", .text address), ("port", .int port), ("ttl", .int ttl),
    ("type", .text type)]

/-- The entries of a mapping whose keys are all texts. -/
def entries? (entries : List (Value × Value)) : Option (Table Value) :=
  entries.mapM fun (k, v) => k.text?.map (·, v)

/-- The options of a mapping by name. -/
def ofMapping : Value → Except Failure TransportOptions
  | .dict entries =>
    match entries? entries with
    | none => .error .wrongType
    | some given => (ofTable given).mapError .invalid
  | _ => .error .wrongType

/-- The options for what a layer was given: nothing, or a mapping, whose issues
are told as those of a layer. -/
def ofValue : Value → Except Failure TransportOptions
  | .null => .ok {}
  | v => (ofMapping v).mapError fun
    | .invalid issues => .refusedOptions issues
    | e => e

end TransportOptions

end AccessLog
