/-
The scope of a request and the messages of an exchange.

* `Scope`: what is known of a request, under names; routers change it in place.
* `Message`: what an application and a server hand each other.
* `Headers`: pairs of byte strings in the order on the wire.
* `Headers.find`: the first header of a name, compared in lower case.
* `Scope.pathWithQuery`, `Scope.peerHost`, `Scope.clientIp`.
-/
import AccessLog.Failure
import AccessLog.Text.Case

namespace AccessLog

/-- What is known of a request. -/
abbrev Scope := Table Value

/-- What an application and a server hand each other. -/
abbrev Message := Table Value

/-- Pairs of name and value in the order on the wire. -/
abbrev Headers := List (List UInt8 × List UInt8)

namespace Headers

/-- A header is a pair of byte strings. -/
def pair? : Value → Option (List UInt8 × List UInt8)
  | .tuple [.bytes name, .bytes value] => some (name, value)
  | .list [.bytes name, .bytes value] => some (name, value)
  | _ => none

/-- A value as headers. -/
def ofValue (v : Value) : Except Failure Headers :=
  match v.items? with
  | none => .error .wrongType
  | some items => match items.mapM pair? with
    | some headers => .ok headers
    | none => .error .wrongType

/-- The first header whose name is the lower-case form of the given one. -/
def find (headers : Headers) (name : Text) : Except EncodingFault (Option Text) := do
  let key ← name.lower.toLatin1
  return (headers.find? fun header => header.1 = key).map fun header => Text.ofLatin1 header.2

/-- The first header of a name, absent if there is none. -/
def value (headers : Headers) (name : Text) : Except Failure Value :=
  match headers.find name with
  | .ok (some t) => .ok (.text t)
  | .ok none => .ok .null
  | .error fault => .error (.encoding fault)

/-- Names and values as texts. -/
def texts (headers : Headers) : List (Text × Text) :=
  headers.map fun (name, value) => (Text.ofLatin1 name, Text.ofLatin1 value)

end Headers

/-- The first element of a value that has elements under numbers. -/
def Value.first : Value → Except Failure Value
  | .text (c :: _) => .ok (.text [c])
  | .bytes (b :: _) => .ok (.int b.toNat)
  | .list (v :: _) => .ok v
  | .tuple (v :: _) => .ok v
  | .dict entries =>
    match entries.find? fun entry => entry.1.same (.int 0) with
    | some entry => .ok entry.2
    | none => .error (.missingKey (.int 0))
  | _ => .error .wrongType

namespace Message

/-- What kind of message it is. -/
def kind (m : Message) : Except Failure Value :=
  match m.get? "type" with
  | some v => .ok v
  | none => .error (.missingKey "type")

end Message

namespace Scope

/-- What is stored under a name that must be there. -/
def need (scope : Scope) (name : Text) : Except Failure Value :=
  match scope.get? name with
  | some v => .ok v
  | none => .error (.missingKey (.text name))

/-- What is stored under a name, or nothing. -/
def value (scope : Scope) (name : Text) : Value :=
  (scope.get? name).getD .null

/-- The address of the peer, if there is one. -/
def peerHost (scope : Scope) : Except Failure Value :=
  let client := scope.value "client"
  if client.truthy then client.first else .ok .null

/-- The path, with a question mark and the query behind it if there is one. -/
def pathWithQuery (scope : Scope) : Except Failure Value :=
  let path := (scope.get? "path").getD ""
  let query := (scope.get? "query_string").getD (.bytes [])
  if query.truthy then
    match query with
    | .bytes bs => .ok (.text (path.shown ++ "?" ++ Text.ofLatin1 bs))
    | _ => .error .missingAttribute
  else .ok path

/-- The method of the request. -/
def method (scope : Scope) : Except Failure Value :=
  scope.need "method"

/-- The protocol version, by default 1.1. -/
def httpVersion (scope : Scope) : Value :=
  (scope.get? "http_version").getD "1.1"

/-- The headers of the request. -/
def headers (scope : Scope) : Except Failure Headers := do
  Headers.ofValue (← scope.need "headers")

/-- The name under which a trusted proxy leaves the address of the client. -/
def clientIpName : Text := "client_ip"

/-- The address of the client that a trusted proxy has found out. -/
def clientIp (scope : Scope) : Except Failure Value :=
  match (scope.get? "state").getD (.dict []) with
  | .dict entries => .ok (((entries.find? fun entry =>
      entry.1.same (.text clientIpName)).map (·.2)).getD .null)
  | _ => .error .missingAttribute

end Scope

end AccessLog
