/-
The built-in tokens.

* `Token.url`, `Token.method`, `Token.responseTime`, `Token.date`,
  `Token.status`, `Token.referrer`, `Token.remoteAddr`, `Token.httpVersion`,
  `Token.userAgent`, `Token.requestHeader`, `Token.responseHeader`: what each
  of them reads.
* `Tokens.builtIn`: all of them under their names.
-/
import AccessLog.Decimal.Fixed
import AccessLog.Token.Basic

namespace AccessLog

namespace Token

/-- The first value if it is true, else the second. -/
def orElse (first : Value) (second : Except Failure Value) : Except Failure Value :=
  if first.truthy then .ok first else second

/-- Path and query at entry, or as they are now. -/
def url (v : View) : Except Failure Value :=
  orElse v.originalUrl v.scope.pathWithQuery

/-- The method of the request. -/
def method (v : View) : Except Failure Value :=
  v.scope.method

/-- Milliseconds since the entry to three places, once the status line is on
the wire. -/
def responseTime (v : View) : Except Failure Value :=
  match v.reply.sent, v.capture with
  | true, some c => do
    match ← c.elapsedMs v.clock with
    | some ms => return .text (ms.fixed 3)
    | none => return .null
  | _, _ => .ok .null

/-- The date of the record. -/
def date (v : View) : Except Failure Value :=
  v.clock.wall.moment.map fun m => .text m.httpDate

/-- The status, once it is on the wire. -/
def status (v : View) : Except Failure Value :=
  .ok (if v.reply.sent then v.reply.status else .null)

/-- The referring page, by either spelling of its header. -/
def referrer (v : View) : Except Failure Value := do
  let headers ← v.scope.headers
  orElse (← headers.value "referer") (headers.value "referrer")

/-- The client as a trusted proxy found it, the peer at entry, or the peer now. -/
def remoteAddr (v : View) : Except Failure Value := do
  let ip ← v.scope.clientIp
  orElse ip <| orElse ((v.capture.map (·.remoteAddress)).getD .null) v.scope.peerHost

/-- The protocol version with a minor number. -/
def httpVersion (v : View) : Except Failure Value :=
  match v.scope.httpVersion with
  | .text t =>
    let (major, minor) := t.cut '.'
    let minor : Text := match minor with
      | none | some [] => "0"
      | some minor => minor
    .ok (.text (major ++ "." ++ minor))
  | .bytes _ => .error .wrongType
  | _ => .error .missingAttribute

/-- The program of the client. -/
def userAgent (v : View) : Except Failure Value := do
  let headers ← v.scope.headers
  headers.value "user-agent"

/-- The header that an argument names. -/
def headerNamed (headers : Except Failure Headers) (argument : Value) :
    Except Failure Value :=
  if !argument.truthy then .ok .null
  else do
    let headers ← headers
    match argument with
    | .text name => headers.value name.lower
    | _ => throw .missingAttribute

/-- A header of the request. -/
def requestHeader (v : View) (argument : Value) : Except Failure Value :=
  headerNamed v.scope.headers argument

/-- A header of the response, written or not. -/
def responseHeader (v : View) (argument : Value) : Except Failure Value :=
  headerNamed (.ok v.reply.headers) argument

/-- A token that gives plain values. -/
def plain (f : View → Value → Except Failure Value) : Extractor :=
  fun v argument => (f v argument).map .ofValue

end Token

/-- The built-in tokens in order. -/
def Tokens.builtIn : Tokens :=
  [("url", Token.plain fun v _ => Token.url v),
    ("method", Token.plain fun v _ => Token.method v),
    ("response-time", Token.plain fun v _ => Token.responseTime v),
    ("date", Token.plain fun v _ => Token.date v),
    ("status", Token.plain fun v _ => Token.status v),
    ("referrer", Token.plain fun v _ => Token.referrer v),
    ("remote-addr", Token.plain fun v _ => Token.remoteAddr v),
    ("http-version", Token.plain fun v _ => Token.httpVersion v),
    ("user-agent", Token.plain fun v _ => Token.userAgent v),
    ("request", Token.plain Token.requestHeader),
    ("response", Token.plain Token.responseHeader)]

end AccessLog
