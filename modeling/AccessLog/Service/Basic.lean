/-
A service whose access is logged, from its settings.

* `Service`: settings, loggers, transport options and the choice of a sink.
* `Service.make`: the loggers are set up first; a service has a title.
* `Service.layerOptions`: one layer around all pages.
* `Visit`: a request with what went out for it and how it ended.
* `Service.run`: a service from its start to its end; the layer is put together
  at the first request, and the emitter that a service has made for itself is
  closed at the end.
-/
import AccessLog.Exchange.Install
import AccessLog.Exchange.Play
import AccessLog.Diagnostics.Loggers
import AccessLog.Service.Pages
import AccessLog.Token.BuiltIn

namespace AccessLog

/-- A service whose access is logged. -/
structure Service where
  settings : Settings
  loggers : Loggers
  options : TransportOptions
  sink : SinkChoice

/-- A request with what went out for it. -/
structure Visit where
  scope : Scope
  statuses : List Value
  /-- The parts of the body, one after the other. -/
  body : List UInt8
  outcome : Except Failure Unit

/-- What can be seen of a service. -/
inductive Scene where
  | visit (v : Visit)
  | emitted (event : Emission)

/-- What a service did from its start to its end. -/
structure Career where
  scenes : List Scene
  network : Network
  told : List Told

namespace Service

/-- The arguments of the setup of the loggers. -/
def setup (s : Settings) : Setup where
  environment := s.environment
  level := .text s.logLevel
  format := .text s.logFormat
  emitterLevel := (s.emitterLevel.map .text).getD .null

/-- A service from its settings, over loggers that are set up anew. -/
def make (loggers : Loggers) (settings : Settings) (sink : SinkChoice) :
    Except Failure Service := do
  let (loggers, result) := loggers.setUp (setup settings)
  result
  let options ← settings.transport
  if settings.name.isEmpty then throw .untitled
  return { settings, loggers, options, sink }

/-- The path of the pages for people. -/
def documentationPath (s : Service) : Option Text :=
  if s.settings.isDevelopment then some Page.documentation.path else none

/-- Some paths are left out of the records. -/
def skips (s : Service) : Bool :=
  !s.settings.skipPaths.isEmpty

/-- One layer around all pages. -/
def layerOptions (s : Service) : LayerOptions where
  format := .value (.text s.settings.format)
  immediate := .flag s.settings.immediate
  skip := if s.skips then some (skipPaths (s.settings.skipPaths.map .text)) else none
  sink := s.sink
  transport := .ok s.options

/-- The application that answers a request. -/
def app (s : Service) (scope : Scope) : App :=
  match respond s.settings scope with
  | .ok answer => answer.app
  | .error e => .done (.error e)

/-- The messages that went out in an exchange. -/
def messages (seen : List Occurrence) (i : Nat) : List Message :=
  seen.filterMap fun
    | .accepted j m => if i = j then some m else none
    | _ => none

/-- The status of a start message. -/
def status? (m : Message) : Option Value :=
  if m.messageKind.toOption = some .start then m.get? "status" else none

/-- The bytes of a body message. -/
def bodyPart (m : Message) : List UInt8 :=
  match m.get? "body" with
  | some (.bytes bs) => bs
  | _ => []

/-- A request, with the guard's answer if it failed before anything went out. -/
def visit (seen : List Occurrence) (i : Nat) (scope : Scope) (outcome : Except Failure Unit) :
    Visit :=
  let sent := messages seen i
  match outcome, sent with
  | .error _, [] => ⟨scope, [.int Answer.guard.status], Answer.guard.body, outcome⟩
  | _, _ => ⟨scope, sent.filterMap status?, sent.flatMap bodyPart, outcome⟩

/-- What is seen of all exchanges, in order. -/
def scenes (requests : List Scope) (seen : List Occurrence) : List Scene :=
  seen.filterMap fun
    | .ended i outcome _ => (requests[i]?).map fun scope => .visit (visit seen i scope outcome)
    | .emitted _ e => some (.emitted e)
    | _ => none

/-- The notice of the start. -/
def starting (s : Service) : Notice :=
  .starting s.settings.name serviceVersion s.settings.environment.name

/-- All requests, one after the other, through one layer. -/
def serve (s : Service) (network : Network) (clock : Clock) (requests : List Scope) :
    Except Failure World := do
  let (installed, notices, _) := install Formats.builtIn s.layerOptions
  let installed ← installed
  let w : World := {
    layers := [installed.layer Tokens.builtIn], sinks := [installed.sink], network, clock
    told := notices.map (.notice · []) }
  return w.playInTurn true (requests.map fun scope => { scope, app := s.app scope })

/-- The emitters that a service has made for itself are closed. -/
def closing : List Sink → Network → Network × List Notice × Except Failure Unit
  | .datagrams e :: rest, n =>
    let r := e.close n
    match r.result with
    | .error f => (r.network, r.notices, .error f)
    | .ok () =>
      let (n, notices, result) := closing rest r.network
      (n, r.notices ++ notices, result)
  | .recorder :: rest, n => closing rest n
  | [], n => (n, [], .ok ())

/-- A service from its start to its end. -/
def run (s : Service) (network : Network) (clock : Clock) (requests : List Scope) :
    Except Failure Career := do
  let w ← if requests.isEmpty then pure { layers := [], sinks := [], network, clock }
    else s.serve network clock requests
  let (network, notices, result) := closing w.sinks w.network
  result
  let told (n : Notice) : Told := .notice n []
  return {
    scenes := scenes requests w.seen, network
    told := told s.starting :: w.told ++ notices.map told ++
      [told (.shuttingDown s.settings.name)] }

end Service

end AccessLog
