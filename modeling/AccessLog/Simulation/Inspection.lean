/-
Looking at an exchange and changing it, step by step.

* `Question`: what can be asked of an exchange.
* `Step`: a question or a change; listeners have names, and a listener that is
  called takes steps of its own.
* `Session`: the exchange with its listeners, the formats, and what was told
  and called so far.
* `Session.perform`: one step. Listeners that signal are followed as deep as
  the fuel reaches.
-/
import AccessLog.Format.Registry
import AccessLog.Token.BuiltIn

namespace AccessLog

/-- What can be asked of an exchange. -/
inductive Question where
  | elapsed
  | captured
  | method
  | url
  | originalUrl
  | clientIp
  | peerHost
  | httpVersion
  | header (ofRequest : Bool) (name : Value)
  | headers (ofRequest : Bool)
  | token (name : Text) (argument : Value)
deriving DecidableEq

/-- A question or a change. -/
inductive Step where
  | ask (q : Question)
  | response
  | set (name : Text) (v : Value)
  | delete (name : Text)
  | capture
  | dropCapture
  | mark (ticks : Option Int)
  | ticks (n : Int)
  | wall (t : WallTime)
  | stage (m : Message)
  | sent (b : Bool)
  | render (option : FormatOption CustomRenderer)
  | on (signal : Value) (name : Text)
  | remove (signal : Value) (name : Text)
  | removeAll
  | signal (signal : Value)
  | fail (e : Failure)

/-- What a step shows. -/
inductive Shown where
  | value (v : Value)
  | record (v : Value)
  | response (reply : Reply) (listeners : Listeners Text)

/-- An exchange that is looked at. -/
structure Session where
  view : View
  listeners : Listeners Text := {}
  formats : Formats CustomRenderer := Formats.builtIn
  notices : List Notice := []
  calls : List Text := []

namespace View

/-- What was kept at entry, which must have been. -/
def needCapture (v : View) : Except Failure Capture :=
  match v.capture with
  | some c => .ok c
  | none => .error .missingAttribute

/-- The headers of the request or of the response. -/
def headersOf (v : View) (ofRequest : Bool) : Except Failure Headers :=
  if ofRequest then v.scope.headers else .ok v.reply.headers

/-- The answer to a question. -/
def answer (v : View) : Question → Except Failure Value
  | .elapsed => do
    let c ← v.needCapture
    return match ← c.elapsedMs v.clock with
      | some x => .float x
      | none => .null
  | .captured => do
    let c ← v.needCapture
    let start ← c.startTime.moment
    return .list [(c.startedAt.map .int).getD .null, .text start.isoDate, c.remoteAddress,
      c.originalUrl]
  | .method => v.scope.method
  | .url => v.scope.pathWithQuery
  | .originalUrl => .ok v.originalUrl
  | .clientIp => v.scope.clientIp
  | .peerHost => v.scope.peerHost
  | .httpVersion => .ok v.scope.httpVersion
  | .header ofRequest name => do
    let headers ← v.headersOf ofRequest
    match name with
    | .text name => headers.value name
    | _ => throw .missingAttribute
  | .headers ofRequest => do
    let headers ← v.headersOf ofRequest
    return .list (headers.texts.map fun (name, t) => .list [.text name, .text t])
  | .token name argument => do
    let f ← Tokens.builtIn.extractor name
    return (← f v argument).value

end View

namespace Session

/-- The session with another view. -/
def withView (s : Session) (v : View) : Session × Except Failure Shown :=
  ({ s with view := v }, .ok (.value .null))

/-- The session with a changed capture, if there is one. -/
def withCapture (s : Session) (f : Capture → Capture) : Session × Except Failure Shown :=
  match s.view.needCapture with
  | .ok c => s.withView { s.view with capture := some (f c) }
  | .error e => (s, .error e)

/-- The session with changed listeners for a signal, if that is one. -/
def withSignal (s : Session) (signal : Value) (f : Signal → Listeners Text) :
    Session × Except Failure Shown :=
  match Signal.ofValue signal with
  | .ok g => ({ s with listeners := f g }, .ok (.value .null))
  | .error e => (s, .error e)

/-- One step that calls no listener. -/
def simple (s : Session) : Step → Session × Except Failure Shown
  | .ask q => (s, (s.view.answer q).map .value)
  | .response => (s, .ok (.response s.view.reply s.listeners))
  | .set name v => s.withView { s.view with scope := s.view.scope.put name v }
  | .delete name => s.withView { s.view with scope := s.view.scope.erase name }
  | .capture =>
    match Capture.begin s.view.scope s.view.clock with
    | .ok c => s.withView { s.view with capture := some c }
    | .error e => (s, .error e)
  | .dropCapture => s.withView { s.view with capture := none }
  | .mark ticks => s.withCapture fun c => { c with startedAt := ticks }
  | .ticks n => s.withView { s.view with clock := { s.view.clock with ticks := n } }
  | .wall t => s.withView { s.view with clock := { s.view.clock with wall := t } }
  | .stage m =>
    let (reply, result) := s.view.reply.stage m
    ((s.withView { s.view with reply }).1, result.map fun _ => .value .null)
  | .sent b => s.withView { s.view with reply := { s.view.reply with sent := b } }
  | .render option =>
    match s.formats.resolve option with
    | .error e => (s, .error e)
    | .ok (r, formats) =>
      ({ s with formats, notices := s.notices ++ r.notices s.formats },
        (r.toRenderer.render Tokens.builtIn s.view).map .record)
  | .on signal name => s.withSignal signal fun g => s.listeners.on g name
  | .remove signal name => s.withSignal signal fun g => s.listeners.remove g name
  | .removeAll => ({ s with listeners := s.listeners.clear }, .ok (.value .null))
  | .signal _ => (s, .ok (.value .null))
  | .fail e => (s, .error e)

/-- One step; the scripts tell what steps a listener takes when it is called. -/
def perform (scripts : Table (List Step)) : Nat → Session → Step →
    Session × Except Failure Shown
  | fuel + 1, s, .signal signal =>
    match Signal.ofValue signal with
    | .error e => (s, .error e)
    | .ok g =>
      let call (name : Text) (s : Session) : Session × Except Failure Unit :=
        deliver (fun step s =>
            let (s, r) := perform scripts fuel s step
            (s, r.map fun _ => ()))
          ((scripts.get? name).getD []) { s with calls := s.calls ++ [name] }
      let (s, r) := deliver call (s.listeners.of g) s
      (s, r.map fun _ => .value .null)
  | _, s, step => s.simple step

/-- One step with an account of its own, following signals to a depth at which
no session arrives. -/
def step (scripts : Table (List Step)) (s : Session) (step : Step) :
    Session × Except Failure Shown :=
  perform scripts 1000 { s with calls := [], notices := [] } step

end Session

end AccessLog
