/-
One layer of access logging around one exchange.

* `Layer`: when to record, what to leave out, and how to make a record.
* `Attempt`: one attempt at a record: what was seen, whether it was left out,
  and what came of it.
* `Exchange`: the state of a layer during one exchange.
* `Exchange.enter`: the start, with the attempt of an immediate layer.
* `Exchange.sending`, `Exchange.sent`, `Exchange.received`, `Exchange.ended`:
  what a layer does right before a message is handed to the server, once it has
  been, once a message has come in, and once the application is done.
* `Happening`, `Exchange.step`, `Exchange.run`: any sequence of these.
-/
import AccessLog.Emitter.Basic
import AccessLog.Exchange.View

namespace AccessLog

/-- How access is logged in one layer. -/
structure Layer where
  /-- Record at the entry of a request instead of at its completion. -/
  immediate : Bool
  /-- Whether to leave a record out. -/
  skip : View → Except Failure Value
  /-- A record, or nothing. -/
  render : View → Except Failure Value
  /-- The type of all events of the layer. -/
  eventType : Text

/-- One attempt at a record. -/
structure Attempt where
  /-- What was seen. -/
  view : View
  /-- Whether to leave the record out. -/
  skipped : Except Failure Value
  /-- The record, if one was asked for. -/
  rendered : Option (Except Failure Value)

namespace Layer

/-- Asks whether to leave the record out, and if not, for the record. -/
def attempt (layer : Layer) (view : View) : Attempt :=
  let skipped := layer.skip view
  match skipped with
  | .error _ => ⟨view, skipped, none⟩
  | .ok v => ⟨view, skipped, if v.truthy then none else some (layer.render view)⟩

end Layer

namespace Attempt

/-- How an attempt ended. -/
def result (a : Attempt) : Except Failure Unit :=
  match a.skipped, a.rendered with
  | .error e, _ => .error e
  | .ok _, some (.error e) => .error e
  | .ok _, _ => .ok ()

/-- The record that an attempt gave. -/
def record? (a : Attempt) : Option Value :=
  match a.rendered with
  | some (.ok .null) => none
  | some (.ok v) => some v
  | _ => none

/-- The event of the record that an attempt gave. -/
def emission? (type : Text) (a : Attempt) : Option Emission :=
  a.record?.map fun record => ⟨.text type, record⟩

end Attempt

/-- What a layer waits for with; it registers nothing else. -/
inductive Recorder where
  | recorder
deriving DecidableEq

/-- The state of a layer during one exchange. -/
structure Exchange where
  capture : Capture
  response : Response Recorder := {}
  /-- The record was attempted at a completion. -/
  fired : Bool := false
  /-- All attempts so far. -/
  attempts : List Attempt := []

namespace Exchange

/-- What is shown of the exchange. -/
def view (x : Exchange) (scope : Scope) (clock : Clock) : View :=
  { scope, clock
    capture := some x.capture
    reply := x.response.reply
    waiting := (x.response.listeners.count .finish, x.response.listeners.count .close) }

/-- The same with another reply. -/
def withReply (x : Exchange) (reply : Reply) : Exchange :=
  { x with response := { x.response with reply } }

/-- The same with other listeners. -/
def withListeners (x : Exchange) (listeners : Listeners Recorder) : Exchange :=
  { x with response := { x.response with listeners } }

/-- An attempt at a record. -/
def record (layer : Layer) (scope : Scope) (clock : Clock) (x : Exchange) :
    Exchange × Except Failure Unit :=
  let a := layer.attempt (x.view scope clock)
  ({ x with attempts := x.attempts ++ [a] }, a.result)

/-- The answer to a completion signal: nobody waits any longer, and the first
time a record is attempted. -/
def complete (layer : Layer) (scope : Scope) (clock : Clock) (x : Exchange) :
    Exchange × Except Failure Unit :=
  let x := x.withListeners
    ((x.response.listeners.remove .finish .recorder).remove .close .recorder)
  if x.fired then (x, .ok ()) else record layer scope clock { x with fired := true }

/-- A completion signal. -/
def signal (layer : Layer) (scope : Scope) (clock : Clock) (s : Signal) (x : Exchange) :
    Exchange × Except Failure Unit :=
  deliver (fun _ => complete layer scope clock) (x.response.listeners.of s) x

/-- The state at the start: an immediate layer waits for nothing. -/
def start (layer : Layer) (capture : Capture) : Exchange :=
  if layer.immediate then { capture }
  else
    { capture
      response := {
        listeners := (({} : Listeners Recorder).on .finish .recorder).on .close .recorder } }

/-- The entry of a request; an immediate layer makes its attempt. -/
def enter (layer : Layer) (scope : Scope) (clock : Clock) :
    Except Failure (Exchange × Except Failure Unit) := do
  let capture ← Capture.begin scope clock
  let x := start layer capture
  return if layer.immediate then record layer scope clock x else (x, .ok ())

/-- Before a message goes to the server: a start message is taken over. -/
def sending (m : Message) (x : Exchange) : Exchange × Except Failure Unit :=
  match m.messageKind with
  | .error e => (x, .error e)
  | .ok .start =>
    let (reply, result) := x.response.reply.stage m
    (x.withReply reply, result)
  | .ok _ => (x, .ok ())

/-- The final part is on its way. -/
def finish (layer : Layer) (scope : Scope) (clock : Clock) (x : Exchange) :
    Exchange × Except Failure Unit :=
  signal layer scope clock .finish (x.withReply { x.response.reply with finished := true })

/-- Once the server has taken a message. -/
def sent (layer : Layer) (scope : Scope) (clock : Clock) (m : Message) (x : Exchange) :
    Exchange × Except Failure Unit :=
  match m.messageKind with
  | .ok .start => (x.withReply { x.response.reply with sent := true }, .ok ())
  | .ok .body => if m.moreBody then (x, .ok ()) else finish layer scope clock x
  | .ok .pathSend => finish layer scope clock x
  | .ok _ => (x, .ok ())
  | .error e => (x, .error e)

/-- Once a message has come in: the client may be gone. -/
def received (layer : Layer) (scope : Scope) (clock : Clock) (m : Message) (x : Exchange) :
    Exchange × Except Failure Unit :=
  match m.messageKind with
  | .ok .disconnect => signal layer scope clock .close x
  | .ok _ => (x, .ok ())
  | .error e => (x, .error e)

/-- Once the application is done: what is unfinished was cut short, and nobody
waits any longer. -/
def ended (layer : Layer) (scope : Scope) (clock : Clock) (x : Exchange) :
    Exchange × Except Failure Unit :=
  let (x, result) :=
    if x.response.reply.finished then (x, .ok ()) else signal layer scope clock .close x
  match result with
  | .error e => (x, .error e)
  | .ok () => (x.withListeners x.response.listeners.clear, .ok ())

/-! ### Any sequence of happenings -/

/-- What can happen to a layer during an exchange; tasks that the application
has left behind may send and receive after its end. -/
inductive Happening where
  /-- A message is about to go to the server. -/
  | sending (m : Message)
  /-- The server has taken a message. -/
  | sent (m : Message)
  /-- A message has come in. -/
  | received (m : Message)
  /-- The application is done. -/
  | ended

/-- One happening, with the scope and the clocks as they are then. -/
def step (layer : Layer) (scope : Scope) (clock : Clock) (x : Exchange) :
    Happening → Exchange × Except Failure Unit
  | .sending m => sending m x
  | .sent m => sent layer scope clock m x
  | .received m => received layer scope clock m x
  | .ended => ended layer scope clock x

/-- The state after several happenings. -/
def run (layer : Layer) (x : Exchange) : List (Scope × Clock × Happening) → Exchange
  | [] => x
  | (scope, clock, h) :: rest => run layer (step layer scope clock x h).1 rest

end Exchange

end AccessLog
