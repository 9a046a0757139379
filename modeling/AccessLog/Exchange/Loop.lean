/-
Exchanges on one loop.

* `Conversation`: an exchange of an application and a server through a stack of
  layers.
* `Sink`: where the events of a layer go.
* `Occurrence`: what can be seen from outside, in order.
* `Job`: what waits for its turn; events are sent in turns after the one that
  made them.
* `World.advance`: an application runs up to its next pause or its end.
* `World.turn`: the first job runs.
-/
import AccessLog.Diagnostics.Notice
import AccessLog.Exchange.App
import AccessLog.Exchange.Stack

namespace AccessLog

/-- An exchange of an application and a server through a stack of layers. -/
structure Conversation where
  server : Server
  scope : Scope
  frames : List Frame := []
  /-- The frame of a layer that failed at its entry. -/
  failed : List Frame := []
  context : Context := []
  /-- All calls on the server so far. -/
  calls : List ServerCall := []

/-- Where the events of a layer go. -/
inductive Sink where
  /-- They are kept as they are. -/
  | recorder
  /-- They are sent as datagrams. -/
  | datagrams (emitter : Emitter)
deriving DecidableEq

/-- What can be seen from outside. -/
inductive Occurrence where
  | accepted (exchange : Nat) (m : Message)
  | refused (exchange : Nat)
  | received (exchange : Nat) (m : Message)
  | caught (exchange : Nat) (e : Failure)
  | inContext (exchange : Nat) (context : Context)
  | attempted (exchange : Nat) (number : Nat) (a : Attempt)
  | emitted (number : Nat) (event : Emission)
  | ended (exchange : Nat) (outcome : Except Failure Unit) (context : Context)
  | flushed
  | lost (e : Failure)

/-- A line with the context in which it was told. -/
inductive Told where
  | notice (n : Notice) (context : Context)
  | line (call : LogCall) (context : Context)
deriving DecidableEq

/-- What waits for its turn. -/
inductive Job where
  /-- The entry of a request. -/
  | start (exchange : Nat) (app : App)
  /-- An application goes on. -/
  | resume (exchange : Nat) (app : App)
  /-- An event is sent. -/
  | emit (number : Nat) (event : Emission) (context : Context)

/-- All exchanges, and what they share. -/
structure World where
  layers : List Layer
  sinks : List Sink
  network : Network := {}
  clock : Clock := {}
  conversations : List Conversation := []
  queue : List Job := []
  seen : List Occurrence := []
  told : List Told := []

namespace World

/-- One more thing is seen. -/
def see (w : World) (o : Occurrence) : World :=
  { w with seen := w.seen ++ [o] }

/-- The conversation of a number. -/
def conversation? (w : World) (i : Nat) : Option Conversation :=
  w.conversations[i]?

/-- The conversation of a number changes. -/
def update (w : World) (i : Nat) (c : Conversation) : World :=
  { w with conversations := w.conversations.set i c }

/-- Attempts are seen, and the events of their records wait for their turn. -/
def note (w : World) (i : Nat) (notes : List Noted) : World :=
  { w with
    seen := w.seen ++ notes.map fun n => .attempted i n.number n.attempt
    queue := w.queue ++ notes.filterMap fun n =>
      (n.attempt.emission? n.eventType).map fun e => .emit n.number e n.context }

/-- A message goes out through the layers, and once the server has taken it,
they learn of that on the way back. -/
def send (w : World) (i : Nat) (c : Conversation) (m : Message) :
    World × Except Failure Unit :=
  let (frames, notes, result) :=
    Stack.outward c.context (fun _ => Exchange.sending m) c.frames
  let c := { c with frames }
  let w := w.note i notes
  match result with
  | .error e => (w.update i c, .error e)
  | .ok () =>
    let taken := c.server.take c.calls m
    let c := { c with calls := c.calls ++ [.send m] }
    match taken with
    | .error e => ((w.see (.refused i)).update i c, .error e)
    | .ok () =>
      let (frames, notes, result) := Stack.inward c.context
        (fun layer => Exchange.sent layer c.scope w.clock m) c.frames
      (((w.see (.accepted i m)).note i notes).update i { c with frames }, result)

/-- A message comes in through the layers. -/
def receive (w : World) (i : Nat) (c : Conversation) : World × Except Failure Message :=
  let m := c.server.incoming c.calls
  let (frames, notes, result) := Stack.inward c.context
    (fun layer => Exchange.received layer c.scope w.clock m) c.frames
  let w := (w.note i notes).update i { c with frames, calls := c.calls ++ [.receive] }
  match result with
  | .error e => (w, .error e)
  | .ok () => (w.see (.received i m), .ok m)

/-- The application is done, and so are the layers. -/
def finish (w : World) (i : Nat) (c : Conversation) (outcome : Except Failure Unit) : World :=
  let (frames, notes, outcome, context) :=
    Stack.unwind c.scope w.clock c.context outcome c.frames
  ((w.note i notes).update i { c with frames, context }).see (.ended i outcome context)

/-- What an application lets be known of itself. -/
def tell (w : World) (i : Nat) (c : Conversation) : Telling → World
  | .caught e => w.see (.caught i e)
  | .context => w.see (.inContext i c.context)
  | .line call => { w with told := w.told ++ [.line call c.context] }

/-- An application runs up to its next pause or its end. -/
def advance (i : Nat) : App → World → World
  | .done outcome, w =>
    match w.conversation? i with
    | some c => w.finish i c outcome
    | none => w
  | .send m next, w =>
    match w.conversation? i with
    | some c => let (w, result) := w.send i c m; advance i (next result) w
    | none => w
  | .receive next, w =>
    match w.conversation? i with
    | some c => let (w, result) := w.receive i c; advance i (next result) w
    | none => w
  | .edit change next, w =>
    match w.conversation? i with
    | some c => advance i next (w.update i { c with scope := change c.scope })
    | none => w
  | .elapse nanos next, w =>
    advance i next { w with clock := { w.clock with ticks := w.clock.ticks + nanos } }
  | .pause next, w => { w with queue := w.queue ++ [.resume i next] }
  | .tell what next, w =>
    match w.conversation? i with
    | some c => advance i next (w.tell i c what)
    | none => w

/-- The type of a scope whose exchanges are logged. -/
def httpType : Value := "http"

/-- The layers that take up a request: all of them, or none if it is not of
the type whose exchanges are logged. -/
def layersFor (w : World) (scope : Scope) : Except Failure (List (Nat × Layer)) :=
  if w.layers.isEmpty then .ok []
  else do
    let type ← scope.need "type"
    return if type.same httpType then w.layers.zipIdx.map fun (l, k) => (k, l) else []

/-- A request enters the layers, and the application starts. -/
def begin (w : World) (i : Nat) (app : App) : World :=
  match w.conversation? i with
  | none => w
  | some c =>
    match w.layersFor c.scope with
    | .error e => w.see (.ended i (.error e) c.context)
    | .ok layers =>
      let entry := Stack.enter c.scope w.clock [] [] c.context layers
      let c := { c with frames := entry.frames, failed := entry.failed, context := entry.context }
      let w := (w.note i entry.notes).update i c
      match entry.result with
      | .ok () => advance i app w
      | .error e => w.finish i c (.error e)

/-- An event goes to the sink of its layer. -/
def emit (w : World) (number : Nat) (event : Emission) (context : Context) : World :=
  match w.sinks[number]? with
  | none => w
  | some .recorder => w.see (.emitted number event)
  | some (.datagrams e) =>
    let r := e.emit w.network event
    let w := { w with
      sinks := w.sinks.set number (.datagrams r.emitter)
      network := r.network
      told := w.told ++ r.notices.map fun n => .notice n context }
    match r.result with
    | .ok () => w
    | .error f => w.see (.lost f)

/-- One job runs. -/
def perform (w : World) : Job → World
  | .start i app => w.begin i app
  | .resume i app => advance i app w
  | .emit number event context => w.emit number event context

/-- The first job runs, if there is one. -/
def turn (w : World) : World :=
  match w.queue with
  | [] => w
  | job :: rest => perform { w with queue := rest } job

/-- Several turns. -/
def turns : Nat → World → World
  | 0, w => w
  | n + 1, w => turns n w.turn

end World

end AccessLog
