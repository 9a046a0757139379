/-
Applications and servers.

* `App`: what an application does next, by what it has seen so far.
* `ServerCall`: what a server is asked.
* `Server`: what comes in, and which messages are refused.
* `Telling`: what an application lets be known of itself.
-/
import AccessLog.Exchange.Context

namespace AccessLog

/-- A line that an application logs: a text with places for the arguments. -/
structure LogCall where
  logger : Text
  level : Text
  message : Value
  arguments : List Value
deriving DecidableEq

/-- What an application lets be known of itself. -/
inductive Telling where
  /-- A failure that it has caught. -/
  | caught (e : Failure)
  /-- The context it runs in. -/
  | context
  /-- A line of its own. -/
  | line (call : LogCall)
deriving DecidableEq

/-- What an application does next. -/
inductive App where
  /-- It ends, or fails. -/
  | done (outcome : Except Failure Unit)
  | send (m : Message) (next : Except Failure Unit → App)
  | receive (next : Except Failure Message → App)
  /-- It changes the scope in place. -/
  | edit (change : Scope → Scope) (next : App)
  /-- It takes some nanoseconds. -/
  | elapse (nanos : Int) (next : App)
  /-- It lets others run. -/
  | pause (next : App)
  | tell (what : Telling) (next : App)

/-- One call on a server. -/
inductive ServerCall where
  /-- A message is handed over. -/
  | send (m : Message)
  /-- A message is asked for. -/
  | receive
deriving DecidableEq

/-- A message is handed over. -/
def ServerCall.isSend : ServerCall → Bool
  | send _ => true
  | receive => false

/-- What comes in and what is refused, by all calls before. -/
structure Server where
  refuse : List ServerCall → Message → Option Failure
  incoming : List ServerCall → Message

/-- The message that the client is gone. -/
def disconnected : Message := [("type", "http.disconnect")]

namespace Server

/-- A server with a list of messages to come, after which the client is gone,
and the numbers from one of the messages that it refuses. -/
def ofLists (incoming : List Message) (refusals : List (Int × Failure)) : Server where
  refuse before _ := (refusals.find? fun (k, _) =>
    k = (before.countP ServerCall.isSend : Int) + 1).map (·.2)
  incoming before := incoming.getD (before.countP (!·.isSend)) disconnected

/-- Whether the server takes a message. -/
def take (s : Server) (before : List ServerCall) (m : Message) : Except Failure Unit :=
  match s.refuse before m with
  | some e => .error e
  | none => .ok ()

end Server

end AccessLog
