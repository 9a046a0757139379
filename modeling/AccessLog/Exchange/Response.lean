/-
What an application has handed over, and who waits for its completion.

* `Signal`: the final part was written, or the exchange was cut short.
* `Listeners`: who waits for each signal, in the order of registration; one
  may wait several times.
* `deliver`: calls those of a list one after the other, up to the first that
  fails.
* `Reply`: status, headers, and how much of it is on the wire.
* `Response`: a reply with its listeners.
-/
import AccessLog.Exchange.Scope

namespace AccessLog

/-- The two ways in which an exchange completes. -/
inductive Signal where
  /-- The final part of the body was written. -/
  | finish
  /-- The client went away, or the application ended without finishing. -/
  | close
deriving DecidableEq

namespace Signal

/-- The name of a signal. -/
def name : Signal → Text
  | finish => "finish"
  | close => "close"

/-- The signal of a name. -/
def ofValue (v : Value) : Except Failure Signal :=
  if v.same (.text finish.name) then .ok finish
  else if v.same (.text close.name) then .ok close
  else .error (.unknownSignal v)

end Signal

/-! ### Listeners -/

/-- Who waits for each signal. -/
structure Listeners (α : Type) where
  finish : List α := []
  close : List α := []
deriving DecidableEq

namespace Listeners

variable {α : Type}

/-- Who waits for a signal, in the order of registration. -/
def of (l : Listeners α) : Signal → List α
  | .finish => l.finish
  | .close => l.close

/-- The same with another list for one signal. -/
def set (l : Listeners α) (s : Signal) (waiting : List α) : Listeners α :=
  match s with
  | .finish => { l with finish := waiting }
  | .close => { l with close := waiting }

/-- One more waits for the signal, after the others. -/
def on (l : Listeners α) (s : Signal) (a : α) : Listeners α :=
  l.set s (l.of s ++ [a])

/-- The first registration of `a` for the signal is taken back, if there is
one. -/
def remove [DecidableEq α] (l : Listeners α) (s : Signal) (a : α) : Listeners α :=
  l.set s ((l.of s).erase a)

/-- Nobody waits any more. -/
def clear (_ : Listeners α) : Listeners α := {}

/-- How many wait for a signal. -/
def count (l : Listeners α) (s : Signal) : Nat :=
  (l.of s).length

@[simp] theorem of_set_self (l : Listeners α) (s : Signal) (waiting : List α) :
    (l.set s waiting).of s = waiting := by
  cases s <;> rfl

@[simp] theorem of_clear (l : Listeners α) (s : Signal) : l.clear.of s = [] := by
  cases s <;> rfl

theorem of_on_self (l : Listeners α) (s : Signal) (a : α) :
    (l.on s a).of s = l.of s ++ [a] := by
  simp [on]

end Listeners

/-- Calls the listeners of a list one after the other; a failure ends it. -/
def deliver {α σ ε : Type} (call : α → σ → σ × Except ε Unit) :
    List α → σ → σ × Except ε Unit
  | [], state => (state, .ok ())
  | a :: rest, state =>
    match call a state with
    | (state, .ok ()) => deliver call rest state
    | (state, .error e) => (state, .error e)

/-! ### Replies -/

/-- What the application has handed over so far. -/
structure Reply where
  /-- The status of the last start message, written or not. -/
  status : Value := .null
  /-- The headers of the last start message, written or not. -/
  headers : Headers := []
  /-- The status line is on the wire. -/
  sent : Bool := false
  /-- The final part of the body was written. -/
  finished : Bool := false
deriving DecidableEq

/-- The kinds of message that concern a reply. -/
inductive MessageKind where
  | start
  | body
  | pathSend
  | disconnect
  | other
deriving DecidableEq

namespace MessageKind

/-- The kind of message that a type names. -/
def ofValue (type : Value) : MessageKind :=
  if type = "http.response.start" then start
  else if type = "http.response.body" then body
  else if type = "http.response.pathsend" then pathSend
  else if type = "http.disconnect" then disconnect
  else other

end MessageKind

namespace Message

/-- The kind of a message that has a type. -/
def messageKind (m : Message) : Except Failure MessageKind := do
  return MessageKind.ofValue (← m.kind)

/-- More of the body will follow. -/
def moreBody (m : Message) : Bool :=
  ((m.get? "more_body").map Value.truthy).getD false

/-- The headers of a message, none by default. -/
def headers (m : Message) : Except Failure Headers :=
  match m.get? "headers" with
  | none => .ok []
  | some v => Headers.ofValue v

end Message

/-- Takes over status and headers of a start message that is yet to be written. -/
def Reply.stage (reply : Reply) (m : Message) : Reply × Except Failure Unit :=
  match m.get? "status" with
  | none => (reply, .error (.missingKey "status"))
  | some status =>
    let reply := { reply with status := status }
    match m.headers with
    | .ok headers => ({ reply with headers := headers }, .ok ())
    | .error e => (reply, .error e)

/-- A reply with those who wait for its completion. -/
structure Response (α : Type) where
  reply : Reply := {}
  listeners : Listeners α := {}
deriving DecidableEq

end AccessLog
