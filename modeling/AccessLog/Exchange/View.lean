/-
What tokens, skip policies and renderers are shown of an exchange.

* `Clock`: the wall clock and a steady clock.
* `Capture`: what is kept of a request at its entry.
* `View`: scope, capture, reply and clock at one moment.
* `Capture.elapsedMs`: the milliseconds since the entry.
-/
import AccessLog.Calendar
import AccessLog.Exchange.Response

namespace AccessLog

/-- The wall clock, and a steady clock in nanoseconds. -/
structure Clock where
  wall : WallTime := .whole 0
  ticks : Int := 0
deriving DecidableEq

/-- What is kept of a request before anything downstream runs. -/
structure Capture where
  /-- The steady clock at entry. -/
  startedAt : Option Int
  /-- The wall clock at entry. -/
  startTime : WallTime
  /-- The peer at entry, which may be gone later. -/
  remoteAddress : Value
  /-- Path and query at entry. -/
  originalUrl : Value
deriving DecidableEq

namespace Capture

/-- Taken at the entry of a request. -/
def begin (scope : Scope) (clock : Clock) : Except Failure Capture := do
  let remote ← scope.peerHost
  let url ← scope.pathWithQuery
  return ⟨some clock.ticks, clock.wall, remote, url⟩

/-- Nanoseconds as milliseconds, if they are in the range of floating-point
numbers. -/
def milliseconds (nanos : Int) : Except Failure Binary64 :=
  match Binary64.ofInt nanos with
  | .inf _ => .error .durationOutOfRange
  | x => .ok (x.divNat 1000000)

/-- The milliseconds since the entry, if that was marked. -/
def elapsedMs (c : Capture) (clock : Clock) : Except Failure (Option Binary64) :=
  match c.startedAt with
  | none => .ok none
  | some start => (milliseconds (clock.ticks - start)).map some

end Capture

/-- What is shown of an exchange at one moment. -/
structure View where
  scope : Scope
  capture : Option Capture := none
  reply : Reply := {}
  /-- How many wait for the finish and for the close of the exchange. -/
  waiting : Nat × Nat := (0, 0)
  clock : Clock := {}
deriving DecidableEq

namespace View

/-- Path and query at entry, if they were taken. -/
def originalUrl (v : View) : Value :=
  (v.capture.map (·.originalUrl)).getD .null

end View

end AccessLog
