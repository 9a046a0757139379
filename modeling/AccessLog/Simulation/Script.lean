/-
Applications that follow a script.

* `Action`: one thing that an application does; `catching` ones go on after a
  failure.
* `Script.toApp`: the application that follows a list of actions.
-/
import AccessLog.Exchange.App

namespace AccessLog

/-- What an application does. -/
inductive Act where
  | send (m : Message)
  | receive
  | set (name : Text) (v : Value)
  | delete (name : Text)
  | pause
  | elapse (nanos : Int)
  | context
  | log (call : LogCall)
  | fail (e : Failure)
deriving DecidableEq

/-- One thing that an application does, and whether it goes on if that fails. -/
structure Action where
  act : Act
  catching : Bool := false
deriving DecidableEq

/-- What an application does, in order. -/
abbrev Script := List Action

namespace Script

/-- What an application does after a failure: it goes on if it catches the
failure, which it cannot if that is a cancellation. -/
def afterFailure (a : Action) (e : Failure) (next : App) : App :=
  if a.catching && e.isOrdinary then .tell (.caught e) next else .done (.error e)

/-- The application that follows a script. -/
def toApp : Script → App
  | [] => .done (.ok ())
  | a :: rest =>
    let next := toApp rest
    match a.act with
    | .send m => .send m fun
      | .ok () => next
      | .error e => afterFailure a e next
    | .receive => .receive fun
      | .ok _ => next
      | .error e => afterFailure a e next
    | .set name v => .edit (fun scope => scope.put name v) next
    | .delete name => .edit (fun scope => scope.erase name) next
    | .pause => .pause next
    | .elapse nanos => .elapse nanos next
    | .context => .tell .context next
    | .log call => .tell (.line call) next
    | .fail e => afterFailure a e next

end Script

end AccessLog
