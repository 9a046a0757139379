/-
The context of the lines that are told during an exchange.

* `Context`: values bound under names.
* `Context.enter`: method and path of a request, bound for its duration.
* `Context.leave`: what was bound before is bound again.
-/
import AccessLog.Exchange.Scope

namespace AccessLog

/-- Values bound under names. -/
abbrev Context := Table Value

namespace Context

/-- The name of the method of a request. -/
def methodName : Text := "http_method"

/-- The name of the path of a request. -/
def pathName : Text := "http_path"

/-- Method and path of a request are bound. -/
def enter (context : Context) (scope : Scope) : Context :=
  (context.put methodName (scope.value "method")).put pathName (scope.value "path")

/-- A name is bound again as it was before, or not at all. -/
def restore (context before : Context) (name : Text) : Context :=
  match before.get? name with
  | some v => (context.erase name).put name v
  | none => context.erase name

/-- Method and path are bound again as they were before. -/
def leave (context before : Context) : Context :=
  (context.restore before methodName).restore before pathName

end Context

end AccessLog
