/-
Where the program runs.

* `Environment`: development, staging or production, with their names.
-/
import AccessLog.Failure

namespace AccessLog

/-- Where the program runs. -/
inductive Environment where
  | development
  | staging
  | production
deriving DecidableEq

namespace Environment

/-- The name of an environment. -/
def name : Environment → Text
  | development => "development"
  | staging => "staging"
  | production => "production"

/-- All environments by their names. -/
def byName : List (Text × Environment) :=
  [development, staging, production].map fun e => (e.name, e)

/-- The environment of a name. -/
def ofValue (v : Value) : Except Failure Environment :=
  match v.text?.bind (fun t => byName.lookup t) with
  | some e => .ok e
  | none => .error (.unknownEnvironment v)

end Environment

end AccessLog
