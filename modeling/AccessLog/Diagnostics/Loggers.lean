/-
Loggers and their levels.

* `Rendering`: lines for people or for machines.
* `Loggers`: the handlers of the root logger and the levels that were set.
* `Setup`, `Loggers.setUp`: the arguments and the work of a setup; whatever it
  sets, it sets on every way that returns.
* `Loggers.effective`: the level that counts for a logger: its own, or that of
  the nearest logger above it that has one.
-/
import AccessLog.Diagnostics.Notice
import AccessLog.Environment
import AccessLog.Text.Case

namespace AccessLog

/-- Lines for people, or for machines. -/
inductive Rendering where
  | console
  | json
deriving DecidableEq

namespace Rendering

/-- The rendering for a given format: what it names, or else one for people in
development and one for machines elsewhere. -/
def choose (environment : Environment) (format : Value) : Rendering :=
  if format = "json" then json
  else if format = "console" then console
  else if environment = .development then console
  else json

end Rendering

/-! ### Levels by name -/

/-- What the names of levels stand for: a number, a text that is no level, or
something else altogether. -/
inductive NamedLevel where
  | number (n : Int)
  | unknown (t : Text)
  | other
deriving DecidableEq

/-- What a name stands for in upper case; a name that means nothing stands for
the level of information. -/
def levelNames : List (Text × NamedLevel) :=
  [("CRITICAL", .number 50), ("FATAL", .number 50), ("ERROR", .number 40),
    ("WARNING", .number 30), ("WARN", .number 30), ("INFO", .number 20), ("DEBUG", .number 10),
    ("NOTSET", .number 0), ("BASIC_FORMAT", .unknown "%(levelname)s:%(name)s:%(message)s"),
    ("_STYLES", .other)]

/-- The level that a logger gets for a name. -/
def levelOf (v : Value) : Except Failure Int :=
  match v with
  | .text t =>
    match (levelNames.lookup t.upperLatin).getD (.number Level.info.number) with
    | .number n => .ok n
    | .unknown t => .error (.unknownLevel t)
    | .other => .error .wrongType
  | .bytes _ => .error .wrongType
  | _ => .error .missingAttribute

/-! ### Setups -/

/-- The loggers of the servers' own access lines. -/
def serverLoggers : List Text := ["uvicorn.access", "hypercorn.access"]

/-- The handlers of the root logger, its level, and the levels that were set
for others. -/
structure Loggers where
  handlers : List Rendering := []
  root : Int := Level.warning.number
  levels : Table Int := []
deriving DecidableEq

/-- The arguments of a setup. -/
structure Setup where
  environment : Environment
  level : Value := "INFO"
  format : Value := "auto"
  /-- The level of the emitter; if it is not true, that of the root counts. -/
  emitterLevel : Value := .null
deriving DecidableEq

namespace Loggers

/-- The level that was set for a logger, zero if none was. -/
def own (l : Loggers) (name : Text) : Int :=
  (l.levels.get? name).getD 0

/-- The level of a logger is set. -/
def setLevel (l : Loggers) (name : Text) (level : Int) : Loggers :=
  { l with levels := l.levels.put name level }

/-- The level of the emitter for the argument of a setup. -/
def emitterLevelOf (v : Value) : Except Failure Int :=
  if v.truthy then levelOf v else .ok 0

/-- One handler, and the levels of the root, the emitter and the servers. -/
def setUp (l : Loggers) (s : Setup) : Loggers × Except Failure Unit :=
  let l := { l with handlers := [Rendering.choose s.environment s.format] }
  match levelOf s.level with
  | .error e => (l, .error e)
  | .ok root =>
    let l := { l with root }
    match emitterLevelOf s.emitterLevel with
    | .error e => (l, .error e)
    | .ok emitter =>
      let l := l.setLevel emitterLogger emitter
      (serverLoggers.foldl (fun l name => l.setLevel name Level.warning.number) l, .ok ())

/-- A name and the names of the loggers above it, the nearest first. -/
def lineage (name : Text) : List Text :=
  let parts := name.splitOn '.'
  (List.range parts.length).map fun k => Text.join "." (parts.take (parts.length - k))

/-- The level that counts for a logger. -/
def effective (l : Loggers) (name : Text) : Int :=
  match (lineage name).find? fun n => l.own n ≠ 0 with
  | some n => l.own n
  | none => l.root

end Loggers

end AccessLog
