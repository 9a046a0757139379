/-
Settings of a program that logs its access.

* `Settings`: all settings, with their defaults.
* `Settings.ofTable`: settings by name, each checked on its own, and then the
  transport as a whole.
* `Settings.violations`: what is wrong with the transport.
* `Settings.read`: given values come before the environment, that before a
  file, and that before the defaults.
* `Settings.skipPaths`: the paths whose records are left out.
* `Settings.transport`: the transport options.
-/
import AccessLog.Emitter.Options
import AccessLog.Environment
import AccessLog.Settings.File
import AccessLog.Text.Case

namespace AccessLog

/-- All settings. -/
structure Settings where
  name : Text := "lwes-request-logger"
  environment : Environment := .development
  logLevel : Text := "INFO"
  logFormat : Text := "auto"
  /-- The level of the emitter; without it that of the root counts. -/
  emitterLevel : Option Text := none
  /-- The name of a format, or specifiers with blanks between them. -/
  format : Text := "default"
  immediate : Bool := false
  /-- Paths with commas between them. -/
  skipText : Text := "/health"
  address : Text := "127.0.0.1"
  port : Int := 1111
  ttl : Int := 3
  type : Text := defaultEventType
deriving DecidableEq

namespace Settings

/-- What is wrong with the transport, in the order of port, hop limit and type. -/
def violations (s : Settings) : List Text :=
  let port : List Text := ["LWES_PORT must be between 1 and 65535"]
  let ttl : List Text := ["LWES_TTL must be between 0 and 255"]
  let type : List Text := ["LWES_TYPE must be non-empty"]
  (if 0 < s.port ∧ s.port < 65536 then [] else port) ++
    (if 0 ≤ s.ttl ∧ s.ttl ≤ 255 then [] else ttl) ++
    (if s.type.trim.isEmpty then type else [])

/-- The issue with the transport as a whole. -/
def transportIssue (violations : List Text) : Issue :=
  ⟨[], .stated ("LWES configuration check failed:\n  - " ++ Text.join "\n  - " violations)⟩

open Validation in
/-- The settings of a table; names of no setting do not count, and all issues
are told in the order of the settings. -/
def ofTable (given : Table Value) : Except (List Issue) Settings :=
  let d : Settings := {}
  let name := option given "app_name" d.name readText
  let environment := option given "app_env" d.environment (readAmong Environment.byName)
  let logLevel := option given "log_level" d.logLevel readText
  let logFormat := option given "log_format" d.logFormat readText
  let emitterLevel := option given "lwes_log_level" d.emitterLevel readOptionalText
  let format := option given "access_log_format" d.format readText
  let immediate := option given "access_log_immediate" d.immediate readFlag
  let skipText := option given "access_log_skip_paths" d.skipText readText
  let address := option given "lwes_address" d.address readText
  let port := option given "lwes_port" d.port readInteger
  let ttl := option given "lwes_ttl" d.ttl readInteger
  let type := option given "lwes_type" d.type readText
  let settings : Except Issue Settings := do
    return ⟨← name, ← environment, ← logLevel, ← logFormat, ← emitterLevel, ← format,
      ← immediate, ← skipText, ← address, ← port, ← ttl, ← type⟩
  match settings with
  | .error _ => .error (name.issues ++ environment.issues ++ logLevel.issues ++
      logFormat.issues ++ emitterLevel.issues ++ format.issues ++ immediate.issues ++
      skipText.issues ++ address.issues ++ port.issues ++ ttl.issues ++ type.issues)
  | .ok s => match s.violations with
    | [] => .ok s
    | violations => .error [transportIssue violations]

/-- Texts under lower-case names, where the last of a name counts. -/
def lowerNames {α : Type} (entries : List (Text × α)) : Table α :=
  Table.ofList (entries.map fun (n, v) => (n.lower, v))

/-- The values of all sources, the more important ones put over the others. -/
def gather (given : Table Value) (environment : Table Text) (file : Option Text) :
    Table Value :=
  let fromFile := lowerNames ((file.map (SettingsFile.read environment)).getD [])
  let fromEnvironment := lowerNames environment
  let stated := fromFile.filterMap fun (n, v) => v.map fun t => (n, Value.text t)
  (Table.putAll stated (fromEnvironment.map fun (n, t) => (n, Value.text t))).putAll given

/-- The settings of all sources. -/
def read (given : Table Value) (environment : Table Text) (file : Option Text) :
    Except Failure Settings :=
  match ofTable (gather given environment file) with
  | .ok s => .ok s
  | .error issues => .error (.invalid issues)

/-- The program runs in development. -/
def isDevelopment (s : Settings) : Bool :=
  s.environment = .development

/-- The pieces between the commas, without the blanks around them and without
empty ones, each once. -/
def skipPathsOf (t : Text) : List Text :=
  (((t.splitOn ',').map Text.trim).filter (!·.isEmpty)).eraseDups

/-- The paths whose records are left out. -/
def skipPaths (s : Settings) : List Text :=
  skipPathsOf s.skipText

/-- The transport options. -/
def transport (s : Settings) : Except Failure TransportOptions :=
  match TransportOptions.check s.address s.port s.ttl s.type with
  | .ok options => .ok options
  | .error issues => .error (.invalid issues)

end Settings

end AccessLog
