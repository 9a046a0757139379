/-
Lines as they are written.

* `Line`: a text with its level, its logger and the context it was told in.
* `Line.json`, `Line.console`: a line for machines and for people; what is
  bound under the names that a line has of its own is not told.
* `Loggers.passes`: the level of a line's own logger lets it pass.
* `Loggers.write`: what the handlers write of a line, broken at line ends.
-/
import AccessLog.Diagnostics.Loggers
import AccessLog.Diagnostics.Template
import AccessLog.Exchange.Loop

namespace AccessLog

/-- A line with what it is told under. -/
structure Line where
  logger : Text
  level : Level
  event : Text
  context : Context
deriving DecidableEq

namespace Level

/-- The level of a name. -/
def ofName (t : Text) : Level :=
  match [debug, info, warning, error, critical].find? fun l => l.name = t with
  | some l => l
  | none => info

/-- The name of a level inside a line. -/
def shown (l : Level) : Text :=
  l.name.lower

/-- The colour of a level, by its number on a terminal. -/
def colour : Level → Text
  | debug | info => "32"
  | warning => "33"
  | error | critical => "31"

end Level

namespace Line

/-- What stands for the time of a line. -/
def timestamp : Text := "<ts>"

/-- The names that a line has of its own; what is bound under them is not told. -/
def ownNames : List Text := ["event", "level", "logger", "timestamp"]

/-- The context of a line without the names of its own, in order. -/
def others (l : Line) : Context :=
  (Table.sorted l.context).filter fun entry => !ownNames.contains entry.1

/-- A line as one JSON object. -/
def json (l : Line) : Text :=
  let style := JsonStyle.line
  let own : Table Text :=
    [("event", l.event), ("level", l.level.shown), ("logger", l.logger), ("timestamp", timestamp)]
  style.object (l.others.map (fun (k, v) => (k, style.written v)) ++
    own.map fun (k, t) => (k, style.quoted t))

/-- A terminal's command for a colour or a style. -/
def style (code : Text) : Text :=
  .ofNat 0x1B :: ("[" ++ code ++ "m")

/-- Back to no colour and no style. -/
def reset : Text := style "0"

/-- A bound value on the console: a text is quoted only if it has to be. -/
def bound : Value → Text
  | .text t =>
    if t.any fun c => c = ' ' || c = '\t' || c = '=' || c = '\r' || c = '\n' || c = '"' || c = '\''
    then t.quoted else t
  | v => v.quoted

/-- A line on the console, in colour. -/
def console (l : Line) : Text :=
  let bright := style "1"
  let head := style "2" ++ timestamp ++ reset ++ " [" ++ style l.level.colour ++ bright ++
    l.level.shown.padRight 9 ' ' ++ reset ++ "] " ++ bright ++ l.event.padRight 30 ' ' ++ reset ++
    " [" ++ reset ++ bright ++ style "34" ++ l.logger ++ reset ++ "]" ++ reset
  let entry (k : Text) (v : Value) : Text :=
    " " ++ style "36" ++ k ++ reset ++ "=" ++ style "35" ++ bound v ++ reset
  head ++ l.others.flatMap fun (k, v) => entry k v

/-- A line by a rendering. -/
def render (l : Line) : Rendering → Text
  | .console => l.console
  | .json => l.json

/-- The line of something told, if its arguments fit. -/
def ofTold? : Told → Option Line
  | .notice n context => some ⟨n.logger, n.level, n.message, context⟩
  | .line call context =>
    (Template.fillIn? call.message.shown call.arguments).map fun event =>
      ⟨call.logger, .ofName call.level, event, context⟩

end Line

namespace Loggers

/-- A line gets past the level of its own logger. -/
def passes (l : Loggers) (line : Line) : Bool :=
  l.own line.logger ≤ line.level.number

/-- What the handlers write of a line. -/
def write (l : Loggers) (line : Line) : List Text :=
  if l.effective line.logger ≤ line.level.number then
    l.handlers.flatMap fun r => (line.render r).splitOn '\n'
  else []

end Loggers

end AccessLog
