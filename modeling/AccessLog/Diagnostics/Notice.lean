/-
What access logging tells of its own work.

* `Level`: how grave a line is.
* `Notice`: the things told, each with its level, its logger and its wording.
-/
import AccessLog.Value.Display

namespace AccessLog

/-- How grave a line is. -/
inductive Level where
  | debug
  | info
  | warning
  | error
  | critical
deriving DecidableEq

namespace Level

/-- The number of a level. -/
def number : Level → Int
  | debug => 10
  | info => 20
  | warning => 30
  | error => 40
  | critical => 50

/-- The name of a level. -/
def name : Level → Text
  | debug => "DEBUG"
  | info => "INFO"
  | warning => "WARNING"
  | error => "ERROR"
  | critical => "CRITICAL"

end Level

/-- The logger of the emitter, whose level can be set on its own. -/
def emitterLogger : Text := "request_logger.emitter"

/-- What access logging tells of its own work. -/
inductive Notice where
  | overridingToken (name : Text)
  | compiledFormat (fields : List Text)
  | installed (renderer : Text) (immediate : Value) (emitter : Text)
  | opened (address : Text) (port ttl : Int)
  | sendFailed (address : Text) (port : Int) (cause : Text)
  | dropping (type : Value) (cause : Value)
  | closed (sent dropped : Nat)
  | starting (title version environment : Text)
  | shuttingDown (title : Text)
deriving DecidableEq

namespace Notice

/-- How grave a notice is. -/
def level : Notice → Level
  | overridingToken _ | compiledFormat _ | opened _ _ _ | closed _ _ => .debug
  | installed _ _ _ | starting _ _ _ | shuttingDown _ => .info
  | sendFailed _ _ _ | dropping _ _ => .warning

/-- The logger of a notice. -/
def logger : Notice → Text
  | overridingToken _ => "request_logger.tokens"
  | compiledFormat _ => "request_logger.formats"
  | installed _ _ _ => "request_logger.middleware.logging_middleware"
  | opened _ _ _ | sendFailed _ _ _ | dropping _ _ | closed _ _ => emitterLogger
  | starting _ _ _ | shuttingDown _ => "request_logger.main"

/-- The wording of a notice. -/
def message : Notice → Text
  | overridingToken name => "Overriding token ':" ++ name ++ "'"
  | compiledFormat fields =>
    "Compiled format with fields " ++ (Value.list (fields.map .text)).quoted
  | installed renderer immediate emitter =>
    "Request logger installed (renderer=" ++ renderer ++ ", immediate=" ++ immediate.shown ++
      ", emitter=" ++ emitter ++ ")"
  | opened address port ttl =>
    "LWES emitter opened for " ++ address ++ ":" ++ Text.ofInt port ++ " (ttl=" ++
      Text.ofInt ttl ++ ")"
  | sendFailed address port cause =>
    "LWES send to " ++ address ++ ":" ++ Text.ofInt port ++ " failed: " ++ cause
  | dropping type cause => "Dropping LWES event " ++ type.shown ++ ": " ++ cause.shown
  | closed sent dropped =>
    "LWES emitter closed (sent=" ++ Text.ofNat sent ++ ", dropped=" ++ Text.ofNat dropped ++ ")"
  | starting title version environment =>
    "Starting " ++ title ++ " v" ++ version ++ " (" ++ environment ++ ")"
  | shuttingDown title => "Shutting down " ++ title

end Notice

end AccessLog
