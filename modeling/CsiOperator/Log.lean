import CsiOperator.Json
/-!
Log events: what the operator reports while it works. Functions that log return their events
beside their result, so that what is logged is part of what a function does.
-/

namespace CsiOperator

/-- How severe a log event is. -/
inductive LogLevel where
  | error
  | warn
  | info
  | debug
deriving DecidableEq, Repr, Inhabited

/-- The level's name as log lines show it. -/
def LogLevel.name : LogLevel → String
  | .error => "ERROR"
  | .warn => "WARN"
  | .info => "INFO"
  | .debug => "DEBUG"

/-- One log event: a level, a message and extra named values. -/
structure LogEvent where
  level : LogLevel
  message : String
  fields : List (String × Json) := []
deriving Inhabited

namespace LogEvent

/-- An error event. -/
def error (message : String) : LogEvent := { level := .error, message }

/-- A warning event. -/
def warn (message : String) : LogEvent := { level := .warn, message }

/-- An informational event. -/
def info (message : String) : LogEvent := { level := .info, message }

end LogEvent

end CsiOperator
