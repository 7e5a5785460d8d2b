/-!
# Log records

What the library tells about its work. Nothing is written anywhere: the operations that log return their
records, in the order in which they arose, and the caller passes them on.
-/

namespace Recast

/-- How much a record matters. -/
inductive LogLevel where
  | error
  | warn
  | info
  | debug
  | trace
deriving DecidableEq, Repr

/-- The level as it is written in front of a record. -/
def LogLevel.label : LogLevel → String
  | .error => "ERROR"
  | .warn => "WARN"
  | .info => "INFO"
  | .debug => "DEBUG"
  | .trace => "TRACE"

/-- One message with its level. -/
structure LogRecord where
  level : LogLevel
  text : String
deriving DecidableEq, Repr

/-- The record on one line, its level first. -/
def LogRecord.render (record : LogRecord) : String := record.level.label ++ " " ++ record.text

/-- Records, the oldest first. -/
abbrev Log := List LogRecord

end Recast
