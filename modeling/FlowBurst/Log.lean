/-!
# Log records

What the program reports while it runs: a level, a message and named values.
-/

namespace FlowBurst

/-- The levels of log records that say something about the course of a run. -/
inductive LogLevel
  | info
  | warn
  deriving DecidableEq, Repr

/-- The name of a level. -/
def LogLevel.name : LogLevel → String
  | info => "INFO"
  | warn => "WARN"

/-- A log record. -/
structure LogRecord where
  level : LogLevel
  message : String
  fields : List (String × String)
  deriving DecidableEq, Repr

/-- The line of a log record. -/
def LogRecord.line (r : LogRecord) : String :=
  " ".intercalate (r.level.name :: r.message :: r.fields.map fun (k, v) => k ++ "=" ++ v)

end FlowBurst
