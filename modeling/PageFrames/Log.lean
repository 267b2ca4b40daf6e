/-
# The log

An operation that is worth telling about leaves a record in the log: a level and a text.
Records are only ever added, and nothing an allocator does depends on those that are there.

Every level is taken as enabled.  So the text of a record is always put together, and what it tells
is always computed: a page count or a last address that does not fit its word is a fault, and the
fault ends the operation there, like any other.
-/

namespace PageFrames

/-- How much a record matters. -/
inductive LogLevel where
  | warn
  | info
  | debug
  | trace
  deriving DecidableEq

/-- The name of the level. -/
def LogLevel.name : LogLevel → String
  | warn => "WARN"
  | info => "INFO"
  | debug => "DEBUG"
  | trace => "TRACE"

/-- One record of the log. -/
structure LogRecord where
  level : LogLevel
  text : String
  deriving DecidableEq

/-- The line of a record. -/
def LogRecord.line (record : LogRecord) : String := record.level.name ++ " " ++ record.text

end PageFrames
