/-!
# `TagNesting.Log` — log records

Scanning and checking explain what they do as they go. They do it by returning records, so that whoever
runs them decides where the records go, and so that the records are values like any other result.
-/

namespace TagNesting.Log

/-- How much detail a reader must have asked for to see a record. -/
inductive Level where
  | debug
  | trace
deriving DecidableEq, Repr

/-- The level as it is written in a log. -/
def Level.label : Level → String
  | .debug => "DEBUG"
  | .trace => "TRACE"

/-- One line of a log. -/
structure Record where
  level : Level
  text : String
deriving DecidableEq, Repr

end TagNesting.Log
