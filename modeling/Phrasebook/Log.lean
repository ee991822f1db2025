/-!
# Log lines

What the library and its programs tell about their work, in order of urgency.
-/

namespace Phrasebook

/-- How urgent a line is. -/
inductive Level
  | debug
  | info
  | warn
  | error
  deriving DecidableEq, Repr

/-- The name of a level. -/
def Level.name : Level → String
  | .debug => "DEBUG"
  | .info => "INFO"
  | .warn => "WARN"
  | .error => "ERROR"

/-- A line of the log. -/
structure LogLine where
  level : Level
  text : String
  deriving DecidableEq, Repr

/-- A line with its level in front. -/
def LogLine.render (l : LogLine) : String := l.level.name ++ " " ++ l.text

/-- Whether a line is shown to a user, for whom the details of the debug level are too many. -/
def LogLine.isShown (l : LogLine) : Bool := l.level ≠ .debug

end Phrasebook
