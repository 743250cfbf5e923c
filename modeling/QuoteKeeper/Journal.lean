/-!
# Log lines
-/

namespace QuoteKeeper

inductive Level where
  | debug
  | info
  | warn
deriving DecidableEq

def Level.text : Level → String
  | debug => "DEBUG"
  | info => "INFO"
  | warn => "WARN"

/-- A message with named fields, all as text. -/
structure LogLine where
  level : Level
  message : String
  fields : List (String × String) := []
deriving DecidableEq

namespace LogLine

def debug (message : String) : LogLine := { level := .debug, message }

def info (message : String) : LogLine := { level := .info, message }

def warn (message : String) : LogLine := { level := .warn, message }

/-- The same line with these fields. -/
def withFields (line : LogLine) (fields : List (String × String)) : LogLine := { line with fields }

end LogLine

end QuoteKeeper
