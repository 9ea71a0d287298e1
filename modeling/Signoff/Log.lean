/-!
# The log

Lines that tell the host of the service what deserves attention.
-/

namespace Signoff

/-- How much a line of the log matters. -/
inductive Severity where
  | warning
  | error
deriving DecidableEq

/-- A line of the log. -/
structure LogLine where
  severity : Severity
  text : String
deriving DecidableEq

end Signoff
