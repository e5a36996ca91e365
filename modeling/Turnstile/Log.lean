/-!
# The log

Operations that go on after a failure tell of it in the log.
-/

set_option autoImplicit false

namespace Turnstile

/-- How much an event matters. -/
inductive Severity where
  | debug
  | info
  | warn
  | error
deriving DecidableEq, Repr

/-- The name of a severity. -/
def Severity.name : Severity → String
  | .debug => "DEBUG"
  | .info => "INFO"
  | .warn => "WARN"
  | .error => "ERROR"

/-- Something worth telling: how much it matters, a message, and named texts. -/
structure LogEvent where
  severity : Severity
  message : String
  fields : List (String × String)
deriving DecidableEq, Repr

end Turnstile
