import GrafanaInstall.Json

/-!
# Events

What the operator writes to its log.
-/

namespace GrafanaInstall

inductive Level where
  | debug
  | info
  | warn
  | error
  deriving DecidableEq

def Level.text : Level → String
  | .debug => "DEBUG"
  | .info => "INFO"
  | .warn => "WARN"
  | .error => "ERROR"

structure Event where
  level : Level
  message : String
  fields : List (String × Json) := []
  deriving DecidableEq

end GrafanaInstall
