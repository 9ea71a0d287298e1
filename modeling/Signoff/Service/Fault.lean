import Signoff.Failure
import Signoff.Store.Files
import Signoff.Message.Line
import Signoff.Message.ErrorCode
import Signoff.Settings.Error
/-!
# Faults of the service

Everything that a client or the host of the service may be told has gone wrong, with the code that
goes into a response.
-/

namespace Signoff

/-- What has gone wrong. -/
inductive Fault where
  | failure (f : Failure)
  | storage (e : StorageError)
  | line (e : LineError)
  | json (e : Json.Error)
  | settings (e : SettingsError)
  | badRequest (reason : String)
  | tooLarge (size limit : Nat)
  | timersDisabled
deriving DecidableEq

/-- The code of a failure in a response; those that should not happen share one. -/
def Failure.errorCode : Failure → ErrorCode
  | .invalidDefinition _ => .invalidDefinition
  | .compilation _ => .internalError
  | .invariant _ => .internalError
  | .workflowNotFound _ => .workflowNotFound
  | .documentNotFound _ => .documentNotFound
  | .terminalState _ _ => .terminalState
  | .invalidTransition _ _ => .invalidTransition
  | .forbidden _ _ _ => .forbidden
  | .storage _ _ => .storageError

namespace Fault

/-- The wording of a fault. -/
def message : Fault → String
  | .failure f => f.message
  | .storage e => s!"storage error: {e.message}"
  | .line e => s!"protocol error: {e.message}"
  | .json e => s!"JSON error: {e.message}"
  | .settings e => e.message
  | .badRequest reason => s!"invalid request: {reason}"
  | .tooLarge size limit => s!"definition too large: {size} bytes (max {limit})"
  | .timersDisabled => "timers are disabled"

/-- The code of a fault. -/
def code : Fault → ErrorCode
  | .failure f => f.errorCode
  | .storage _ => .storageError
  | .line _ => .badRequest
  | .json _ => .badRequest
  | .settings _ => .internalError
  | .badRequest _ => .badRequest
  | .tooLarge _ _ => .payloadTooLarge
  | .timersDisabled => .badRequest

/-- The request may succeed later: the store knows best, and else the code tells. -/
def isRetryable : Fault → Bool
  | .failure (.storage _ retryable) => retryable
  | .storage e => e.isRetryable
  | fault => fault.code.isRetryable

end Fault

end Signoff
