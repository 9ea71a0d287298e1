import Signoff.Text.Quoted
/-!
# Failures

Why the engine or a record store refuses a request.

- `Failure.isInternal` marks the failures that requests on accepted definitions should never meet.
- `Failure.isRetryable` marks those that may pass by themselves.
-/

namespace Signoff

/-- Why a request is refused. -/
inductive Failure where
  | invalidDefinition (reason : String)
  | compilation (reason : String)
  | invariant (reason : String)
  | workflowNotFound (id : String)
  | documentNotFound (id : String)
  | terminalState (document state : String)
  | invalidTransition (state event : String)
  | forbidden (state event : String) (required : List String)
  | storage (reason : String) (retryable : Bool)
deriving DecidableEq

namespace Failure

/-- The wording of a failure. -/
def message : Failure → String
  | .invalidDefinition reason => s!"invalid workflow definition: {reason}"
  | .compilation reason => s!"workflow compilation failed: {reason}"
  | .invariant reason => s!"invariant violation: {reason}"
  | .workflowNotFound id => s!"workflow not found: {id}"
  | .documentNotFound id => s!"document not found: {id}"
  | .terminalState document state => s!"document {document} is in terminal state '{state}'"
  | .invalidTransition state event =>
    s!"invalid transition: cannot apply '{event}' in state '{state}'"
  | .forbidden state event required =>
    s!"forbidden: '{event}' in state '{state}' requires one of {quotedList required}"
  | .storage reason _ => s!"storage error: {reason}"

/-- The code of a failure. -/
def code : Failure → String
  | .invalidDefinition _ => "INVALID_DEFINITION"
  | .compilation _ => "COMPILATION_ERROR"
  | .invariant _ => "INVARIANT_VIOLATION"
  | .workflowNotFound _ => "WORKFLOW_NOT_FOUND"
  | .documentNotFound _ => "DOCUMENT_NOT_FOUND"
  | .terminalState _ _ => "TERMINAL_STATE"
  | .invalidTransition _ _ => "INVALID_TRANSITION"
  | .forbidden _ _ _ => "FORBIDDEN"
  | .storage _ _ => "STORAGE_ERROR"

/-- The request may succeed if it is tried again. -/
def isRetryable : Failure → Bool
  | .storage _ retryable => retryable
  | _ => false

/-- A definition that was accepted does not work. -/
def isInternal : Failure → Bool
  | .compilation _ => true
  | .invariant _ => true
  | _ => false

end Failure

end Signoff
