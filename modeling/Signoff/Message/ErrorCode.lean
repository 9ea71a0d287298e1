import Signoff.Json.Schema.Fields
/-!
# Error codes

The codes that error responses carry, with the HTTP status that goes with each.
-/

namespace Signoff

open Json (Schema nameOf)

/-- What an error response is about. -/
inductive ErrorCode where
  | badRequest
  | payloadTooLarge
  | invalidDefinition
  | forbidden
  | workflowNotFound
  | documentNotFound
  | terminalState
  | invalidTransition
  | storageError
  | internalError
deriving DecidableEq, Repr

namespace ErrorCode

/-- The names of the codes. -/
def names : List (String × ErrorCode) :=
  [("BAD_REQUEST", .badRequest), ("PAYLOAD_TOO_LARGE", .payloadTooLarge),
    ("INVALID_DEFINITION", .invalidDefinition), ("FORBIDDEN", .forbidden),
    ("WORKFLOW_NOT_FOUND", .workflowNotFound), ("DOCUMENT_NOT_FOUND", .documentNotFound),
    ("TERMINAL_STATE", .terminalState), ("INVALID_TRANSITION", .invalidTransition),
    ("STORAGE_ERROR", .storageError), ("INTERNAL_ERROR", .internalError)]

/-- The name of a code. -/
def name (c : ErrorCode) : String := nameOf names c

/-- A code is written by its name. -/
def schema : Schema ErrorCode := .choice names

/-- A code as JSON. -/
def toJson (c : ErrorCode) : Json := .string c.name

/-- A request that failed with the code may succeed later. -/
def isRetryable : ErrorCode → Bool
  | .storageError => true
  | _ => false

/-- The HTTP status of a code. -/
def httpStatus : ErrorCode → UInt16
  | .badRequest => 400
  | .invalidDefinition => 400
  | .forbidden => 403
  | .workflowNotFound => 404
  | .documentNotFound => 404
  | .terminalState => 409
  | .invalidTransition => 409
  | .payloadTooLarge => 413
  | .internalError => 500
  | .storageError => 503

end ErrorCode

end Signoff
