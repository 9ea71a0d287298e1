import Signoff.Json.Schema.Fields
/-!
# Requests

A request names an operation and carries its parameters, which stay uninterpreted until the
operation is carried out.
-/

namespace Signoff

open Json (Schema nameOf)

/-- What can be asked for. -/
inductive Operation where
  | ping
  | info
  | createWorkflow
  | getWorkflow
  | createDocument
  | getDocument
  | applyEvent
  | availableEvents
  | pollTimers
deriving DecidableEq, Repr

/-- The names of the operations. -/
def Operation.names : List (String × Operation) :=
  [("PING", .ping), ("INFO", .info), ("CREATE_WORKFLOW", .createWorkflow),
    ("GET_WORKFLOW", .getWorkflow), ("CREATE_DOCUMENT", .createDocument),
    ("GET_DOCUMENT", .getDocument), ("APPLY_EVENT", .applyEvent),
    ("AVAILABLE_EVENTS", .availableEvents), ("POLL_TIMERS", .pollTimers)]

/-- The name of an operation. -/
def Operation.name (o : Operation) : String := nameOf names o

/-- The type that a message declares. -/
inductive MessageKind where
  | request
  | response
deriving DecidableEq, Repr

/-- The names of the types of messages. -/
def MessageKind.names : List (String × MessageKind) :=
  [("request", .request), ("response", .response)]

/-- The name of a type of messages. -/
def MessageKind.name (k : MessageKind) : String := nameOf names k

/-- A request. -/
structure Request where
  kind : MessageKind
  id : String
  operation : Operation
  params : Value

namespace Request

/-- How a request is written. -/
def schema : Schema Request :=
  .record "Request"
    (.need "type" (.choice MessageKind.names) <| .need "id" .text <|
      .need "op" (.choice Operation.names) <| .orElse "params" .null .value .nil)
    fun (kind, id, operation, params, ()) => ⟨kind, id, operation, params⟩

/-- A request as JSON. -/
def toJson (r : Request) : Json :=
  .object [("type", .string r.kind.name), ("id", .string r.id), ("op", .string r.operation.name),
    ("params", r.params.json)]

end Request

end Signoff
