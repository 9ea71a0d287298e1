import Signoff.Json.Schema.Fields
/-!
# Parameters and results

What the operations take and give.
-/

namespace Signoff

open Json (Schema memberOf?)

/-- The parameters of creating a workflow. -/
structure CreateWorkflowParams where
  definition : Value

namespace CreateWorkflowParams

/-- How they are written. -/
def schema : Schema CreateWorkflowParams :=
  .record "CreateWorkflowParams" (.need "definition" .value .nil) fun (d, ()) => ⟨d⟩

/-- The parameters as JSON. -/
def toJson (p : CreateWorkflowParams) : Json := .object [("definition", p.definition.json)]

end CreateWorkflowParams

/-- The result of creating a workflow. -/
structure CreateWorkflowResult where
  workflowId : String
  checksum : String

namespace CreateWorkflowResult

/-- How it is written. -/
def schema : Schema CreateWorkflowResult :=
  .record "CreateWorkflowResult" (.need "workflow_id" .text <| .need "checksum" .text .nil)
    fun (workflowId, checksum, ()) => ⟨workflowId, checksum⟩

/-- The result as JSON. -/
def toJson (r : CreateWorkflowResult) : Json :=
  .object [("workflow_id", .string r.workflowId), ("checksum", .string r.checksum)]

end CreateWorkflowResult

/-- The parameters of getting a workflow. -/
structure GetWorkflowParams where
  workflowId : String

namespace GetWorkflowParams

/-- How they are written. -/
def schema : Schema GetWorkflowParams :=
  .record "GetWorkflowParams" (.need "workflow_id" .text .nil) fun (id, ()) => ⟨id⟩

/-- The parameters as JSON. -/
def toJson (p : GetWorkflowParams) : Json := .object [("workflow_id", .string p.workflowId)]

end GetWorkflowParams

/-- The result of getting a workflow. -/
structure GetWorkflowResult where
  definition : Value
  checksum : String

namespace GetWorkflowResult

/-- How it is written. -/
def schema : Schema GetWorkflowResult :=
  .record "GetWorkflowResult" (.need "definition" .value <| .need "checksum" .text .nil)
    fun (definition, checksum, ()) => ⟨definition, checksum⟩

/-- The result as JSON. -/
def toJson (r : GetWorkflowResult) : Json :=
  .object [("definition", r.definition.json), ("checksum", .string r.checksum)]

end GetWorkflowResult

/-- The parameters of creating a document. -/
structure CreateDocumentParams where
  workflowId : String
  data : Value

namespace CreateDocumentParams

/-- How they are written. -/
def schema : Schema CreateDocumentParams :=
  .record "CreateDocumentParams" (.need "workflow_id" .text <| .orElse "data" .null .value .nil)
    fun (workflowId, data, ()) => ⟨workflowId, data⟩

/-- The parameters as JSON. -/
def toJson (p : CreateDocumentParams) : Json :=
  .object [("workflow_id", .string p.workflowId), ("data", p.data.json)]

end CreateDocumentParams

/-- The parameters of getting a document. -/
structure GetDocumentParams where
  documentId : String

namespace GetDocumentParams

/-- How they are written. -/
def schema : Schema GetDocumentParams :=
  .record "GetDocumentParams" (.need "document_id" .text .nil) fun (id, ()) => ⟨id⟩

/-- The parameters as JSON. -/
def toJson (p : GetDocumentParams) : Json := .object [("document_id", .string p.documentId)]

end GetDocumentParams

/-- The parameters of firing an event. -/
structure ApplyEventParams where
  documentId : String
  event : String
  roles : List String

namespace ApplyEventParams

/-- How they are written. -/
def schema : Schema ApplyEventParams :=
  .record "ApplyEventParams"
    (.need "document_id" .text <| .need "event" .text <| .orElse "roles" [] (.list .text) .nil)
    fun (documentId, event, roles, ()) => ⟨documentId, event, roles⟩

/-- The parameters as JSON. -/
def toJson (p : ApplyEventParams) : Json :=
  .object [("document_id", .string p.documentId), ("event", .string p.event),
    ("roles", .array (p.roles.map .string))]

end ApplyEventParams

/-- The parameters of listing the events of a document. -/
structure AvailableEventsParams where
  documentId : String
  roles : List String

namespace AvailableEventsParams

/-- How they are written. -/
def schema : Schema AvailableEventsParams :=
  .record "AvailableEventsParams"
    (.need "document_id" .text <| .orElse "roles" [] (.list .text) .nil)
    fun (documentId, roles, ()) => ⟨documentId, roles⟩

/-- The parameters as JSON. -/
def toJson (p : AvailableEventsParams) : Json :=
  .object [("document_id", .string p.documentId), ("roles", .array (p.roles.map .string))]

end AvailableEventsParams

/-- The events that an actor may fire on a document. -/
structure AvailableEvents where
  documentId : String
  current : String
  events : List String
deriving DecidableEq

namespace AvailableEvents

/-- How they are written. -/
def schema : Schema AvailableEvents :=
  .record "AvailableEventsResult"
    (.need "document_id" .text <| .need "current" .text <| .need "events" (.list .text) .nil)
    fun (documentId, current, events, ()) => ⟨documentId, current, events⟩

/-- The events as JSON. -/
def toJson (a : AvailableEvents) : Json :=
  .object [("document_id", .string a.documentId), ("current", .string a.current),
    ("events", .array (a.events.map .string))]

end AvailableEvents

/-- The parameters of polling timers. -/
structure PollTimersParams where
  now : Option Instant

namespace PollTimersParams

/-- How they are written. -/
def schema : Schema PollTimersParams :=
  .record "PollTimersParams" (.orElse "now" none (.optional .instant) .nil) fun (now, ()) => ⟨now⟩

/-- The parameters as JSON. -/
def toJson (p : PollTimersParams) : Json := .object (memberOf? "now" Instant.toJson p.now)

end PollTimersParams

/-- The result of polling timers: the intents that were due, and what remains. -/
structure PollTimersResult where
  timers : List Value
  pending : Nat
  nextFireAt : Option Instant

namespace PollTimersResult

/-- How it is written. -/
def schema : Schema PollTimersResult :=
  .record "PollTimersResult"
    (.need "timers" (.list .value) <|
      .need "pending" (.map Fin.val (.natural "usize" UInt64.size)) <|
        .orAbsent "next_fire_at" .instant .nil)
    fun (timers, pending, nextFireAt, ()) => ⟨timers, pending, nextFireAt⟩

/-- The result as JSON. -/
def toJson (r : PollTimersResult) : Json :=
  .object ([("timers", .array (r.timers.map Value.json)), ("pending", .ofNat r.pending)] ++
    memberOf? "next_fire_at" Instant.toJson r.nextFireAt)

end PollTimersResult

end Signoff
