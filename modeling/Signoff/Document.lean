import Signoff.Json.Schema.Fields
/-!
# Documents

A document runs through the states of a workflow and carries data that the workflow does not look
at. It remembers when it was made and last moved, when it has to leave its state, and when it comes
back for approval.
-/

namespace Signoff

open Json (Schema memberIf memberOf?)

/-- A document in a state of a workflow. -/
structure Document where
  id : String
  workflowId : String
  current : String
  data : Value
  createdAt : Instant
  updatedAt : Instant
  dueAt : Option Instant
  nextReapproval : Option Instant

namespace Document

/-- How a document is written. -/
def schema : Schema Document :=
  .record "Document"
    (.orElse "id" "" .text <| .need "workflowId" .text <| .need "current" .text <|
      .orElse "data" .null .value <| .need "createdAt" .instant <| .need "updatedAt" .instant <|
      .orElse "dueAt" none (.optional .instant) <|
      .orElse "nextReapproval" none (.optional .instant) .nil)
    fun (id, workflowId, current, data, createdAt, updatedAt, dueAt, nextReapproval, ()) =>
      ⟨id, workflowId, current, data, createdAt, updatedAt, dueAt, nextReapproval⟩

/-- A document as JSON; null data and times that are not set are left out. -/
def toJson (d : Document) : Json :=
  .object ([("id", .string d.id), ("workflowId", .string d.workflowId),
      ("current", .string d.current)] ++
    memberIf (!d.data.isNull) "data" d.data.json ++
    [("createdAt", d.createdAt.toJson), ("updatedAt", d.updatedAt.toJson)] ++
    memberOf? "dueAt" Instant.toJson d.dueAt ++
    memberOf? "nextReapproval" Instant.toJson d.nextReapproval)

/-- A document that has just been made and has no id yet. -/
def create (workflowId state : String) (data : Value) (now : Instant) : Document :=
  ⟨"", workflowId, state, data, now, now, none, none⟩

/-- The document in another state, whose deadline is not known yet. -/
def enter (d : Document) (state : String) (now : Instant) : Document :=
  { d with current := state, updatedAt := now, dueAt := none }

end Document

end Signoff
