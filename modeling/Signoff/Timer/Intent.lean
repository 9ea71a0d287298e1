import Signoff.Document
import Signoff.Workflow.Machine
/-!
# Timer intents

An intent asks a dispatcher to act on a document at a time: because its deadline has passed, or
because it comes back for approval.
-/

namespace Signoff

open Json (Schema memberOf? nameOf)

/-- Why a timer fires. -/
inductive TimerKind where
  | deadline
  | reapproval
deriving DecidableEq

/-- The names of the kinds of timers. -/
def TimerKind.names : List (String × TimerKind) :=
  [("sla_breach", .deadline), ("reapproval", .reapproval)]

/-- A wish to act on a document at a time. -/
structure Intent where
  documentId : String
  workflowId : String
  kind : TimerKind
  fireAt : Instant
  state : String
  target : Option String
deriving DecidableEq

namespace Intent

/-- How an intent is written. -/
def schema : Schema Intent :=
  .record "TimerIntent"
    (.need "documentId" .text <| .need "workflowId" .text <|
      .need "kind" (.choice TimerKind.names) <| .need "fireAt" .instant <| .need "state" .text <|
      .orElse "targetState" none (.optional .text) .nil)
    fun (documentId, workflowId, kind, fireAt, state, target, ()) =>
      ⟨documentId, workflowId, kind, fireAt, state, target⟩

/-- An intent as JSON; a target that is not set is left out. -/
def toJson (i : Intent) : Json :=
  .object ([("documentId", .string i.documentId), ("workflowId", .string i.workflowId),
      ("kind", .string (nameOf TimerKind.names i.kind)), ("fireAt", i.fireAt.toJson),
      ("state", .string i.state)] ++
    memberOf? "targetState" .string i.target)

/-- The intent about a document's deadline. -/
def ofDeadline (d : Document) (at_ : Instant) : Intent :=
  ⟨d.id, d.workflowId, .deadline, at_, d.current, none⟩

/-- The intent about a document's return for approval. -/
def ofReapproval (d : Document) (at_ : Instant) (target : String) : Intent :=
  ⟨d.id, d.workflowId, .reapproval, at_, d.current, some target⟩

/-- The intents that follow from a document, the deadline first. -/
def ofDocument (d : Document) (m : Machine) : List Intent :=
  let deadline := match d.dueAt with
    | some t => [ofDeadline d t]
    | none => []
  let reapproval := match d.nextReapproval, m.reapproval with
    | some t, some r => [ofReapproval d t r.target]
    | _, _ => []
  deadline ++ reapproval

end Intent

end Signoff
