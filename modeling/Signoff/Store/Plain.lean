import Signoff.Store.Basic
import Signoff.Store.Ids
import Signoff.Table.Lemmas
/-!
# Records in two maps

The least store: two maps and the plain operations, so that commitments are joined to them in the
general way. A new id is that with the number of records of its kind, and updating a document does
not ask whether there is one.
-/

namespace Signoff

/-- Records in two maps, and where new ids come from. -/
structure PlainStore where
  workflows : Table String Workflow
  documents : Table String Document
  ids : IdSource

namespace PlainStore

/-- No records. Ids show their numbers unless another source is given. -/
def empty (ids : IdSource := .numbering) : PlainStore := ⟨.empty, .empty, ids⟩

instance : Inhabited PlainStore := ⟨empty⟩

/-- Keeps a workflow under its id, or under a new one if it has none. -/
def saveWorkflow (w : Workflow) : Action PlainStore String := do
  let s ← get
  let id := if w.id.isEmpty then s.ids.workflowId (s.workflows.size + 1) else w.id
  set { s with workflows := s.workflows.insert id { w with id } }
  return id

/-- Keeps a document under a new id. -/
def createDocument (d : Document) : Action PlainStore String := do
  let s ← get
  let id := s.ids.documentId (s.documents.size + 1)
  set { s with documents := s.documents.insert id { d with id } }
  return id

instance : Store PlainStore where
  saveWorkflow := saveWorkflow
  getWorkflow id := return (← get).workflows.get? id
  createDocument := createDocument
  getDocument id := return (← get).documents.get? id
  updateDocument d := modify fun s => { s with documents := s.documents.insert d.id d }

end PlainStore

end Signoff
