import Signoff.Store.Basic
import Signoff.Store.Ids
import Signoff.Table.Lemmas
/-!
# Records in memory

A store that keeps its records in tables. New ids come from a source.

A document that is modified stays under the id by which it was asked for, and the commitment is
about what is stored there then. While updates and commitments run the document is locked: neither
of them may ask the store for it.
-/

namespace Signoff

/-- Records in tables, the numbers of the ids handed out so far, and where the ids come from. -/
structure MemoryStore where
  workflows : Table String Workflow
  documents : Table String Document
  workflowIds : Nat
  documentIds : Nat
  ids : IdSource

namespace MemoryStore

/-- No records. Ids show their numbers unless another source is given. -/
def empty (ids : IdSource := .numbering) : MemoryStore := ⟨.empty, .empty, 0, 0, ids⟩

instance : Inhabited MemoryStore := ⟨empty⟩

/-- The number of workflows. -/
def workflowCount (s : MemoryStore) : Nat := s.workflows.size

/-- Keeps a workflow under its id, or under a new one if it has none. -/
def saveWorkflow (w : Workflow) : Action MemoryStore String := do
  let s ← get
  if w.id.isEmpty then
    let id := s.ids.workflowId (s.workflowIds + 1)
    set { s with
      workflows := s.workflows.insert id { w with id }
      workflowIds := s.workflowIds + 1 }
    return id
  else
    set { s with workflows := s.workflows.insert w.id w }
    return w.id

/-- Puts a document under an id. -/
def writeDocument (id : String) (d : Document) : Action MemoryStore Unit :=
  modify fun s => { s with documents := s.documents.insert id d }

/-- Keeps a document under a new id. -/
def createDocument (d : Document) : Action MemoryStore String := do
  let s ← get
  let id := s.ids.documentId (s.documentIds + 1)
  writeDocument id { d with id }
  modify fun s => { s with documentIds := s.documentIds + 1 }
  return id

/-- The commitment about the document that is stored under an id. -/
def commit {ω : Type} (id : String) (committed : Document → Commitment MemoryStore ω) :
    Action (MemoryStore × ω) Unit := do
  if let some current := (← get).1.documents.get? id then committed current

/-- Keeps a document under a new id, and then carries out the commitment about it. -/
def createDocumentWith {ω : Type} (d : Document) (committed : Document → Commitment MemoryStore ω) :
    Action (MemoryStore × ω) String := do
  let id ← (createDocument d).onFirst
  commit id committed
  return id

/-- Replaces the document that has the same id. -/
def updateDocument (d : Document) : Action MemoryStore Unit := do
  let s ← get
  if s.documents.contains d.id then writeDocument d.id d
  else throw (.documentNotFound d.id)

/-- Updates the document with an id in its place, and then carries out the commitment about it. -/
def modifyDocumentWith {ω β : Type} (id : String) (update : Update MemoryStore ω β)
    (committed : Document → β → Commitment MemoryStore ω) :
    Action (MemoryStore × ω) (Document × β) := do
  match (← get).1.documents.get? id with
  | none => throw (.documentNotFound id)
  | some current =>
    let (draft, b) ← update.onCopy current
    (writeDocument id draft).onFirst
    commit id fun current => committed current b
    return (draft, b)

instance : Store MemoryStore where
  saveWorkflow := saveWorkflow
  getWorkflow id := return (← get).workflows.get? id
  createDocument := createDocument
  getDocument id := return (← get).documents.get? id
  updateDocument := updateDocument
  createDocumentWith := createDocumentWith
  modifyDocumentWith := modifyDocumentWith

end MemoryStore

end Signoff
