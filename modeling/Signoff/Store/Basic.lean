import Signoff.Document
import Signoff.Definition.Basic
import Signoff.Failure
/-!
# Record stores

A record store keeps workflows and documents under their ids. An operation on a store has a result
or a failure, and leaves a store in either case.

`Store` asks for the plain operations and offers two that join them with a commitment, which is
carried out once a record is stored: `createDocumentWith` and `modifyDocumentWith`. A store may give
its own versions of these two. An update works on a copy of the document, which is stored only if
the update succeeds; updates and commitments run beside the store and on a state of their own.

`Store.createDocumentThen` and `Store.modifyDocumentThen` are for updates that give the document and
for commitments that leave the store alone.
-/

namespace Signoff

/-- An operation on a state that has a result or a failure. -/
abbrev Action (σ α : Type) := ExceptT Failure (StateM σ) α

/-- Gives a result that is known, or fails. -/
def Action.ofExcept {σ α : Type} : Except Failure α → Action σ α
  | .ok a => pure a
  | .error f => throw f

/-- An operation on the first part of a state. -/
def Action.onFirst {σ ω α : Type} (a : Action σ α) : Action (σ × ω) α := fun (s, w) =>
  let (r, s) := a s
  (r, s, w)

/-- Changes the second part of a state. -/
def Action.changeSecond {σ ω : Type} (f : ω → ω) : Action (σ × ω) Unit :=
  modify fun (s, w) => (s, f w)

/-- An update of a document. It runs beside a store, on a draft and on a state of its own, and
leaves the draft as it has made it even if it fails. -/
abbrev Update (σ ω β : Type) := Action (σ × Document × ω) β

/-- What is carried out once a document is stored. It cannot fail. -/
abbrev Commitment (σ ω : Type) := StateM (σ × ω) Unit

/-- Runs an update on a copy of a document, and gives the draft with the result. The draft of an
update that fails is dropped. -/
def Update.onCopy {σ ω β : Type} (update : Update σ ω β) (d : Document) :
    Action (σ × ω) (Document × β) := fun (s, w) =>
  let (r, s, draft, w) := update (s, d, w)
  (r.map (draft, ·), s, w)

/-- The update that makes a draft what it is updated to. -/
def Update.drafting {σ ω β : Type} (update : Document → Action (σ × ω) (Document × β)) :
    Update σ ω β := fun (s, d, w) =>
  let (r, s, w) := update d (s, w)
  match r with
  | .ok (draft, b) => (.ok b, s, draft, w)
  | .error f => (.error f, s, d, w)

/-- The commitment that changes a state and leaves the store alone. -/
def Commitment.beside {σ ω : Type} (change : ω → ω) : Commitment σ ω :=
  modify fun (s, w) => (s, change w)

/-- Creates a document, and then carries out the commitment about it under its new id. -/
def createWith {σ ω : Type} (createDocument : Document → Action σ String) (d : Document)
    (committed : Document → Commitment σ ω) : Action (σ × ω) String := do
  let id ← (createDocument d).onFirst
  committed { d with id }
  return id

/-- Reads a document, updates it, writes it back, and then carries out the commitment about it. -/
def modifyWith {σ ω β : Type} (getDocument : String → Action σ (Option Document))
    (updateDocument : Document → Action σ Unit) (id : String) (update : Update σ ω β)
    (committed : Document → β → Commitment σ ω) : Action (σ × ω) (Document × β) := do
  match ← (getDocument id).onFirst with
  | none => throw (.documentNotFound id)
  | some d =>
    let (d, b) ← update.onCopy d
    (updateDocument d).onFirst
    committed d b
    return (d, b)

/-- A type of record stores. -/
class Store (σ : Type) where
  /-- Keeps a workflow, under a new id if it has none, and gives the id. -/
  saveWorkflow : Workflow → Action σ String
  /-- The workflow with an id. -/
  getWorkflow : String → Action σ (Option Workflow)
  /-- Keeps a document under a new id and gives the id. -/
  createDocument : Document → Action σ String
  /-- The document with an id. -/
  getDocument : String → Action σ (Option Document)
  /-- Replaces the document that has the same id. -/
  updateDocument : Document → Action σ Unit
  /-- Creates a document and carries out a commitment about it. -/
  createDocumentWith {ω : Type} : Document → (Document → Commitment σ ω) → Action (σ × ω) String :=
    createWith createDocument
  /-- Updates the document with an id and carries out a commitment about it. -/
  modifyDocumentWith {ω β : Type} : String → Update σ ω β → (Document → β → Commitment σ ω) →
      Action (σ × ω) (Document × β) :=
    modifyWith getDocument updateDocument

namespace Store

variable {σ ω β : Type} [Store σ]

/-- Creates a document and changes a state about it. -/
def createDocumentThen (d : Document) (committed : Document → ω → ω) : Action (σ × ω) String :=
  createDocumentWith d fun d => .beside (committed d)

/-- Updates the document with an id, by an update that gives it, and changes a state about it. -/
def modifyDocumentThen (id : String) (update : Document → Action (σ × ω) (Document × β))
    (committed : Document → β → ω → ω) : Action (σ × ω) (Document × β) :=
  modifyDocumentWith id (.drafting update) fun d b => .beside (committed d b)

end Store

end Signoff
