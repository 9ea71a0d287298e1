import Signoff.Disk
import Signoff.Store.Basic
import Signoff.Store.Ids
import Signoff.Json.Printer
import Signoff.Json.Schema.Reader
/-!
# Records in files

A store that keeps every record in a file of its own: the workflow with an id in
`workflows/<id>.json` below the folder of the store, and the document in `documents/<id>.json`.
A record is written to a file beside its place and then moved there, so that a failed write leaves
the old record.

Only ids of letters, digits, `-` and `_` become file names; no record has another id. While a
document is modified no other call may write it, so updates and commitments must not; they may read
it.
-/

namespace Signoff

/-- Why a file of records cannot be used. -/
inductive StorageError where
  | disk (e : Disk.Error)
  | json (e : Json.Error)
  | corruption (text : String)
deriving DecidableEq

namespace StorageError

/-- The wording of an error. -/
def message : StorageError → String
  | .disk e => s!"I/O error: {e.message}"
  | .json e => s!"JSON error: {e.message}"
  | .corruption text => s!"data corruption: {text}"

/-- An error in the words of a diagnostic for whoever runs the service. -/
def diagnosis : StorageError → String
  | .disk e => s!"Storage(Io({e.diagnosis}))"
  | .json e => s!"Storage(Json({e.message}))"
  | .corruption text => s!"Storage(Corruption({quoted text}))"

/-- The operation may succeed if it is tried again. -/
def isRetryable : StorageError → Bool
  | .disk _ => true
  | _ => false

/-- The failure that an error amounts to. -/
def toFailure (e : StorageError) : Failure := .storage e.message e.isRetryable

end StorageError

/-- Records in files below a folder, the numbers of the ids handed out so far, and where the ids
come from. -/
structure FileStore where
  disk : Disk
  folder : String
  workflowIds : Nat
  documentIds : Nat
  ids : IdSource

namespace FileStore

instance : Inhabited FileStore := ⟨⟨.empty, "", 0, 0, .numbering⟩⟩

/-- A path below another. -/
def join (path name : String) : String :=
  if path.isEmpty || path.endsWith "/" then path ++ name else path ++ "/" ++ name

/-- The file of a record, by the folder of its kind. -/
def recordPath (folder kind id : String) : String := join (join folder kind) (id ++ ".json")

/-- The file of a workflow. -/
def workflowPath (folder id : String) : String := recordPath folder "workflows" id

/-- The file of a document. -/
def documentPath (folder id : String) : String := recordPath folder "documents" id

/-- An operation of the disk as one of the store. -/
def onDisk {α : Type} (io : Disk.Io α) : Action FileStore α := fun s =>
  let (r, disk) := io s.disk
  (r.mapError fun e => (StorageError.disk e).toFailure, { s with disk })

/-- The record in a file, if there is a file. -/
def readRecord {α : Type} (schema : Json.Schema α) (path : String) :
    Action FileStore (Option α) := fun s =>
  match Disk.read path s.disk with
  | (.error .notFound, disk) => (.ok none, { s with disk })
  | (.error e, disk) => (.error (StorageError.disk e).toFailure, { s with disk })
  | (.ok content, disk) =>
    match schema.ofText (.ofBytes content) with
    | .ok a => (.ok (some a), { s with disk })
    | .error e =>
      (.error (StorageError.corruption s!"{path}: {e.message}").toFailure, { s with disk })

/-- Writes the text of a record beside its place and moves it there. -/
def writeRecord (path : String) (j : Json) : Action FileStore Unit := onDisk do
  let beside := path ++ ".tmp"
  Disk.create beside
  Disk.write beside (encode j.pretty)
  Disk.sync
  Disk.rename beside path

/-- Makes the folders of a store. Ids show their numbers unless another source is given. -/
def openAt (disk : Disk) (folder : String) (workflowIds documentIds : Nat)
    (ids : IdSource := .numbering) : Except StorageError FileStore × Disk :=
  let make : Disk.Io Unit := do
    Disk.makeFolders (join folder "workflows")
    Disk.makeFolders (join folder "documents")
  match make disk with
  | (.ok (), disk) => (.ok ⟨disk, folder, workflowIds, documentIds, ids⟩, disk)
  | (.error e, disk) => (.error (.disk e), disk)

/-- Writes a workflow under its id, or under a new one if it has none. -/
def saveWorkflow (w : Workflow) : Action FileStore String := do
  let s ← get
  let id := if w.id.isEmpty then s.ids.workflowId (s.workflowIds + 1) else w.id
  if isValidId id then
    writeRecord (workflowPath s.folder id) (Workflow.toJson { w with id })
    if w.id.isEmpty then modify fun s => { s with workflowIds := s.workflowIds + 1 }
    return id
  else throw (.invalidDefinition s!"workflow id '{id}' cannot be used as a file name")

/-- The workflow with an id. -/
def getWorkflow (id : String) : Action FileStore (Option Workflow) := do
  if isValidId id then readRecord Workflow.schema (workflowPath (← get).folder id)
  else return none

/-- The document with an id. -/
def getDocument (id : String) : Action FileStore (Option Document) := do
  if isValidId id then readRecord Document.schema (documentPath (← get).folder id)
  else return none

/-- Writes a document under its id. -/
def writeDocument (d : Document) : Action FileStore Unit := do
  if isValidId d.id then writeRecord (documentPath (← get).folder d.id) d.toJson
  else throw (.documentNotFound d.id)

/-- Writes a document under a new id. -/
def createDocument (d : Document) : Action FileStore String := do
  let s ← get
  let id := s.ids.documentId (s.documentIds + 1)
  writeDocument { d with id }
  modify fun s => { s with documentIds := s.documentIds + 1 }
  return id

/-- Replaces the document that has the same id. -/
def updateDocument (d : Document) : Action FileStore Unit := do
  match ← getDocument d.id with
  | none => throw (.documentNotFound d.id)
  | some _ => writeDocument d

instance : Store FileStore where
  saveWorkflow := saveWorkflow
  getWorkflow := getWorkflow
  createDocument := createDocument
  getDocument := getDocument
  updateDocument := updateDocument
  modifyDocumentWith := modifyWith getDocument writeDocument

end FileStore

end Signoff
