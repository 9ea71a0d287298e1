import Signoff.Proofs.Service.Agreement
import Signoff.Proofs.Service.Consistency
import Signoff.Proofs.Store.ReadBack

/-!
# Stores that mirror memory

Records in two maps and records in files mirror records in memory (`PlainStore.Mirrors`,
`FileStore.Mirrors`) if they hold the same under every id and hand out the same ids next. Then their
operations agree with those of memory, and leave a mirror of it again (`PlainStore.simulates`,
`FileStore.simulates`): a file gives back what was written for a record, and the files of other
records stay.

Files mirror memory for ids that are not too long (`ShortId`) and data that is read back
(`ReadableData`).
-/

namespace Signoff

open Signoff.Action

variable {σ τ α : Type}

/-- The states are these. -/
def At (s₀ : σ) (t₀ : τ) : σ → τ → Prop := fun s t => s = s₀ ∧ t = t₀

theorem agree_at {s : σ} {t : τ} {Q : σ → τ → Prop} {Good : α → Prop} {a : Action σ α}
    {b : Action τ α} {r : Except Failure α} {s' : σ} {t' : τ} (ha : a s = (r, s'))
    (hb : b t = (r, t')) (related : Q s' t') (good : ∀ x, r = .ok x → Good x) :
    Agree (At s t) Q Good a b := by
  rintro _ _ ⟨rfl, rfl⟩
  rw [ha, hb]
  exact ⟨rfl, related, good⟩

theorem Agree.at_self {s : σ} {t : τ} : At s t s t := ⟨rfl, rfl⟩

namespace MemoryStore

theorem createDocument_apply (d : Document) (s : MemoryStore) :
    (Store.createDocument d : Action MemoryStore String) s =
      (.ok s.nextDocumentId, s.addDocument d) := rfl

theorem getWorkflow_apply (id : String) (s : MemoryStore) :
    (Store.getWorkflow id : Action MemoryStore (Option Workflow)) s =
      (.ok (s.workflows.get? id), s) := rfl

theorem getDocument_apply (id : String) (s : MemoryStore) :
    (Store.getDocument id : Action MemoryStore (Option Document)) s =
      (.ok (s.documents.get? id), s) := rfl

/-- A consistent store has nothing under the next id of a workflow. -/
theorem Consistent.get?_nextWorkflowId {s : MemoryStore} (h : s.Consistent) :
    s.workflows.get? s.nextWorkflowId = none :=
  Option.eq_none_iff_forall_ne_some.2 fun _ stored => h.nextWorkflowId_ne stored rfl

end MemoryStore

/-! ## Records in two maps -/

namespace PlainStore

/-- The maps hold the same records, and as many of them as ids were handed out, from the same
source. -/
structure Mirrors (m : MemoryStore) (p : PlainStore) : Prop where
  workflows : p.workflows = m.workflows
  documents : p.documents = m.documents
  workflowIds : m.workflowIds = m.workflows.size
  documentIds : m.documentIds = m.documents.size
  ids : p.ids = m.ids

theorem mirrors_empty (ids : IdSource) : Mirrors (.empty ids) (.empty ids) :=
  ⟨rfl, rfl, rfl, rfl, rfl⟩

variable {m : MemoryStore} {p : PlainStore}

theorem simulates (h : Mirrors m p) (c : m.Consistent) :
    Store.Simulates MemoryStore.writeDocument
      (fun _ => (Store.updateDocument : Document → Action PlainStore Unit)) (fun _ => True)
      (fun _ => True) (fun id d => (∃ old, m.documents.get? id = some old) ∧ d.id = id) (At m p)
      Mirrors where
  joins := MemoryStore.joins
  joins' := PlainStore.joins
  still := by
    rintro _ _ ⟨rfl, rfl⟩
    exact h
  workflowId _ := trivial
  moved stored same := ⟨stored.1, same.id.trans stored.2⟩
  saveWorkflow {w} noId := by
    have saved : (Store.saveWorkflow w : Action PlainStore String) p =
        (.ok m.nextWorkflowId, ⟨(m.addWorkflow w).workflows, p.documents, p.ids⟩) := by
      show saveWorkflow w p = _
      rw [saveWorkflow, bind_apply, get_apply]
      dsimp only
      rw [if_pos noId, h.workflows, ← h.workflowIds, h.ids]
      rfl
    refine agree_at (MemoryStore.saveWorkflow_apply noId m) saved ?_ fun _ _ => trivial
    exact { h with
      workflows := rfl
      workflowIds := by
        show m.workflowIds + 1 = (m.workflows.insert _ _).size
        rw [Table.size_insert_of_none c.get?_nextWorkflowId, h.workflowIds] }
  getWorkflow {id} _ := agree_at (MemoryStore.getWorkflow_apply id m)
    (by rw [← h.workflows]; rfl) ⟨rfl, rfl⟩ fun _ _ => trivial
  createDocument {d} _ _ := by
    have created : (Store.createDocument d : Action PlainStore String) p =
        (.ok m.nextDocumentId, ⟨p.workflows, (m.addDocument d).documents, p.ids⟩) := by
      show createDocument d p = _
      rw [createDocument, bind_apply, get_apply]
      dsimp only
      rw [h.documents, ← h.documentIds, h.ids]
      rfl
    refine agree_at (MemoryStore.createDocument_apply d m) created ?_ fun _ _ => trivial
    exact { h with
      documents := rfl
      documentIds := by
        show m.documentIds + 1 = (m.documents.insert _ _).size
        rw [Table.size_insert_of_none c.get?_nextDocumentId, h.documentIds] }
  getDocument {id} _ := agree_at (MemoryStore.getDocument_apply id m)
    (by rw [← h.documents]; rfl) ⟨rfl, rfl⟩ fun found e d some_ => by
      obtain rfl := Except.ok.inj e
      exact ⟨⟨d, some_⟩, (c.document some_).id_eq⟩
  put {id d} stored := by
    obtain ⟨⟨old, found⟩, rfl⟩ := stored
    refine agree_at (b := Store.updateDocument d) rfl rfl ?_ fun _ _ => trivial
    exact { h with
      documents := by
        show p.documents.insert _ _ = _
        rw [h.documents]
      documentIds := by
        show m.documentIds = (m.documents.insert _ _).size
        rw [Table.size_insert_of_some found, h.documentIds] }

end PlainStore

/-! ## Records in files -/

/-- The id is not too long for the names of files. -/
def ShortId (id : String) : Prop := id.utf8ByteSize ≤ FileStore.maxIdBytes

instance (id : String) : Decidable (ShortId id) :=
  inferInstanceAs (Decidable (id.utf8ByteSize ≤ FileStore.maxIdBytes))

/-- So many ids of each kind are not too long for the names of files, counted from the first. -/
def IdSource.ShortTo (ids : IdSource) (limit : Nat) : Prop :=
  ∀ n < limit, ShortId (ids.workflowId (n + 1)) ∧ ShortId (ids.documentId (n + 1))

/-- The data is read back from a file: its numbers are integers and it leaves room for the object
around it. -/
def ReadableData (data : Value) : Prop := data.json.Whole ∧ data.json.depth < Json.depthLimit

namespace FileStore

/-- The files hold the texts of the same records, there is room for more, no fault is scheduled and
the same ids come next. -/
structure Mirrors (m : MemoryStore) (f : FileStore) : Prop where
  calm : f.disk.faults = []
  tidy : f.Tidy
  workflowIds : f.workflowIds = m.workflowIds
  documentIds : f.documentIds = m.documentIds
  ids : f.ids = m.ids
  workflow : ∀ {id}, isValidId id = true → ShortId id →
    f.text? "workflows" id = (m.workflows.get? id).map fun w => encode w.toJson.pretty
  document : ∀ {id}, isValidId id = true → ShortId id →
    f.text? "documents" id = (m.documents.get? id).map fun d => encode d.toJson.pretty
  readable : ∀ {id d}, m.documents.get? id = some d → ShortId d.workflowId ∧ ReadableData d.data

variable {m : MemoryStore} {f f' : FileStore}

/-- The folders hold no record yet. -/
theorem mirrors_fresh {f : FileStore} (h : f.Fresh) (calm : f.disk.faults = []) :
    Mirrors (.empty f.ids) f where
  calm := calm
  tidy := h.tidy
  workflowIds := by
    obtain ⟨disk, opened⟩ := h.opened
    exact (openAt_ok opened).1.2.1
  documentIds := by
    obtain ⟨disk, opened⟩ := h.opened
    exact (openAt_ok opened).1.2.2.1
  ids := rfl
  workflow valid short := h.text? workflows_mem_kinds valid short
  document valid short := h.text? documents_mem_kinds valid short
  readable := nofun

namespace Mirrors

variable (h : Mirrors m f)
include h

/-- A workflow that was written is mirrored. -/
theorem addWorkflow {w : Workflow}
    (wrote : Wrote "workflows" m.nextWorkflowId
      (Workflow.toJson { w with id := m.nextWorkflowId }) f f') :
    Mirrors (m.addWorkflow w) { f' with workflowIds := f.workflowIds + 1 } where
  calm := wrote.calm h.calm
  tidy := show Tidy f' from h.tidy.touches wrote.toTouches
  workflowIds := congrArg (· + 1) h.workflowIds
  documentIds := wrote.documentIds.trans h.documentIds
  ids := wrote.ids.trans h.ids
  workflow {id} valid short := by
    show f'.text? "workflows" id = ((m.workflows.insert _ _).get? id).map _
    by_cases e : id = m.nextWorkflowId
    · subst e
      rw [wrote.placed, Table.get?_insert_self]
      rfl
    · rw [wrote.other isName_workflows valid fun both => e both.2, Table.get?_insert_of_ne _ e]
      exact h.workflow valid short
  document {id} valid short := by
    show f'.text? "documents" id = _
    rw [wrote.other isName_documents valid fun both => absurd both.1 (by decide)]
    exact h.document valid short
  readable := h.readable

/-- A document that was written is mirrored. -/
theorem setDocument {id : String} {d : Document} (wrote : Wrote "documents" id d.toJson f f')
    (short : ShortId d.workflowId) (data : ReadableData d.data) (documentIds : Nat) :
    Mirrors { m with documents := m.documents.insert id d, documentIds }
      { f' with documentIds } where
  calm := wrote.calm h.calm
  tidy := show Tidy f' from h.tidy.touches wrote.toTouches
  workflowIds := wrote.workflowIds.trans h.workflowIds
  documentIds := rfl
  ids := wrote.ids.trans h.ids
  workflow {id'} valid short := by
    show f'.text? "workflows" id' = _
    rw [wrote.other isName_workflows valid fun both => absurd both.1 (by decide)]
    exact h.workflow valid short
  document {id'} valid short := by
    show f'.text? "documents" id' = ((m.documents.insert _ _).get? id').map _
    by_cases e : id' = id
    · subst e
      rw [wrote.placed, Table.get?_insert_self]
      rfl
    · rw [wrote.other isName_documents valid fun both => e both.2, Table.get?_insert_of_ne _ e]
      exact h.document valid short
  readable {id' d'} found := by
    obtain ⟨-, rfl⟩ | found := MemoryStore.get?_insert_cases found
    · exact ⟨short, data⟩
    · exact h.readable found

theorem getWorkflow (c : m.Consistent) {id : String} (short : ShortId id) :
    FileStore.getWorkflow id f = (.ok (m.workflows.get? id), f) := by
  by_cases valid : isValidId id = true
  · rw [getWorkflow_apply valid]
    have text := h.workflow valid short
    cases stored : m.workflows.get? id with
    | none =>
      rw [stored] at text
      exact readRecord_none _ h.calm (h.tidy "workflows" workflows_mem_kinds id valid short).1 text
    | some w =>
      rw [stored] at text
      exact readRecord_some h.calm text w.ofText_pretty
  · have absent : m.workflows.get? id = none := by
      refine Option.eq_none_iff_forall_ne_some.2 fun w stored => valid ?_
      obtain ⟨n, -, rfl⟩ := (c.workflow stored).number
      exact m.ids.workflowId_valid n
    unfold FileStore.getWorkflow
    rw [if_neg valid, absent]
    rfl

theorem getDocument (c : m.Consistent) {id : String} (short : ShortId id) :
    FileStore.getDocument id f = (.ok (m.documents.get? id), f) := by
  by_cases valid : isValidId id = true
  · rw [getDocument_apply valid]
    have text := h.document valid short
    cases found : m.documents.get? id with
    | none =>
      rw [found] at text
      exact readRecord_none _ h.calm (h.tidy "documents" documents_mem_kinds id valid short).1 text
    | some d =>
      rw [found] at text
      obtain ⟨-, whole, shallow⟩ := h.readable found
      exact readRecord_some h.calm text (Document.ofText_pretty whole shallow)
  · have absent : m.documents.get? id = none := by
      refine Option.eq_none_iff_forall_ne_some.2 fun d found => valid ?_
      obtain ⟨n, -, rfl⟩ := (c.document found).number
      exact m.ids.documentId_valid n
    unfold FileStore.getDocument
    rw [if_neg valid, absent]
    rfl

end Mirrors

/-- A document that the memory has under an id, and files have too. -/
structure MirrorsDocument (m : MemoryStore) (id : String) (d : Document) : Prop where
  found : ∃ old, m.documents.get? id = some old
  id_eq : d.id = id
  short : ShortId id
  workflowId : ShortId d.workflowId
  data : ReadableData d.data

theorem simulates (h : Mirrors m f) (c : m.Consistent) (shortWorkflow : ShortId m.nextWorkflowId)
    (shortDocument : ShortId m.nextDocumentId) :
    Store.Simulates MemoryStore.writeDocument (fun _ => writeDocument) ShortId ReadableData
      (MirrorsDocument m) (At m f) Mirrors where
  joins := MemoryStore.joins
  joins' := FileStore.joins
  still := by
    rintro _ _ ⟨rfl, rfl⟩
    exact h
  workflowId stored := stored.workflowId
  moved stored same :=
    { found := stored.found
      id_eq := same.id.trans stored.id_eq
      short := stored.short
      workflowId := same.workflowId ▸ stored.workflowId
      data := same.data ▸ stored.data }
  saveWorkflow {w} noId := by
    have next : f.ids.workflowId (f.workflowIds + 1) = m.nextWorkflowId := by
      rw [h.workflowIds, h.ids]
      rfl
    have room := h.tidy "workflows" workflows_mem_kinds _ (m.ids.workflowId_valid _) shortWorkflow
    obtain ⟨f', saved, wrote⟩ := saveWorkflow_wrote noId h.calm (by rw [next]; exact room)
    rw [next] at saved wrote
    exact agree_at (MemoryStore.saveWorkflow_apply noId m) saved (h.addWorkflow wrote)
      fun _ _ => trivial
  getWorkflow {id} short := agree_at (MemoryStore.getWorkflow_apply id m) (h.getWorkflow c short)
    ⟨rfl, rfl⟩ fun _ _ => trivial
  createDocument {d} short data := by
    have next : f.ids.documentId (f.documentIds + 1) = m.nextDocumentId := by
      rw [h.documentIds, h.ids]
      rfl
    have room := h.tidy "documents" documents_mem_kinds _ (m.ids.documentId_valid _) shortDocument
    obtain ⟨f', created, wrote⟩ := createDocument_wrote d h.calm (by rw [next]; exact room)
    rw [next] at created wrote
    refine agree_at (MemoryStore.createDocument_apply d m) created ?_ fun _ _ => trivial
    rw [h.documentIds]
    exact h.setDocument wrote short data _
  getDocument {id} short := agree_at (MemoryStore.getDocument_apply id m) (h.getDocument c short)
    ⟨rfl, rfl⟩ fun found e d some_ => by
      obtain rfl := Except.ok.inj e
      obtain ⟨shortWorkflow, data⟩ := h.readable some_
      exact ⟨⟨d, some_⟩, (c.document some_).id_eq, short, shortWorkflow, data⟩
  put {id d} stored := by
    obtain ⟨⟨old, found⟩, rfl, short, shortWorkflow, data⟩ := stored
    have valid : isValidId d.id = true := by
      obtain ⟨n, -, number⟩ := (c.document found).number
      rw [number]
      exact m.ids.documentId_valid n
    have room := h.tidy "documents" documents_mem_kinds _ valid short
    obtain ⟨f', written, wrote⟩ := writeDocument_wrote h.calm valid room
    refine agree_at (a := MemoryStore.writeDocument d.id d) rfl written ?_ fun _ _ => trivial
    have same : f'.documentIds = m.documentIds := wrote.documentIds.trans h.documentIds
    show Mirrors { m with documents := m.documents.insert d.id d, documentIds := m.documentIds } f'
    rw [← same]
    exact h.setDocument wrote shortWorkflow data _

end FileStore

end Signoff
