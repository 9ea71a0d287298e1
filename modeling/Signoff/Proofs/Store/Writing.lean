import Signoff.Proofs.Store.Paths
import Signoff.Proofs.Store.Sparing
import Signoff.Proofs.Store.Records

/-!
# Records that are written and read

What a file store has under an id is the text of the record's file (`FileStore.text?`). Writing a
record, whether it succeeds or not, touches no other record (`writeRecord_touches`); if it succeeds
the text of the record is there (`writeRecord_placed`), and it does succeed on a tidy store without
faults (`writeRecord_succeeds`). A text that is there is read (`readRecord_text`).

A store that was opened on folders that hold nothing is tidy (`Fresh.tidy`) and stays so
(`Tidy.touches`).
-/

namespace Signoff

namespace FileStore

open Signoff.Disk

variable {s s' : FileStore} {kind id : String} {j : Json}

/-- The text of a record's file. -/
def text? (s : FileStore) (kind id : String) : Option Bytes :=
  s.disk.content? (recordPath s.folder kind id)

/-- The second store differs from the first in one record at most, in what stands beside records
and in its faults, of which there are no new ones where there were none. -/
structure Touches (kind id : String) (s s' : FileStore) : Prop where
  folder : s'.folder = s.folder
  workflowIds : s'.workflowIds = s.workflowIds
  documentIds : s'.documentIds = s.documentIds
  ids : s'.ids = s.ids
  folders : s.disk.SameFolders s'.disk
  calm : s.disk.faults = [] → s'.disk.faults = []
  other : ∀ {kind' id'}, IsName kind' → isValidId id' = true → ¬ (kind' = kind ∧ id' = id) →
    s'.text? kind' id' = s.text? kind' id'

/-- A record that was written replaces the file at its path. -/
theorem replaced_of_ok (h : (writeRecord (recordPath s.folder kind id) j s).1 = .ok ()) :
    Replaced (recordPath s.folder kind id ++ ".tmp") (recordPath s.folder kind id) (encode j.pretty)
      s.disk (writeRecord (recordPath s.folder kind id) j s).2.disk := by
  rw [writeRecord_apply] at h ⊢
  exact replace_replaced (endsIn_beside _) (endsIn_recordPath ..) (by decide) (mapError_eq_ok.1 h)

/-- A record that was written is there. -/
theorem writeRecord_placed (h : (writeRecord (recordPath s.folder kind id) j s).1 = .ok ()) :
    (writeRecord (recordPath s.folder kind id) j s).2.text? kind id = some (encode j.pretty) :=
  content?_eq_some.2
    ((replaced_of_ok h).node?_target (endsIn_recordPath ..))

/-- Writing a record, successful or not, schedules no faults. -/
theorem writeRecord_calm (path : String) (j : Json) (calm : s.disk.faults = []) :
    (writeRecord path j s).2.disk.faults = [] := by
  rw [writeRecord_apply]
  exact replace_keeps_calm _ _ _ calm

/-- Writing a record, successful or not, touches no other one. -/
theorem writeRecord_touches (hk : IsName kind) (valid : isValidId id = true) (j : Json)
    (s : FileStore) :
    Touches kind id s (writeRecord (recordPath s.folder kind id) j s).2 := by
  have calm := writeRecord_calm (s := s) (recordPath s.folder kind id) j
  cases h : (writeRecord (recordPath s.folder kind id) j s).1 with
  | ok u =>
    have done := replaced_of_ok h
    refine ⟨rfl, rfl, rfl, rfl, done.sameFolders, calm, fun {kind' id'} hk' valid' ne => ?_⟩
    have ends := endsIn_recordPath s.folder kind' id'
    -- what is beside a record is no record
    have aside : s.disk.keyOf (recordPath s.folder kind' id') ≠
        s.disk.keyOf (recordPath s.folder kind id ++ ".tmp") :=
      ends.keyOf_ne (endsIn_beside _) (by decide) s.disk
    exact done.sameFolders.content?_eq ends
      (done.other _ aside fun e => ne (keyOf_recordPath_inj hk' hk valid' valid e))
  | error f =>
    rcases replace_leaves (endsIn_beside _) (recordPath s.folder kind id) (encode j.pretty) s.disk
      with ⟨u, done⟩ | leaves
    · rw [writeRecord_apply, done] at h
      cases h
    · refine ⟨rfl, rfl, rfl, rfl, leaves.sameFolders, calm, fun {kind' id'} _ _ _ => ?_⟩
      refine leaves.content?_eq (endsIn_recordPath ..) ?_
      rw [(endsIn_beside _).lastChar?_keyOf s.disk]
      decide

/-! ## Reading -/

/-- Reading a record takes a fault at most. -/
theorem readRecord_leaves {α : Type} (schema : Json.Schema α) (path : String) (s : FileStore) :
    (readRecord schema path s).2 =
      { s with disk := { s.disk with faults := s.disk.faults.tail } } := by
  rw [← read_leaves path]
  unfold readRecord
  generalize Disk.read path s.disk = out
  obtain ⟨e | content, disk⟩ := out
  · cases e <;> rfl
  · dsimp only
    cases schema.ofText (.ofBytes content) <;> rfl

/-- Looking up a document takes a fault at most. -/
theorem getDocument_leaves (id : String) (s : FileStore) :
    ∃ faults, faults <:+ s.disk.faults ∧
      (getDocument id s).2 = { s with disk := { s.disk with faults } } := by
  unfold getDocument
  split
  · exact ⟨_, List.tail_suffix _, readRecord_leaves ..⟩
  · exact ⟨_, List.suffix_rfl, rfl⟩

theorem getDocument_apply (valid : isValidId id = true) (s : FileStore) :
    getDocument id s = readRecord Document.schema (recordPath s.folder "documents" id) s := by
  unfold getDocument
  rw [if_pos valid, Action.bind_apply, Action.get_apply]
  rfl

theorem getWorkflow_apply (valid : isValidId id = true) (s : FileStore) :
    getWorkflow id s = readRecord Workflow.schema (recordPath s.folder "workflows" id) s := by
  unfold getWorkflow
  rw [if_pos valid, Action.bind_apply, Action.get_apply]
  rfl

/-- Looking up a workflow takes a fault at most. -/
theorem getWorkflow_leaves (id : String) (s : FileStore) :
    ∃ faults, faults <:+ s.disk.faults ∧
      (getWorkflow id s).2 = { s with disk := { s.disk with faults } } := by
  unfold getWorkflow
  split
  · exact ⟨_, List.tail_suffix _, readRecord_leaves ..⟩
  · exact ⟨_, List.suffix_rfl, rfl⟩

/-- A text that is there is read, if no fault is due. -/
theorem readRecord_text {α : Type} (schema : Json.Schema α) (spared : s.disk.Spared) {text : Bytes}
    (h : s.text? kind id = some text) :
    readRecord schema (recordPath s.folder kind id) s =
      ((schema.ofText (.ofBytes text)).map some |>.mapError fun e => (StorageError.corruption
          s!"{recordPath s.folder kind id}: {e.message}").toFailure,
        { s with disk := { s.disk with faults := s.disk.faults.tail } }) := by
  unfold readRecord
  rw [read_spared spared h]
  dsimp only
  cases schema.ofText (.ofBytes text) <;> rfl

/-- Without faults a text that is there is read and the store stays as it is. -/
theorem readRecord_some {α : Type} {schema : Json.Schema α} {a : α} (calm : s.disk.faults = [])
    {text : Bytes} (h : s.text? kind id = some text)
    (read : schema.ofText (.ofBytes text) = .ok a) :
    readRecord schema (recordPath s.folder kind id) s = (.ok (some a), s) := by
  rw [readRecord_text schema (spared_of_calm calm) h, read, calm, List.tail_nil, ← calm]
  rfl

/-- No record is read where a fault is due. -/
theorem readRecord_struck {α : Type} (schema : Json.Schema α) (path : String)
    (struck : ¬ s.disk.Spared) (a : α) : (readRecord schema path s).1 ≠ .ok (some a) := by
  obtain ⟨e, struck⟩ := read_struck struck path
  unfold readRecord
  rw [struck]
  cases e <;> nofun

/-- A record that is read is the text of its file. -/
theorem readRecord_found {α : Type} {schema : Json.Schema α} {a : α}
    (h : (readRecord schema (recordPath s.folder kind id) s).1 = .ok (some a)) :
    ∃ text, s.text? kind id = some text ∧ schema.ofText (.ofBytes text) = .ok a := by
  unfold readRecord at h
  cases looked : (Disk.read (recordPath s.folder kind id) s.disk).1 with
  | error e =>
    rw [← Prod.eta (Disk.read _ _), looked] at h
    cases e <;> cases h
  | ok text =>
    rw [← Prod.eta (Disk.read _ _), looked] at h
    dsimp only at h
    refine ⟨text, read_ok looked, ?_⟩
    cases read : schema.ofText (.ofBytes text) with
    | error e =>
      rw [read] at h
      cases h
    | ok a' =>
      rw [read] at h
      cases h
      rfl

/-- Where there is a place but no text nothing is read. -/
theorem readRecord_none {α : Type} (schema : Json.Schema α) (calm : s.disk.faults = [])
    (place : s.disk.Place (recordPath s.folder kind id)) (h : s.text? kind id = none) :
    readRecord schema (recordPath s.folder kind id) s = (.ok none, s) := by
  obtain ⟨node, found, noFolder⟩ := place
  rw [text?, content?, found] at h
  obtain rfl : node = none := by
    rcases node with _ | _ | _
    · rfl
    · cases h
    · exact absurd rfl noFolder
  unfold readRecord
  rw [read_notFound calm found]

/-! ## Keeping records -/

theorem writeDocument_apply {d : Document} (valid : isValidId d.id = true) (s : FileStore) :
    writeDocument d s = writeRecord (recordPath s.folder "documents" d.id) d.toJson s := by
  unfold writeDocument
  rw [if_pos valid, Action.bind_apply, Action.get_apply]
  rfl

/-- A document is written under the next id, and only then the id counts. -/
theorem createDocument_apply (d : Document) (s : FileStore) :
    createDocument d s =
      let id := s.ids.documentId (s.documentIds + 1)
      let out := writeRecord (recordPath s.folder "documents" id)
        ({ d with id } : Document).toJson s
      match out.1 with
      | .ok () => (.ok id, { out.2 with documentIds := s.documentIds + 1 })
      | .error f => (.error f, out.2) := by
  rw [createDocument, Action.bind_apply, Action.get_apply]
  dsimp only
  rw [Action.bind_apply,
    writeDocument_apply (d := { d with id := s.ids.documentId (s.documentIds + 1) })
      (s.ids.documentId_valid _)]
  have counted := (writeRecord_touches isName_documents
    (s.ids.documentId_valid (s.documentIds + 1))
    ({ d with id := s.ids.documentId (s.documentIds + 1) } : Document).toJson s).documentIds
  generalize writeRecord _ _ s = out at counted
  obtain ⟨_ | u, s'⟩ := out
  · rfl
  · rw [← show s'.documentIds = s.documentIds from counted]
    rfl

/-- Creating a document fails as writing it under the next id does, or the id counts then. -/
theorem createDocument_writes (d : Document) (s : FileStore) :
    let id := s.ids.documentId (s.documentIds + 1)
    let out := writeRecord (recordPath s.folder "documents" id) (Document.toJson { d with id }) s
    (∃ f s', out = (.error f, s') ∧ createDocument d s = (.error f, s')) ∨
      ∃ s', out = (.ok (), s') ∧
        createDocument d s = (.ok id, { s' with documentIds := s.documentIds + 1 }) := by
  rw [createDocument_apply]
  dsimp only
  generalize writeRecord _ _ s = out
  obtain ⟨f | u, s'⟩ := out
  · exact .inl ⟨f, s', rfl, rfl⟩
  · exact .inr ⟨s', rfl, rfl⟩

/-- A workflow without an id is written under the next id, and only then the id counts. -/
theorem saveWorkflow_apply {w : Workflow} (noId : w.id.isEmpty = true) (s : FileStore) :
    saveWorkflow w s =
      let id := s.ids.workflowId (s.workflowIds + 1)
      let out := writeRecord (recordPath s.folder "workflows" id)
        (Workflow.toJson { w with id }) s
      match out.1 with
      | .ok () => (.ok id, { out.2 with workflowIds := s.workflowIds + 1 })
      | .error f => (.error f, out.2) := by
  rw [saveWorkflow, Action.bind_apply, Action.get_apply]
  dsimp only
  rw [if_pos noId, if_pos (s.ids.workflowId_valid _), if_pos noId, Action.bind_apply]
  have counted := (writeRecord_touches isName_workflows
    (s.ids.workflowId_valid (s.workflowIds + 1))
    (Workflow.toJson { w with id := s.ids.workflowId (s.workflowIds + 1) }) s).workflowIds
  rw [workflowPath]
  generalize writeRecord _ _ s = out at counted
  obtain ⟨_ | u, s'⟩ := out
  · rfl
  · rw [← show s'.workflowIds = s.workflowIds from counted]
    rfl

/-- Saving a workflow without an id fails as writing it under the next id does, or the id counts
then. -/
theorem saveWorkflow_writes {w : Workflow} (noId : w.id.isEmpty = true) (s : FileStore) :
    let id := s.ids.workflowId (s.workflowIds + 1)
    let out := writeRecord (recordPath s.folder "workflows" id) (Workflow.toJson { w with id }) s
    (∃ f s', out = (.error f, s') ∧ saveWorkflow w s = (.error f, s')) ∨
      ∃ s', out = (.ok (), s') ∧
        saveWorkflow w s = (.ok id, { s' with workflowIds := s.workflowIds + 1 }) := by
  rw [saveWorkflow_apply noId]
  dsimp only
  generalize writeRecord _ _ s = out
  obtain ⟨f | u, s'⟩ := out
  · exact .inl ⟨f, s', rfl, rfl⟩
  · exact .inr ⟨s', rfl, rfl⟩

/-! ## Tidy stores -/

/-- The longest id, in bytes, for which a store keeps room. -/
def maxIdBytes : Nat := 200

/-- The record with an id has its place, and so has what is written beside it. -/
def HasRoom (s : FileStore) (kind id : String) : Prop :=
  s.disk.Place (recordPath s.folder kind id) ∧ s.disk.Place (recordPath s.folder kind id ++ ".tmp")

/-- There is room for every record with an id that is not too long. -/
def Tidy (s : FileStore) : Prop :=
  ∀ kind ∈ kinds, ∀ id, isValidId id = true → id.utf8ByteSize ≤ maxIdBytes → s.HasRoom kind id

theorem HasRoom.touches {kind' id' : String} (t : Touches kind' id' s s') (h : s.HasRoom kind id) :
    s'.HasRoom kind id := by
  rw [HasRoom, t.folder]
  exact ⟨t.folders.place (endsIn_recordPath ..) h.1, t.folders.place (endsIn_beside _) h.2⟩

theorem Tidy.touches (h : s.Tidy) (t : Touches kind id s s') : s'.Tidy :=
  fun kind hk id valid short => (h kind hk id valid short).touches t

/-- Without faults a record is written where there is room. -/
theorem writeRecord_succeeds (calm : s.disk.faults = []) (room : s.HasRoom kind id) (j : Json) :
    (writeRecord (recordPath s.folder kind id) j s).1 = .ok () := by
  rw [writeRecord_apply]
  exact mapError_eq_ok.2 (replace_succeeds (endsIn_beside _) (endsIn_recordPath ..) (by decide) calm
    room.2 room.1 _)

/-- The second store has the text of one more record, and touches no other one. -/
structure Wrote (kind id : String) (j : Json) (s s' : FileStore) : Prop
    extends Touches kind id s s' where
  placed : s'.text? kind id = some (encode j.pretty)

theorem writeRecord_wrote (calm : s.disk.faults = []) (hk : kind ∈ kinds)
    (valid : isValidId id = true) (room : s.HasRoom kind id) (j : Json) :
    ∃ s', writeRecord (recordPath s.folder kind id) j s = (.ok (), s') ∧ Wrote kind id j s s' := by
  have done := writeRecord_succeeds calm room j
  exact ⟨_, Prod.ext done rfl, writeRecord_touches (isName_kind kind hk) valid j s,
    writeRecord_placed done⟩

/-- On a tidy store without faults a record is written, and the store stays so. -/
theorem Tidy.writes (tidy : s.Tidy) (calm : s.disk.faults = []) (hk : kind ∈ kinds)
    (valid : isValidId id = true) (short : id.utf8ByteSize ≤ maxIdBytes) (j : Json) :
    ∃ s', Wrote kind id j s s' ∧ s'.Tidy ∧ s'.disk.faults = [] := by
  obtain ⟨s', -, wrote⟩ := writeRecord_wrote calm hk valid (tidy kind hk id valid short) j
  exact ⟨s', wrote, tidy.touches wrote.toTouches, wrote.calm calm⟩

theorem writeDocument_wrote {d : Document} (calm : s.disk.faults = [])
    (valid : isValidId d.id = true) (room : s.HasRoom "documents" d.id) :
    ∃ s', writeDocument d s = (.ok (), s') ∧ Wrote "documents" d.id d.toJson s s' := by
  rw [writeDocument_apply valid]
  exact writeRecord_wrote calm documents_mem_kinds valid room d.toJson

theorem createDocument_wrote (d : Document) (calm : s.disk.faults = [])
    (room : s.HasRoom "documents" (s.ids.documentId (s.documentIds + 1))) :
    let id := s.ids.documentId (s.documentIds + 1)
    ∃ s', createDocument d s = (.ok id, { s' with documentIds := s.documentIds + 1 }) ∧
      Wrote "documents" id ({ d with id } : Document).toJson s s' := by
  intro id
  obtain ⟨s', done, wrote⟩ := writeRecord_wrote calm documents_mem_kinds
    (s.ids.documentId_valid (s.documentIds + 1)) room ({ d with id } : Document).toJson
  refine ⟨s', ?_, wrote⟩
  rw [createDocument_apply]
  dsimp only
  rw [done]

theorem saveWorkflow_wrote {w : Workflow} (noId : w.id.isEmpty = true) (calm : s.disk.faults = [])
    (room : s.HasRoom "workflows" (s.ids.workflowId (s.workflowIds + 1))) :
    let id := s.ids.workflowId (s.workflowIds + 1)
    ∃ s', saveWorkflow w s = (.ok id, { s' with workflowIds := s.workflowIds + 1 }) ∧
      Wrote "workflows" id (Workflow.toJson { w with id }) s s' := by
  intro id
  obtain ⟨s', done, wrote⟩ := writeRecord_wrote calm workflows_mem_kinds
    (s.ids.workflowId_valid (s.workflowIds + 1)) room (Workflow.toJson { w with id })
  refine ⟨s', ?_, wrote⟩
  rw [saveWorkflow_apply noId]
  dsimp only
  rw [done]

/-! ## Opening -/

/-- The folders of the kinds stand. -/
def Stands (disk : Disk) (folder : String) : Prop :=
  ∀ kind ∈ kinds, disk.node? (join folder kind) = .ok (some .folder)

theorem lastChar?_kindPath {kind : String} (h : kind ∈ kinds) (folder : String) :
    lastChar? (join folder kind) = some 's' := by
  simp only [kinds, List.mem_cons, List.not_mem_nil, or_false] at h
  rcases h with rfl | rfl <;> exact lastChar?_join (by decide) folder

theorem isEmpty_kindPath {kind : String} (h : kind ∈ kinds) (folder : String) :
    (join folder kind).isEmpty = false := by
  rw [Bool.eq_false_iff]
  intro empty
  have ends := lastChar?_kindPath h folder
  rw [String.isEmpty_iff.1 empty] at ends
  cases ends

variable {disk : Disk} {folder : String} {workflowIds documentIds : Nat} {ids : IdSource}

/-- A store that was opened has its folders, and every node that was there. -/
theorem openAt_ok (h : (openAt disk folder workflowIds documentIds ids).1 = .ok s) :
    (s.folder = folder ∧ s.workflowIds = workflowIds ∧ s.documentIds = documentIds ∧ s.ids = ids) ∧
      disk.Grows s.disk ∧ Stands s.disk folder ∧ (disk.faults = [] → s.disk.faults = []) := by
  unfold openAt at h
  simp only [Action.bind_apply] at h
  have grows := makeFolders_grows (join folder "workflows") disk
  have stands := makeFolders_stands (join folder "workflows")
    (isEmpty_kindPath workflows_mem_kinds folder) disk
  have calm := makeFolders_calm (join folder "workflows") (d := disk)
  generalize makeFolders (join folder "workflows") disk = out at h grows stands calm
  obtain ⟨_ | u, d₁⟩ := out
  · cases h
  have grows' := makeFolders_grows (join folder "documents") d₁
  have stands' := makeFolders_stands (join folder "documents")
    (isEmpty_kindPath documents_mem_kinds folder) d₁
  have calm' := makeFolders_calm (join folder "documents") (d := d₁)
  dsimp only at h grows' stands' calm'
  generalize makeFolders (join folder "documents") d₁ = out at h grows' stands' calm'
  obtain ⟨_ | u, d₂⟩ := out
  · cases h
  obtain rfl := Except.ok.inj h
  refine ⟨⟨rfl, rfl, rfl, rfl⟩, grows.trans grows', fun kind hk => ?_, fun c => calm' (calm c)⟩
  simp only [kinds, List.mem_cons, List.not_mem_nil, or_false] at hk
  rcases hk with rfl | rfl
  · exact grows'.node? (stands rfl)
  · exact stands' rfl

/-- A store opens again on its folders, and leaves the disk as it is. -/
theorem openAt_stands (calm : disk.faults = []) (h : Stands disk folder)
    (workflowIds documentIds : Nat) (ids : IdSource) :
    openAt disk folder workflowIds documentIds ids =
      (.ok ⟨disk, folder, workflowIds, documentIds, ids⟩, disk) := by
  unfold openAt
  simp only [Action.bind_apply, makeFolders_eq_self (h "workflows" workflows_mem_kinds) calm,
    makeFolders_eq_self (h "documents" documents_mem_kinds) calm]

/-- The store was just opened, without an id handed out, on folders that hold nothing and at a path
that leaves room for the names of records. -/
structure Fresh (s : FileStore) : Prop where
  opened : ∃ disk, (openAt disk s.folder 0 0 s.ids).1 = .ok s
  bare : ∀ kind ∈ kinds, ∀ name,
    s.disk.nodes.get? (s.disk.keyOf (join s.folder kind) ++ "/" ++ name) = none
  fit : s.folder.utf8ByteSize + 220 < maxPathBytes

theorem Fresh.stands (h : s.Fresh) : Stands s.disk s.folder := by
  obtain ⟨disk, opened⟩ := h.opened
  exact (openAt_ok opened).2.2.1

theorem keyOf_join {name : String} (hk : IsName kind) (hn : IsName name) (d : Disk)
    (folder : String) :
    d.keyOf (join (join folder kind) name) = d.keyOf (join folder kind) ++ "/" ++ name := by
  rw [keyOf, keyOf, names_join hn, names_join hk, pathOf,
    String.intercalate_append_of_ne_nil (by simp) (by simp), String.intercalate_singleton]
  rfl

/-- In folders that hold nothing every name that is not too long has its place. -/
theorem Fresh.node? (h : s.Fresh) (hk : kind ∈ kinds) {name : String} (hn : IsName name)
    (plain : '\x00' ∉ name.toList) (short : name.utf8ByteSize ≤ 209) :
    s.disk.node? (join (join s.folder kind) name) = .ok none := by
  have stands := h.stands kind hk
  have fine : pathFault? (join s.folder kind) = none := by
    unfold Disk.node? at stands
    split at stands
    · cases stands
    · assumption
  have size : (join s.folder kind).utf8ByteSize ≤ s.folder.utf8ByteSize + 10 := by
    have nine : kind.utf8ByteSize = 9 := by
      simp only [kinds, List.mem_cons, List.not_mem_nil, or_false] at hk
      rcases hk with rfl | rfl <;> rfl
    have one : "/".utf8ByteSize = 1 := rfl
    unfold join
    split <;> simp only [String.utf8ByteSize_append] <;> omega
  have fit := h.fit
  rw [node?_join (lastChar?_kindPath hk s.folder) (by decide) stands hn
    (Nat.le_trans short (by decide)) (pathFault?_join fine plain (by omega)),
    keyOf_join (isName_kind kind hk) hn, h.bare kind hk]

theorem not_mem_file {extension : String} (valid : isValidId id = true)
    (plain : '\x00' ∉ extension.toList) : '\x00' ∉ (id ++ extension).toList := by
  rw [String.toList_append, List.mem_append, not_or]
  exact ⟨fun h => (isIdChar_ne (isIdChar_of_mem valid h)).2 rfl, plain⟩

/-- No record is there yet, and each has its place. -/
theorem Fresh.record (h : s.Fresh) (hk : kind ∈ kinds) (valid : isValidId id = true)
    (short : id.utf8ByteSize ≤ maxIdBytes) :
    s.disk.node? (recordPath s.folder kind id) = .ok none ∧
      s.disk.node? (recordPath s.folder kind id ++ ".tmp") = .ok none := by
  have sizes : ".json".utf8ByteSize = 5 ∧ ".tmp".utf8ByteSize = 4 ∧ maxIdBytes = 200 :=
    ⟨rfl, rfl, rfl⟩
  constructor
  · refine h.node? hk (isName_file valid).1 (not_mem_file valid (by decide)) ?_
    simp only [String.utf8ByteSize_append]
    omega
  · rw [recordPath_beside]
    refine h.node? hk (isName_file valid).2 ?_ ?_
    · rw [String.append_assoc]
      exact not_mem_file valid (by decide)
    · simp only [String.utf8ByteSize_append]
      omega

/-- A store on folders that hold nothing is tidy. -/
theorem Fresh.tidy (h : s.Fresh) : s.Tidy := by
  intro kind hk id valid short
  obtain ⟨record, beside⟩ := h.record hk valid short
  exact ⟨⟨none, record, nofun⟩, none, beside, nofun⟩

theorem Fresh.text? (h : s.Fresh) (hk : kind ∈ kinds) (valid : isValidId id = true)
    (short : id.utf8ByteSize ≤ maxIdBytes) : s.text? kind id = none := by
  rw [FileStore.text?, content?, (h.record hk valid short).1]
  rfl

/-- A store on the folders that opening it made on an empty disk. -/
def first : FileStore where
  disk :=
    { nodes := .ofList [("data", .folder), ("data/documents", .folder), ("data/workflows", .folder)]
      home := []
      faults := [] }
  folder := "data"
  workflowIds := 0
  documentIds := 0
  ids := .numbering

theorem fresh_first : first.Fresh where
  opened := by
    have stands : Stands first.disk "data" := by
      intro kind hk
      simp only [kinds, List.mem_cons, List.not_mem_nil, or_false] at hk
      rcases hk with rfl | rfl <;> decide +kernel
    exact ⟨first.disk, congrArg Prod.fst (openAt_stands (by rfl) stands 0 0 _)⟩
  bare kind hk name := by
    refine Option.eq_none_iff_forall_ne_some.2 fun node there => ?_
    have listed := Table.mem_keys_iff.2 ⟨node, there⟩
    have keys : first.disk.nodes.keys = ["data", "data/documents", "data/workflows"] := by rfl
    have long : 14 ≤ (first.disk.keyOf (join first.folder kind)).utf8ByteSize := by
      simp only [kinds, List.mem_cons, List.not_mem_nil, or_false] at hk
      rcases hk with rfl | rfl <;> decide +kernel
    have one : "/".utf8ByteSize = 1 := rfl
    rw [keys] at listed
    have short : ∀ key ∈ ["data", "data/documents", "data/workflows"], key.utf8ByteSize ≤ 14 := by
      decide
    have := short _ listed
    simp only [String.utf8ByteSize_append] at this
    omega
  fit := by decide

end FileStore

end Signoff
