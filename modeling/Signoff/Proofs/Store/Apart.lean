import Signoff.Proofs.Disk.Locality
import Signoff.Proofs.Store.Archive

/-!
# Documents apart

Documents under different ids have nothing to do with one another (`Store.Apart`): to look a record
up leaves the store as it is, and to write a document changes nothing that can be told of another
one, neither what is looked up under its id nor whether and how it is written.

This is so for records in memory and in two maps (`MemoryStore.apart`, `PlainStore.apart`), and for
records in files while no faults are scheduled and the folders of the store stand
(`FileStore.apart`).
-/

namespace Signoff

variable {σ : Type}

/-- Where `I` holds, documents with different ids are written independently, and what is looked up
under other ids stays. -/
structure Store.Apart [Store σ] (write : String → Document → Action σ Unit) (I : σ → Prop) : Prop
    extends Store.Modifies write where
  getDocument : ∀ {s : σ}, I s → ∀ id, (Store.getDocument id s).2 = s
  getWorkflow : ∀ {s : σ}, I s → ∀ id, (Store.getWorkflow id s).2 = s
  written : ∀ {s : σ}, I s → ∀ d : Document, I (write d.id d s).2
  document : ∀ {s : σ}, I s → ∀ (d : Document) {id}, id ≠ d.id →
    (Store.getDocument id (write d.id d s).2).1 = (Store.getDocument id s).1
  workflow : ∀ {s : σ}, I s → ∀ (d : Document) id,
    (Store.getWorkflow id (write d.id d s).2).1 = (Store.getWorkflow id s).1
  write_comm : ∀ {s : σ}, I s → ∀ {d d' : Document}, d.id ≠ d'.id →
    (write d.id d (write d'.id d' s).2).1 = (write d.id d s).1 ∧
      (write d.id d (write d'.id d' s).2).2 = (write d'.id d' (write d.id d s).2).2

/-- A document that is found under the id has it. -/
def Store.Owned [Store σ] (id : String) (s : σ) : Prop :=
  ∀ d, (Store.getDocument id s).1 = .ok (some d) → d.id = id

/-! ## Records in tables -/

theorem MemoryStore.apart : Store.Apart writeDocument fun _ => True where
  toModifies := modifies
  getDocument _ _ := rfl
  getWorkflow _ _ := rfl
  written _ _ := trivial
  document _ _ _ ne := congrArg Except.ok (Table.get?_insert_of_ne _ ne _)
  workflow _ _ _ := rfl
  write_comm {s} _ {d d'} ne :=
    ⟨rfl, congrArg (fun documents => ({ s with documents } : MemoryStore))
      (Table.insert_comm s.documents ne.symm d' d)⟩

theorem PlainStore.apart :
    Store.Apart (fun _ => (Store.updateDocument : Document → Action PlainStore Unit))
      fun _ => True where
  toModifies := plain.modifies
  getDocument _ _ := rfl
  getWorkflow _ _ := rfl
  written _ _ := trivial
  document _ _ _ ne := congrArg Except.ok (Table.get?_insert_of_ne _ ne _)
  workflow _ _ _ := rfl
  write_comm {s} _ {d d'} ne :=
    ⟨rfl, congrArg (fun documents => ({ s with documents } : PlainStore))
      (Table.insert_comm s.documents ne.symm d' d)⟩

/-! ## Records in files -/

namespace FileStore

open Signoff.Disk

variable {s s' : FileStore} {kind id : String}

/-- No faults are scheduled, and the folders stand. -/
def Ready (s : FileStore) : Prop := s.disk.faults = [] ∧ Stands s.disk s.folder

theorem ready_preserves : Store.Preserves (fun _ => writeDocument) Ready :=
  calm_preserves.and stands_preserves

theorem Ready.writeDocument (ready : s.Ready) (d : Document) : (writeDocument d s).2.Ready :=
  @Store.Preserves.write _ _ _ _ ready_preserves d.id d s ready

/-- In a folder that stands a path leads to what stands under its key. -/
theorem Stands.settled {disk : Disk} {folder name : String} (stands : Stands disk folder)
    (hk : kind ∈ kinds) (hn : IsName name) : disk.Settled (join (join folder kind) name) := by
  intro d₁ d₂ h₁ h₂ same
  have ends := lastChar?_kindPath hk folder
  rw [node?_join_eq ends (by decide) (h₁.node?_folder (stands kind hk)) hn,
    node?_join_eq ends (by decide) (h₂.node?_folder (stands kind hk)) hn, keyOf_eq h₁.home,
    keyOf_eq h₂.home, same]

theorem Ready.settled (ready : s.Ready) (hk : kind ∈ kinds) (valid : isValidId id = true) :
    s.disk.Settled (recordPath s.folder kind id) ∧
      s.disk.Settled (recordPath s.folder kind id ++ ".tmp") := by
  rw [recordPath_beside]
  exact ⟨ready.2.settled hk (isName_file valid).1, ready.2.settled hk (isName_file valid).2⟩

/-- What stands beside two records stands under two keys. -/
theorem keyOf_beside_inj {kind' id' folder : String} {d : Disk} (hk : IsName kind)
    (hk' : IsName kind') (valid : isValidId id = true) (valid' : isValidId id' = true)
    (h : d.keyOf (recordPath folder kind id ++ ".tmp") =
      d.keyOf (recordPath folder kind' id' ++ ".tmp")) : kind = kind' ∧ id = id' := by
  have key {kind id : String} (hk : IsName kind) (valid : isValidId id = true) :
      d.keyOf (recordPath folder kind id ++ ".tmp") =
        pathOf (d.names folder ++ [kind, id ++ ".json" ++ ".tmp"]) := by
    rw [keyOf, recordPath_beside, names_join (isName_file valid).2, names_join hk,
      List.append_assoc]
    rfl
  rw [key hk valid, key hk' valid'] at h
  obtain ⟨ek, en⟩ := pathOf_inj hk (isName_file valid).2 hk' (isName_file valid').2 h
  rw [String.append_left_inj, String.append_left_inj] at en
  exact ⟨ek, en⟩

/-- A record is read in the same way wherever its path leads to the same. -/
theorem readRecord_local {α : Type} (schema : Json.Schema α) {path : String}
    (calm : s.disk.faults = []) (calm' : s'.disk.faults = [])
    (same : s'.disk.node? path = s.disk.node? path) :
    (readRecord schema path s').1 = (readRecord schema path s).1 := by
  rw [readRecord, readRecord, read_eq path calm, read_eq path calm', same]
  rcases s.disk.node? path with e | _ | content | _
  · cases e <;> rfl
  · rfl
  · dsimp only
    cases schema.ofText (.ofBytes content) <;> rfl
  · rfl

/-- Lookups take no fault where none is scheduled. -/
theorem eq_of_leaves {t : FileStore} (calm : s.disk.faults = [])
    (h : ∃ faults, faults <:+ s.disk.faults ∧ t = { s with disk := { s.disk with faults } }) :
    t = s := by
  obtain ⟨faults, taken, rfl⟩ := h
  rw [calm] at taken
  rw [List.suffix_nil.1 taken, ← calm]

theorem writeDocument_invalid {d : Document} (invalid : ¬ isValidId d.id = true) (s : FileStore) :
    writeDocument d s = (.error (.documentNotFound d.id), s) := by
  rw [writeDocument, if_neg invalid]
  rfl

/-- Writing a document leaves every other record where it is. -/
theorem writeDocument_node? (ready : s.Ready) (d : Document) (hk : kind ∈ kinds)
    (valid : isValidId id = true) (other : ¬ (kind = "documents" ∧ id = d.id)) :
    (writeDocument d s).2.disk.node? (recordPath s.folder kind id) =
      s.disk.node? (recordPath s.folder kind id) := by
  by_cases valid' : isValidId d.id = true
  · rw [writeDocument_apply valid', writeRecord_apply]
    obtain ⟨folders, rest⟩ := replace_outside
      (endsIn_beside (recordPath s.folder "documents" d.id)) (endsIn_recordPath ..) (by decide)
      (encode d.toJson.pretty) s.disk
    refine (ready.settled hk valid).1 folders (.refl _) (rest _ ?_ fun same => other ?_)
    · exact (endsIn_recordPath ..).keyOf_ne (endsIn_beside _) (by decide) _
    · exact keyOf_recordPath_inj (isName_kind kind hk) isName_documents valid valid' same
  · rw [writeDocument_invalid valid']

theorem writeDocument_folder (d : Document) (s : FileStore) :
    (writeDocument d s).2.folder = s.folder := by
  unfold writeDocument
  split <;> rfl

/-- Documents with different ids are written to different files. -/
theorem writeDocument_comm (ready : s.Ready) {d d' : Document} (ne : d.id ≠ d'.id) :
    (writeDocument d (writeDocument d' s).2).1 = (writeDocument d s).1 ∧
      (writeDocument d (writeDocument d' s).2).2 = (writeDocument d' (writeDocument d s).2).2 := by
  by_cases valid : isValidId d.id = true
  case neg => simp only [writeDocument_invalid valid, and_self]
  by_cases valid' : isValidId d'.id = true
  case neg => simp only [writeDocument_invalid valid', and_self]
  rw [writeDocument_apply valid', writeDocument_apply valid, writeDocument_apply valid,
    writeDocument_apply valid', writeRecord_apply, writeRecord_apply, writeRecord_apply,
    writeRecord_apply]
  obtain ⟨settled, aside⟩ := ready.settled documents_mem_kinds valid
  obtain ⟨settled', aside'⟩ := ready.settled documents_mem_kinds valid'
  obtain ⟨result, disk⟩ := replace_comm (endsIn_beside (recordPath s.folder "documents" d.id))
    (endsIn_recordPath s.folder "documents" d.id)
    (endsIn_beside (recordPath s.folder "documents" d'.id))
    (endsIn_recordPath s.folder "documents" d'.id) (by decide) ready.1
    (by simp [settled, aside, settled', aside'])
    (fun same => ne (keyOf_beside_inj isName_documents isName_documents valid valid' same).2)
    (fun same => ne (keyOf_recordPath_inj isName_documents isName_documents valid valid' same).2)
    (encode d.toJson.pretty) (encode d'.toJson.pretty)
  exact ⟨congrArg (Except.mapError _) result,
    congrArg (fun disk => ({ s with disk } : FileStore)) disk⟩

/-- A store that was opened on folders that hold nothing is ready. -/
theorem Fresh.ready (h : s.Fresh) (calm : s.disk.faults = []) : s.Ready := ⟨calm, h.stands⟩

theorem Fresh.owned (h : s.Fresh) (id : String) : Store.Owned id s := by
  intro d found
  have found : (getDocument id s).1 = .ok (some d) := found
  by_cases valid : isValidId id = true
  · rw [getDocument_apply valid] at found
    obtain ⟨text, there, -⟩ := readRecord_found found
    have stands := (endsIn_recordPath ..).get?_keyOf (content?_eq_some.1 there)
    rw [recordPath, keyOf_join isName_documents (isName_file valid).1,
      h.bare _ documents_mem_kinds] at stands
    cases stands
  · rw [getDocument, if_neg valid] at found
    cases found

theorem apart : Store.Apart (fun _ => writeDocument) Ready where
  toModifies := modifies
  getDocument ready id := eq_of_leaves ready.1 (getDocument_leaves id _)
  getWorkflow ready id := eq_of_leaves ready.1 (getWorkflow_leaves id _)
  written ready d := ready.writeDocument d
  document {s} ready d id ne := by
    show (getDocument id (writeDocument d s).2).1 = (getDocument id s).1
    by_cases valid : isValidId id = true
    · rw [getDocument_apply valid, getDocument_apply valid, writeDocument_folder]
      exact readRecord_local _ ready.1 (ready.writeDocument d).1
        (writeDocument_node? ready d documents_mem_kinds valid fun same => ne same.2)
    · rw [getDocument, if_neg valid]
      rfl
  workflow {s} ready d id := by
    show (getWorkflow id (writeDocument d s).2).1 = (getWorkflow id s).1
    by_cases valid : isValidId id = true
    · rw [getWorkflow_apply valid, getWorkflow_apply valid, writeDocument_folder]
      exact readRecord_local _ ready.1 (ready.writeDocument d).1
        (writeDocument_node? ready d workflows_mem_kinds valid fun same =>
          absurd same.1 (by decide))
    · rw [getWorkflow, if_neg valid]
      rfl
  write_comm ready := writeDocument_comm ready

end FileStore

end Signoff
