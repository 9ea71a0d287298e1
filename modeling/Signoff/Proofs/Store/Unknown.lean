import Signoff.Proofs.Disk.Locality
import Signoff.Proofs.Store.Apart

/-!
# Ids without a record

Under an id that nothing was stored under nothing is found, and nothing can be updated or modified
(`Store.NoWorkflow`, `Store.NoDocument`). That is so in memory for every id, and in files for every
id that makes no file name or makes one that the system takes (`FileStore.Nameable`). An id of
letters, digits, `-` and `_` that is too long for a file name is passed on to the system all the
same, which refuses it, so looking for its record fails (`FileStore.trouble?`).
-/

namespace Signoff

variable {σ : Type}

/-- What comes of looking for a record that is not there, unless there is some trouble. -/
def noRecord {α : Type} : Option Failure → Except Failure (Option α)
  | none => .ok none
  | some f => .error f

/-! ## Stores -/

/-- There is no workflow with the id: looking for it finds none, or fails with the trouble that
there is, and changes nothing. -/
def Store.NoWorkflow [Store σ] (id : String) (trouble : Option Failure) (s : σ) : Prop :=
  Store.getWorkflow id s = (noRecord trouble, s)

/-- There is no document with the id: looking for it finds none, and updating or modifying it says
so, or they fail with the trouble that there is. Nothing is changed. -/
structure Store.NoDocument [Store σ] (id : String) (trouble : Option Failure) (s : σ) : Prop where
  looked : Store.getDocument id s = (noRecord trouble, s)
  updated : ∀ d : Document, d.id = id →
    Store.updateDocument d s = (.error (trouble.getD (.documentNotFound id)), s)
  modified : ∀ {ω β : Type} (update : Update σ ω β) (committed : Document → β → Commitment σ ω)
    (w : ω), Store.modifyDocumentWith id update committed (s, w) =
      (.error (trouble.getD (.documentNotFound id)), s, w)

/-- Where looking finds none, modifying says so. -/
theorem modifyWith_noRecord {ω β : Type} {getDocument : String → Action σ (Option Document)}
    {id : String} {trouble : Option Failure} {s : σ}
    (looked : getDocument id s = (noRecord trouble, s)) (updateDocument : Document → Action σ Unit)
    (update : Update σ ω β) (committed : Document → β → Commitment σ ω) (w : ω) :
    modifyWith getDocument updateDocument id update committed (s, w) =
      (.error (trouble.getD (.documentNotFound id)), s, w) := by
  rw [modifyWith, Action.bind_apply, Action.onFirst_apply, looked]
  cases trouble <;> rfl

/-! ## Records in memory -/

namespace MemoryStore

variable {s : MemoryStore} {id : String}

theorem noWorkflow (absent : s.workflows.get? id = none) : Store.NoWorkflow id none s := by
  show ((.ok (s.workflows.get? id), s) : Except Failure (Option Workflow) × MemoryStore) = _
  rw [absent]
  rfl

theorem noDocument (absent : s.documents.get? id = none) : Store.NoDocument id none s := by
  have looked : Store.getDocument id s = (noRecord none, s) := by
    show ((.ok (s.documents.get? id), s) : Except Failure (Option Document) × MemoryStore) = _
    rw [absent]
    rfl
  refine ⟨looked, fun d same => ?_, fun update committed w => ?_⟩
  · subst same
    show updateDocument d s = _
    rw [updateDocument, Action.bind_apply, Action.get_apply]
    dsimp only
    rw [Table.contains, absent, if_neg (by decide)]
    rfl
  · rw [modifiesWith.modifyDocumentWith]
    exact modifyWith_noRecord looked ..

end MemoryStore

/-! ## Records in files -/

namespace FileStore

open Signoff.Disk

variable {s : FileStore} {kind id : String}

/-- The file of the record has a name and a path that are not too long. -/
def Nameable (folder kind id : String) : Prop :=
  (id ++ ".json").utf8ByteSize ≤ maxNameBytes ∧
    (recordPath folder kind id).utf8ByteSize < maxPathBytes

instance (folder kind id : String) : Decidable (Nameable folder kind id) :=
  inferInstanceAs (Decidable (_ ∧ _))

/-- What keeps the store from looking for a record: its file has a name that the system refuses. -/
def trouble? (s : FileStore) (kind id : String) : Option Failure :=
  if isValidId id = true ∧ ¬ Nameable s.folder kind id then
    some (StorageError.disk .nameTooLong).toFailure
  else none

theorem eq_of_trouble? {f : Failure} (h : s.trouble? kind id = some f) :
    f = (StorageError.disk .nameTooLong).toFailure := by
  unfold trouble? at h
  split at h
  · exact (Option.some.inj h).symm
  · cases h

/-- Nothing stands where the record with the id would. -/
def Vacant (s : FileStore) (kind id : String) : Prop :=
  isValidId id = true → s.disk.nodes.get? (s.disk.keyOf (recordPath s.folder kind id)) = none

/-- In folders that hold nothing no record is there. -/
theorem Fresh.vacant (h : s.Fresh) (hk : kind ∈ kinds) (id : String) : s.Vacant kind id := by
  intro valid
  rw [recordPath, keyOf_join (isName_kind kind hk) (isName_file valid).1]
  exact h.bare kind hk _

/-- The path of a record is refused only if it is too long. -/
theorem pathFault?_recordPath (ready : s.Ready) (hk : kind ∈ kinds) (valid : isValidId id = true) :
    pathFault? (recordPath s.folder kind id) =
      if maxPathBytes ≤ (recordPath s.folder kind id).utf8ByteSize then some .nameTooLong
      else none := by
  have stands := ready.2 kind hk
  have plain : '\x00' ∉ (join s.folder kind).toList := by
    unfold node? pathFault? at stands
    intro zero
    rw [if_pos (List.contains_iff_mem.2 zero)] at stands
    cases stands
  have noZero : (recordPath s.folder kind id).toList.contains '\x00' = false := by
    rw [Bool.eq_false_iff, ne_eq, List.contains_iff_mem, recordPath,
      join_eq (lastChar?_kindPath hk s.folder) (by decide)]
    have name : '\x00' ∉ (id ++ ".json").toList := not_mem_file valid (by decide)
    simp only [String.toList_append, List.mem_append, not_or] at name ⊢
    exact ⟨⟨plain, by decide⟩, name⟩
  rw [pathFault?, noZero]
  rfl

/-- The path of a record that is not there leads nowhere, or is refused. -/
theorem node?_vacant (ready : s.Ready) (hk : kind ∈ kinds) (valid : isValidId id = true)
    (vacant : s.Vacant kind id) :
    s.disk.node? (recordPath s.folder kind id) =
      if Nameable s.folder kind id then .ok none else .error .nameTooLong := by
  have path := node?_join_eq (lastChar?_kindPath hk s.folder) (by decide) (ready.2 kind hk)
    (isName_file valid).1
  rw [← recordPath, pathFault?_recordPath ready hk valid, vacant valid] at path
  rw [path]
  by_cases fits : Nameable s.folder kind id
  · rw [if_pos fits, if_neg (Nat.not_le.2 fits.2)]
    exact if_neg (Nat.not_lt.2 fits.1)
  · rw [if_neg fits]
    by_cases long : maxPathBytes ≤ (recordPath s.folder kind id).utf8ByteSize
    · rw [if_pos long]
    · rw [if_neg long]
      exact if_pos (Nat.not_le.1 fun name => fits ⟨name, Nat.not_le.1 long⟩)

/-- Reading a record that is not there. -/
theorem readRecord_vacant {α : Type} (schema : Json.Schema α) (ready : s.Ready) (hk : kind ∈ kinds)
    (valid : isValidId id = true) (vacant : s.Vacant kind id) :
    readRecord schema (recordPath s.folder kind id) s = (noRecord (s.trouble? kind id), s) := by
  unfold readRecord trouble?
  rw [read_eq _ ready.1, node?_vacant ready hk valid vacant]
  by_cases fits : Nameable s.folder kind id
  · rw [if_pos fits, if_neg fun trouble => trouble.2 fits]
    rfl
  · rw [if_neg fits, if_pos ⟨valid, fits⟩]
    rfl

/-- An id that makes no file name is no trouble. -/
theorem trouble?_of_invalid (invalid : ¬ isValidId id = true) : s.trouble? kind id = none :=
  if_neg fun trouble => invalid trouble.1

theorem noWorkflow (ready : s.Ready) (vacant : s.Vacant "workflows" id) :
    Store.NoWorkflow id (s.trouble? "workflows" id) s := by
  show getWorkflow id s = _
  by_cases valid : isValidId id = true
  · rw [getWorkflow_apply valid]
    exact readRecord_vacant _ ready workflows_mem_kinds valid vacant
  · rw [getWorkflow, if_neg valid, trouble?_of_invalid valid]
    rfl

theorem noDocument (ready : s.Ready) (vacant : s.Vacant "documents" id) :
    Store.NoDocument id (s.trouble? "documents" id) s := by
  have looked : getDocument id s = (noRecord (s.trouble? "documents" id), s) := by
    by_cases valid : isValidId id = true
    · rw [getDocument_apply valid]
      exact readRecord_vacant _ ready documents_mem_kinds valid vacant
    · rw [getDocument, if_neg valid, trouble?_of_invalid valid]
      rfl
  refine ⟨looked, fun d same => ?_, fun update committed w => ?_⟩
  · subst same
    show updateDocument d s = _
    rw [updateDocument, Action.bind_apply, looked]
    cases s.trouble? "documents" d.id <;> rfl
  · exact modifyWith_noRecord looked ..

end FileStore

end Signoff
