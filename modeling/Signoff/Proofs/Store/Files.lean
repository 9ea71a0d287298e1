import Signoff.Proofs.Disk.Writing
import Signoff.Store.Files

/-!
# The records of a file store

What a file store has is the content of its records' files (`FileStore.records`). Their paths end in
`.json`, and those of the files that are written beside them do not, so a record that cannot be
written changes no record (`writeRecord_spares`).
-/

namespace Signoff

namespace FileStore

variable {s : FileStore}

/-- What a store has: for each id the content of its workflow's file and of its document's file. -/
structure Records where
  folder : String
  workflow : String → Option Bytes
  document : String → Option Bytes

/-- The records of a store. -/
def records (s : FileStore) : Records :=
  ⟨s.folder, fun id => s.disk.content? (workflowPath s.folder id),
    fun id => s.disk.content? (documentPath s.folder id)⟩

theorem records_inj {s' : FileStore} (h : s'.records = s.records) : s'.folder = s.folder ∧
    (∀ id, s'.disk.content? (workflowPath s'.folder id) =
      s.disk.content? (workflowPath s.folder id)) ∧
    ∀ id, s'.disk.content? (documentPath s'.folder id) =
      s.disk.content? (documentPath s.folder id) := by
  obtain ⟨folder, workflow, document⟩ := Records.mk.inj h
  exact ⟨folder, congrFun workflow, congrFun document⟩

theorem lastChar?_join {name : String} {c : Char} (ends : lastChar? name = some c)
    (path : String) : lastChar? (join path name) = some c := by
  unfold join
  split <;> exact lastChar?_append ends

/-- The paths of records and of what is written beside them end in letters. -/
theorem endsIn_recordPath (folder kind id : String) : Disk.EndsIn (recordPath folder kind id) 'n' :=
  ⟨lastChar?_join (lastChar?_append (by decide)) _, by decide, by decide⟩

theorem endsIn_beside (path : String) : Disk.EndsIn (path ++ ".tmp") 'p' :=
  ⟨lastChar?_append (by decide), by decide, by decide⟩

/-- What changes under the key of a file beside a record changes no record. -/
theorem records_eq {disk : Disk} {key : String} (h : Disk.AgreeOutside key s.disk disk)
    (aside : lastChar? key = some 'p') : { s with disk }.records = s.records := by
  have same (kind id : String) : disk.content? (recordPath s.folder kind id) =
      s.disk.content? (recordPath s.folder kind id) :=
    h.content?_eq (endsIn_recordPath ..) (by rw [aside]; decide)
  unfold records workflowPath documentPath
  simp only [same]

theorem onDisk_apply {α : Type} (io : Disk.Io α) (s : FileStore) :
    onDisk io s = ((io s.disk).1.mapError fun e => (StorageError.disk e).toFailure,
      { s with disk := (io s.disk).2 }) := rfl

theorem writeRecord_apply (path : String) (j : Json) (s : FileStore) :
    writeRecord path j s =
      ((Disk.replace (path ++ ".tmp") path (encode j.pretty) s.disk).1.mapError
          fun e => (StorageError.disk e).toFailure,
        { s with disk := (Disk.replace (path ++ ".tmp") path (encode j.pretty) s.disk).2 }) := rfl

/-- A record that cannot be written changes no record. -/
theorem writeRecord_spares (path : String) (j : Json) (s : FileStore) (f : Failure)
    (h : (writeRecord path j s).1 = .error f) : (writeRecord path j s).2.records = s.records := by
  rcases Disk.replace_leaves (endsIn_beside path) path (encode j.pretty) s.disk with
    ⟨u, done⟩ | leaves
  · rw [writeRecord_apply, done] at h
    cases h
  · exact records_eq leaves ((endsIn_beside path).lastChar?_keyOf _)

end FileStore

end Signoff
