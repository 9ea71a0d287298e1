import Signoff.Proofs.Store.Files
import Signoff.Proofs.Store.Joining

/-!
# Sparing stores

A store is sparing (`Store.Sparing`) if its lookups keep a view of its records and everything else
that it does spares it.

* `MemoryStore.sparing`, `FileStore.sparing`: records in memory and in files.
* `Store.PlainSparing.sparing`: any store with nothing but the plain operations, if these spare the
  view.
-/

namespace Signoff

variable {σ ω α β γ : Type}

open Signoff.Action

namespace Store

/-- Lookups keep the view, and everything else spares it. -/
structure Sparing [Store σ] (view : σ → γ) : Prop where
  saveWorkflow : ∀ w, Spares view (Store.saveWorkflow w)
  getWorkflow : ∀ id, Keeps view (Store.getWorkflow id)
  getDocument : ∀ id, Keeps view (Store.getDocument id)
  createDocumentThen : ∀ {ω : Type} d (committed : Document → ω → ω),
    Spares (beside view) (Store.createDocumentThen d committed)
  modifyDocumentThen : ∀ {ω β : Type} id update (committed : Document → β → ω → ω),
    (∀ d, Keeps (beside view) (update d)) →
      Spares (beside view) (Store.modifyDocumentThen id update committed)

end Store

theorem createThen_spares {view : σ → γ} {createDocument : Document → Action σ String}
    (create : ∀ d, Spares view (createDocument d)) (d : Document)
    (committed : Document → ω → ω) :
    Spares (beside view) (createThen createDocument d committed) := by
  unfold createThen
  exact (create d).onFirst.bind_succeeds fun id => fun s => ⟨_, rfl⟩

theorem modifyThen_spares {view : σ → γ} {getDocument : String → Action σ (Option Document)}
    {updateDocument : Document → Action σ Unit} (get : ∀ id, Keeps view (getDocument id))
    (put : ∀ d, Spares view (updateDocument d)) (id : String)
    {update : Document → Action (σ × ω) (Document × β)}
    (update_keeps : ∀ d, Keeps (beside view) (update d)) (committed : Document → β → ω → ω) :
    Spares (beside view) (modifyThen getDocument updateDocument id update committed) := by
  unfold modifyThen
  refine (get id).onFirst.bind_spares fun found => ?_
  cases found with
  | none => exact (keeps_throw _).spares
  | some d =>
    refine (update_keeps d).bind_spares fun x => ?_
    exact (put x.1).onFirst.bind_succeeds fun _ => fun s => ⟨_, rfl⟩

namespace Store

/-- The plain operations of the store leave what is seen of it if they fail, and lookups always. -/
structure PlainSparing [Store σ] (view : σ → γ) : Prop where
  saveWorkflow : ∀ w, Spares view (Store.saveWorkflow w)
  getWorkflow : ∀ id, Keeps view (Store.getWorkflow id)
  createDocument : ∀ d, Spares view (Store.createDocument d)
  getDocument : ∀ id, Keeps view (Store.getDocument id)
  updateDocument : ∀ d, Spares view (Store.updateDocument d)

theorem PlainSparing.sparing [Store σ] {view : σ → γ} (h : PlainSparing view) (plain : Plain σ) :
    Sparing view where
  saveWorkflow := h.saveWorkflow
  getWorkflow := h.getWorkflow
  getDocument := h.getDocument
  createDocumentThen d committed := by
    rw [plain.createDocumentThen]
    exact createThen_spares h.createDocument d committed
  modifyDocumentThen id update committed update_keeps := by
    rw [plain.modifyDocumentThen]
    exact modifyThen_spares h.getDocument h.updateDocument id update_keeps committed

end Store

theorem PlainStore.plainSparing : Store.PlainSparing (id : PlainStore → PlainStore) where
  saveWorkflow _ := Succeeds.spares fun _ => ⟨_, rfl⟩
  getWorkflow _ _ := rfl
  createDocument _ := Succeeds.spares fun _ => ⟨_, rfl⟩
  getDocument _ _ := rfl
  updateDocument _ := Succeeds.spares fun _ => ⟨_, rfl⟩

/-- Records in memory stay as they are. -/
theorem MemoryStore.sparing : Store.Sparing (id : MemoryStore → MemoryStore) where
  saveWorkflow w := by
    show Spares id (saveWorkflow w)
    unfold saveWorkflow
    refine keeps_get.bind_spares fun s => Succeeds.spares ?_
    split <;> exact fun _ => ⟨_, rfl⟩
  getWorkflow _ _ := rfl
  getDocument _ _ := rfl
  createDocumentThen d committed := by
    rw [joins.createDocumentThen]
    exact createThen_spares (fun _ => Succeeds.spares fun _ => ⟨_, rfl⟩) d committed
  modifyDocumentThen id _ committed update_keeps := by
    rw [modifies.modifyDocumentThen_eq]
    exact modifyThen_spares (fun _ _ => rfl) (fun _ => Succeeds.spares fun _ => ⟨_, rfl⟩) id
      update_keeps committed

namespace FileStore

theorem readRecord_keeps (schema : Json.Schema α) (path : String) :
    Keeps records (readRecord schema path) := by
  intro s
  have leaves : ({ s with disk := (Disk.read path s.disk).2 } : FileStore).records = s.records := by
    rw [Disk.read_leaves]
    exact records_eq (Disk.AgreeOutside.faults "p" s.disk _) (by decide)
  unfold readRecord
  generalize Disk.read path s.disk = out at leaves
  obtain ⟨e | content, disk⟩ := out
  · cases e <;> exact leaves
  · dsimp only
    cases schema.ofText (.ofBytes content) <;> exact leaves

theorem writeDocument_spares (d : Document) : Spares records (writeDocument d) := by
  unfold writeDocument
  split
  · exact keeps_get.bind_spares fun _ => writeRecord_spares _ _
  · exact (keeps_throw _).spares

theorem getDocument_keeps (id : String) : Keeps records (getDocument id) := by
  unfold getDocument
  split
  · exact keeps_get.bind fun _ => readRecord_keeps _ _
  · exact keeps_pure _

theorem createDocument_spares (d : Document) : Spares records (createDocument d) :=
  keeps_get.bind_spares fun _ =>
    (writeDocument_spares _).bind_succeeds fun _ => fun _ => ⟨_, rfl⟩

/-- Records in files stay as they are, whatever fault a disk has. -/
theorem sparing : Store.Sparing records where
  saveWorkflow w := by
    show Spares records (saveWorkflow w)
    unfold saveWorkflow
    refine keeps_get.bind_spares fun s => ?_
    dsimp only
    generalize (if w.id.isEmpty = true then s.ids.workflowId (s.workflowIds + 1) else w.id) = id
    by_cases valid : isValidId id = true
    · rw [if_pos valid]
      refine Spares.bind_succeeds (writeRecord_spares _ _) fun _ => ?_
      cases w.id.isEmpty <;> exact fun _ => ⟨_, rfl⟩
    · rw [if_neg valid]
      exact (keeps_throw _).spares
  getWorkflow id := by
    show Keeps records (getWorkflow id)
    unfold getWorkflow
    split
    · exact keeps_get.bind fun _ => readRecord_keeps _ _
    · exact keeps_pure _
  getDocument := getDocument_keeps
  createDocumentThen d committed := by
    rw [joins.createDocumentThen]
    exact createThen_spares createDocument_spares d committed
  modifyDocumentThen id _ committed update_keeps := by
    rw [modifies.modifyDocumentThen_eq]
    exact modifyThen_spares getDocument_keeps writeDocument_spares id update_keeps committed

end FileStore

end Signoff
