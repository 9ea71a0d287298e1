import Signoff.Proofs.Store.Archive

/-!
# Stores of accepted workflows

A store vets its workflows if it has accepted ones only, as long as no other is saved, and if it
never fails in a way that should not happen (`Store.Vets`). Records in memory do
(`MemoryStore.vets`), and so do records in files, whatever faults befall them (`FileStore.vets`):
the file of a workflow has the text of an accepted one, and a text is read as what was written.
-/

namespace Signoff

open Signoff.Action

variable {σ ω β : Type}

/-- The failure is one that a client or the host of the service may meet. -/
def Failure.IsExpected (f : Failure) : Prop := f.isInternal = false

/-- The definition of the workflow has no defect. -/
def Workflow.IsAccepted (w : Workflow) : Prop := w.definition.check = .ok ()

theorem createThen_ensures {I : σ → Prop} {J : ω → Prop} {Good : String → Prop}
    {Fine : Failure → Prop} {create : Document → Action σ String} {d : Document}
    (h : Ensures I Good Fine (create d)) {committed : Document → ω → ω}
    (keeps : ∀ d w, J w → J (committed d w)) :
    Ensures (Each I J) Good Fine (createThen create d committed) :=
  h.onFirst.bind fun _ good =>
    (ensures_changeSecond (keeps _)).bind fun _ _ => ensures_pure good

theorem modifyThen_ensures {I : σ → Prop} {J : ω → Prop} (Good : Document × β → Prop)
    {Fine : Failure → Prop} {get : String → Action σ (Option Document)}
    {put : Document → Action σ Unit} {id : String}
    {update : Document → Action (σ × ω) (Document × β)}
    (found : Ensures I (fun _ => True) Fine (get id)) (missing : Fine (.documentNotFound id))
    (updated : ∀ d, Ensures (Each I J) Good Fine (update d))
    (kept : ∀ d, Ensures I (fun _ => True) Fine (put d)) {committed : Document → β → ω → ω}
    (keeps : ∀ d b w, J w → J (committed d b w)) :
    Ensures (Each I J) Good Fine (modifyThen get put id update committed) := by
  refine found.onFirst.bind fun found _ => ?_
  cases found with
  | none => exact ensures_throw missing
  | some d =>
    refine (updated d).bind fun x good => (kept x.1).onFirst.bind fun _ _ => ?_
    exact (ensures_changeSecond (keeps _ _)).bind fun _ _ => ensures_pure good

/-- The plain operations keep an invariant that lets the store have accepted workflows only, and
fail as expected. -/
structure Store.Vets [Store σ] (write : String → Document → Action σ Unit) (I : σ → Prop) :
    Prop where
  joins : Joins write
  saveWorkflow : ∀ {w : Workflow}, w.id.isEmpty = true → w.IsAccepted →
    Ensures I (fun _ => True) Failure.IsExpected (Store.saveWorkflow w)
  getWorkflow : ∀ id, Ensures I (fun found => ∀ w, found = some w → w.IsAccepted)
    Failure.IsExpected (Store.getWorkflow id)
  createDocument : ∀ d, Ensures I (fun _ => True) Failure.IsExpected (Store.createDocument d)
  getDocument : ∀ id, Ensures I (fun _ => True) Failure.IsExpected (Store.getDocument id)
  write : ∀ id d, Ensures I (fun _ => True) Failure.IsExpected (write id d)

/-! ## Records in memory -/

namespace MemoryStore

/-- All workflows are accepted ones. -/
def Vetted (m : MemoryStore) : Prop := ∀ id w, m.workflows.get? id = some w → w.IsAccepted

theorem vetted_empty (ids : IdSource) : (empty ids).Vetted := by
  intro id w stored
  have none_ : (empty ids).workflows.get? id = none := rfl
  rw [none_] at stored
  cases stored

theorem Vetted.addWorkflow {m : MemoryStore} {w : Workflow} (h : m.Vetted)
    (accepted : w.IsAccepted) : (m.addWorkflow w).Vetted := by
  intro id w' stored
  by_cases new : id = m.nextWorkflowId
  · subst new
    rw [show (m.addWorkflow w).workflows.get? m.nextWorkflowId = some _ from
      Table.get?_insert_self ..] at stored
    cases stored
    exact accepted
  · exact h id w' ((Table.get?_insert_of_ne _ new _).symm.trans stored)

theorem vets : Store.Vets writeDocument Vetted where
  joins := joins
  saveWorkflow {w} noId accepted m vetted := by
    rw [saveWorkflow_apply noId]
    exact ⟨vetted.addWorkflow accepted, fun _ _ => trivial, nofun⟩
  getWorkflow id m vetted := ⟨vetted, fun found eq w isSome => by
    cases eq
    exact vetted id w isSome, nofun⟩
  createDocument d m vetted := ⟨vetted, fun _ _ => trivial, nofun⟩
  getDocument id m vetted := ⟨vetted, fun _ _ => trivial, nofun⟩
  write id d m vetted := ⟨vetted, fun _ _ => trivial, nofun⟩

end MemoryStore

/-! ## Records in files -/

namespace FileStore

/-- The files of workflows have the texts of accepted ones. -/
def Vetted (f : FileStore) : Prop :=
  ∀ id, isValidId id = true → ∀ text, f.text? "workflows" id = some text →
    ∃ w : Workflow, w.IsAccepted ∧ text = encode w.toJson.pretty

/-- No workflow has a file. -/
def NoWorkflows (f : FileStore) : Prop :=
  ∀ id, isValidId id = true → f.text? "workflows" id = none

variable {f f' : FileStore} {id : String}

theorem NoWorkflows.vetted (h : f.NoWorkflows) : f.Vetted := by
  intro id valid text found
  rw [h id valid] at found
  cases found

/-- In folders that hold nothing no workflow has a file. -/
theorem Fresh.noWorkflows (h : f.Fresh) : f.NoWorkflows := by
  intro id valid
  refine Option.eq_none_iff_forall_ne_some.2 fun text found => ?_
  have node := (endsIn_recordPath ..).get?_keyOf (Disk.content?_eq_some.1 found)
  rw [recordPath, keyOf_join isName_workflows (isName_file valid).1,
    h.bare "workflows" workflows_mem_kinds] at node
  cases node

theorem Vetted.faults (h : f.Vetted) (faults : List (Option Disk.Error)) :
    Vetted { f with disk := { f.disk with faults } } :=
  fun id valid text found => h id valid text ((text?_faults ..).symm.trans found)

theorem Vetted.ids (h : f.Vetted) (workflowIds documentIds : Nat) :
    Vetted { f with workflowIds, documentIds } := h

/-- Writing a document leaves the workflows. -/
theorem Vetted.touches (h : f.Vetted) (t : Touches "documents" id f f') : f'.Vetted := by
  intro id' valid text found
  rw [t.other isName_workflows valid fun both => absurd both.1 (by decide)] at found
  exact h id' valid text found

theorem readRecord_expected {α : Type} {schema : Json.Schema α} {path : String} {e : Failure}
    (h : (readRecord schema path f).1 = .error e) : e.IsExpected := by
  unfold readRecord at h
  split at h
  · cases h
  · cases h
    rfl
  · split at h
    · cases h
    · cases h
      rfl

theorem writeRecord_expected (path : String) (j : Json) (f : FileStore) {e : Failure}
    (h : (writeRecord path j f).1 = .error e) : e.IsExpected := by
  rw [writeRecord_apply] at h
  obtain ⟨_, -, rfl⟩ := mapError_eq_error.1 h
  rfl

theorem getDocument_expected {e : Failure} (h : (getDocument id f).1 = .error e) :
    e.IsExpected := by
  by_cases valid : isValidId id = true
  · rw [getDocument_apply valid] at h
    exact readRecord_expected h
  · unfold getDocument at h
    rw [if_neg valid] at h
    cases h

theorem writeDocument_ensures (d : Document) :
    Ensures Vetted (fun _ => True) Failure.IsExpected (writeDocument d) := by
  intro f vetted
  by_cases valid : isValidId d.id = true
  · rw [writeDocument_apply valid]
    exact ⟨vetted.touches (writeRecord_touches isName_documents valid ..), fun _ _ => trivial,
      fun _ => writeRecord_expected _ _ _⟩
  · unfold writeDocument
    rw [if_neg valid]
    exact ⟨vetted, nofun, fun _ eq => Except.error.inj eq ▸ rfl⟩

/-- A document that is created is written, and then its id counts. -/
theorem createDocument_ensures (d : Document) :
    Ensures Vetted (fun _ => True) Failure.IsExpected (createDocument d) := by
  intro f vetted
  have kept := vetted.touches (writeRecord_touches isName_documents
    (f.ids.documentId_valid (f.documentIds + 1))
    (Document.toJson { d with id := f.ids.documentId (f.documentIds + 1) }) f)
  rcases createDocument_writes d f with ⟨e, f', written, run⟩ | ⟨f', written, run⟩ <;>
    rw [written] at kept <;> rw [run]
  · refine ⟨kept, nofun, fun _ eq => ?_⟩
    obtain rfl := Except.error.inj eq
    exact writeRecord_expected _ _ f (congrArg Prod.fst written)
  · exact ⟨kept.ids _ _, fun _ _ => trivial, nofun⟩

/-- A workflow that is written is among the others, and one that is not leaves them. -/
theorem Vetted.writeRecord {w : Workflow} (h : f.Vetted) (accepted : w.IsAccepted)
    (valid : isValidId id = true) :
    (writeRecord (recordPath f.folder "workflows" id)
      (Workflow.toJson { w with id }) f).2.Vetted := by
  intro id' valid' text found
  cases written : (FileStore.writeRecord (recordPath f.folder "workflows" id)
      (Workflow.toJson { w with id }) f).1 with
  | error e =>
    have same := (records_inj (writeRecord_spares _ _ _ _ written)).2.1 id'
    exact h id' valid' text (same.symm.trans found)
  | ok u =>
    by_cases new : id' = id
    · subst new
      exact ⟨{ w with id := id' }, accepted,
        Option.some.inj (found.symm.trans (writeRecord_placed written))⟩
    · refine h id' valid' text (Eq.trans (Eq.symm ?_) found)
      exact (writeRecord_touches isName_workflows valid _ f).other isName_workflows valid'
        fun both => new both.2

theorem saveWorkflow_ensures {w : Workflow} (noId : w.id.isEmpty = true)
    (accepted : w.IsAccepted) :
    Ensures Vetted (fun _ => True) Failure.IsExpected (saveWorkflow w) := by
  intro f vetted
  have kept := vetted.writeRecord accepted (f.ids.workflowId_valid (f.workflowIds + 1))
  rcases saveWorkflow_writes noId f with ⟨e, f', written, run⟩ | ⟨f', written, run⟩ <;>
    rw [written] at kept <;> rw [run]
  · refine ⟨kept, nofun, fun _ eq => ?_⟩
    obtain rfl := Except.error.inj eq
    exact writeRecord_expected _ _ f (congrArg Prod.fst written)
  · exact ⟨kept.ids _ _, fun _ _ => trivial, nofun⟩

theorem vets : Store.Vets (fun _ => writeDocument) Vetted where
  joins := joins
  saveWorkflow := saveWorkflow_ensures
  getWorkflow id f vetted := by
    obtain ⟨faults, -, left_⟩ := getWorkflow_leaves id f
    show (getWorkflow id f).2.Vetted ∧ _
    refine ⟨left_ ▸ vetted.faults faults, ?_⟩
    show (∀ found, (getWorkflow id f).1 = .ok found → _) ∧ ∀ e, (getWorkflow id f).1 = .error e → _
    by_cases valid : isValidId id = true
    · rw [getWorkflow_apply valid]
      refine ⟨fun found ok w isSome => ?_, fun _ => readRecord_expected⟩
      subst isSome
      obtain ⟨text, stored, read⟩ := readRecord_found ok
      obtain ⟨w', accepted, rfl⟩ := vetted id valid text stored
      rw [w'.ofText_pretty] at read
      cases read
      exact accepted
    · unfold getWorkflow
      rw [if_neg valid]
      refine ⟨fun found ok w isSome => ?_, nofun⟩
      subst isSome
      cases ok
  createDocument := createDocument_ensures
  getDocument id f vetted := by
    obtain ⟨faults, -, left_⟩ := getDocument_leaves id f
    show (getDocument id f).2.Vetted ∧ _
    exact ⟨left_ ▸ vetted.faults faults, fun _ _ => trivial, fun _ => getDocument_expected⟩
  write _ := writeDocument_ensures

end FileStore

end Signoff
