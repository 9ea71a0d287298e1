import Signoff.Proofs.Engine.Memory
import Signoff.Proofs.Store.Agreement
import Signoff.Proofs.Store.Writing

/-!
# Stores that keep workflows

A store preserves an invariant if each of its plain operations does (`Store.Preserves`); it then
simulates itself, so everything that is put together from these operations preserves the invariant
too (`Store.Preserves.simulates`).

A store is an archive of workflows (`Store.Archive`) if it keeps what it has saved and finds it
under its id. Records in memory are one (`MemoryStore.archive`), and so are records in files,
whatever faults befall them (`FileStore.archive`), because every workflow has a file that nothing
else is written to.
-/

namespace Signoff

open Signoff.Action

variable {σ α : Type}

namespace Store

/-- Every plain operation keeps an invariant of the store. -/
structure Preserves [Store σ] (write : String → Document → Action σ Unit) (I : σ → Prop) :
    Prop where
  joins : Joins write
  saveWorkflow : ∀ {w : Workflow} {s : σ}, w.id.isEmpty = true → I s → I (Store.saveWorkflow w s).2
  getWorkflow : ∀ {id} {s : σ}, I s → I (Store.getWorkflow id s).2
  createDocument : ∀ {d} {s : σ}, I s → I (Store.createDocument d s).2
  getDocument : ∀ {id} {s : σ}, I s → I (Store.getDocument id s).2
  write : ∀ {id d} {s : σ}, I s → I (write id d s).2

/-- The states are the same, and the invariant holds. -/
def Same (I : σ → Prop) (s t : σ) : Prop := s = t ∧ I s

theorem agree_same {I : σ → Prop} {a : Action σ α} (h : ∀ {s}, I s → I (a s).2) :
    Agree (Same I) (Same I) (fun _ => True) a a := by
  rintro s _ ⟨rfl, hI⟩
  exact ⟨rfl, ⟨rfl, h hI⟩, fun _ _ => trivial⟩

/-- A store simulates itself, and keeps the invariant. -/
theorem Preserves.simulates [Store σ] {write : String → Document → Action σ Unit} {I : σ → Prop}
    (h : Preserves write I) :
    Simulates write write (fun _ => True) (fun _ => True) (fun _ _ => True) (Same I) (Same I) where
  joins := h.joins
  joins' := h.joins
  still hI := hI
  workflowId _ := trivial
  moved _ _ := trivial
  saveWorkflow noId := agree_same (h.saveWorkflow noId)
  getWorkflow _ := agree_same h.getWorkflow
  createDocument _ _ := agree_same h.createDocument
  getDocument _ := (agree_same h.getDocument).weaken (fun hI => hI) fun _ _ _ _ => trivial
  put _ := agree_same h.write

theorem Preserves.and [Store σ] {write : String → Document → Action σ Unit} {I J : σ → Prop}
    (h : Preserves write I) (h' : Preserves write J) : Preserves write fun s => I s ∧ J s where
  joins := h.joins
  saveWorkflow noId both := ⟨h.saveWorkflow noId both.1, h'.saveWorkflow noId both.2⟩
  getWorkflow both := ⟨h.getWorkflow both.1, h'.getWorkflow both.2⟩
  createDocument both := ⟨h.createDocument both.1, h'.createDocument both.2⟩
  getDocument both := ⟨h.getDocument both.1, h'.getDocument both.2⟩
  write both := ⟨h.write both.1, h'.write both.2⟩

/-- What is true of every state is kept. -/
theorem preserves_nothing [Store σ] {write : String → Document → Action σ Unit}
    (joins : Joins write) : Preserves write fun _ => True :=
  ⟨joins, fun _ _ => trivial, fun _ => trivial, fun _ => trivial, fun _ => trivial,
    fun _ => trivial⟩

/-- A sound store keeps every workflow that it has saved: it finds the workflow if it can be read,
and never another one in its place. It saves more workflows as long as it can be written. -/
structure Archive [Store σ] (write : String → Document → Action σ Unit)
    (Keeps : Workflow → σ → Prop) (Sound Readable Writable : σ → Prop) : Prop where
  sound : Preserves write Sound
  keeps : ∀ w, Preserves write (Keeps w)
  saved : ∀ {w : Workflow} {s s' : σ} {id}, w.id.isEmpty = true → Sound s →
    Store.saveWorkflow w s = (.ok id, s') → Keeps { w with id } s'
  found : ∀ {w} {s : σ}, Keeps w s → Readable s →
    ∃ s', Store.getWorkflow w.id s = (.ok (some w), s')
  same : ∀ {w w'} {s s' : σ}, Keeps w s → Store.getWorkflow w.id s = (.ok (some w'), s') → w' = w
  saves : ∀ {w : Workflow} {s : σ}, w.id.isEmpty = true → Sound s → Writable s →
    ∃ id s', Store.saveWorkflow w s = (.ok id, s')

/-- An archive may be asked for more from the start, if that is preserved. -/
theorem Archive.restrict [Store σ] {write : String → Document → Action σ Unit}
    {Keeps : Workflow → σ → Prop} {Sound Readable Writable I Readable' Writable' : σ → Prop}
    (h : Archive write Keeps Sound Readable Writable) (preserved : Preserves write I)
    (readable : ∀ {s}, I s → Readable' s → Readable s)
    (writable : ∀ {s}, I s → Writable' s → Writable s) :
    Archive write (fun w s => Keeps w s ∧ I s) (fun s => Sound s ∧ I s) Readable' Writable' where
  sound := h.sound.and preserved
  keeps w := (h.keeps w).and preserved
  saved {w s s' id} noId sound saved := by
    have kept := preserved.saveWorkflow (w := w) noId sound.2
    rw [saved] at kept
    exact ⟨h.saved noId sound.1 saved, kept⟩
  found kept can := h.found kept.1 (readable kept.2 can)
  same kept found := h.same kept.1 found
  saves noId sound can := h.saves noId sound.1 (writable sound.2 can)

end Store

/-! ## Records in memory -/

namespace MemoryStore

/-- The workflow is among the records, and its id was handed out. -/
def KeepsWorkflow (w : Workflow) (m : MemoryStore) : Prop :=
  (∃ n ≤ m.workflowIds, w.id = m.ids.workflowId n) ∧ m.workflows.get? w.id = some w

theorem preserves_of_workflows {I : MemoryStore → Prop}
    (added : ∀ m w, I m → I (addWorkflow m w))
    (same : ∀ m documents documentIds, I m → I { m with documents, documentIds }) :
    Store.Preserves writeDocument I where
  joins := joins
  saveWorkflow {w s} noId h := by
    rw [saveWorkflow_apply noId]
    exact added s w h
  getWorkflow h := h
  createDocument {d s} h := same s (s.addDocument d).documents (s.documentIds + 1) h
  getDocument h := h
  write {id d s} h := same s (s.documents.insert id d) s.documentIds h

theorem archive :
    Store.Archive writeDocument KeepsWorkflow (fun _ => True) (fun _ => True) (fun _ => True) where
  sound := preserves_of_workflows (fun _ _ h => h) fun _ _ _ h => h
  keeps w := by
    refine preserves_of_workflows (fun m w' h => ?_) fun _ _ _ h => h
    obtain ⟨⟨n, le, number⟩, found⟩ := h
    refine ⟨⟨n, Nat.le_succ_of_le le, number⟩, ?_⟩
    have other : w.id ≠ m.nextWorkflowId := by
      intro next
      have := m.ids.workflowId_inj (number.symm.trans next)
      omega
    exact (Table.get?_insert_of_ne _ other _).trans found
  saved {w s s' id} noId _ saved := by
    rw [saveWorkflow_apply noId] at saved
    cases saved
    exact ⟨⟨_, Nat.le_refl _, rfl⟩, Table.get?_insert_self ..⟩
  found {w s} kept _ := ⟨s, congrArg (fun found => (Except.ok found, s)) kept.2⟩
  same {w w' s s'} kept found := by
    have both : some w' = s.workflows.get? w.id := Except.ok.inj (congrArg Prod.fst found.symm)
    exact Option.some.inj (both.trans kept.2)
  saves {w s} noId _ _ := ⟨_, _, saveWorkflow_apply noId s⟩

end MemoryStore

/-! ## Records in files -/

namespace FileStore

/-- The file of the workflow has the text of the workflow, and its id was handed out. -/
def KeepsWorkflow (w : Workflow) (f : FileStore) : Prop :=
  (∃ n ≤ f.workflowIds, w.id = f.ids.workflowId n) ∧
    f.text? "workflows" w.id = some (encode w.toJson.pretty)

/-- The id of the next workflow is not too long for the names of files. -/
def NextFits (f : FileStore) : Prop :=
  (f.ids.workflowId (f.workflowIds + 1)).utf8ByteSize ≤ maxIdBytes

instance (f : FileStore) : Decidable f.NextFits :=
  inferInstanceAs (Decidable ((f.ids.workflowId (f.workflowIds + 1)).utf8ByteSize ≤ maxIdBytes))

/-- The files can be written: no fault is scheduled, and the next id is not too long. -/
def Writable (f : FileStore) : Prop := f.disk.faults = [] ∧ f.NextFits

variable {f : FileStore} {w : Workflow}

theorem KeepsWorkflow.valid (h : KeepsWorkflow w f) : isValidId w.id = true := by
  obtain ⟨⟨n, -, number⟩, -⟩ := h
  rw [number]
  exact f.ids.workflowId_valid n

/-- What the files preserve: an invariant that lasts when faults are taken and when a document or
the next workflow is written, whether or not that succeeds. -/
theorem preserves_of_touches {I : FileStore → Prop}
    (faults : ∀ {f faults}, faults <:+ f.disk.faults → I f →
      I { f with disk := { f.disk with faults } })
    (document : ∀ {f f' id} documentIds, Touches "documents" id f f' → I f →
      I { f' with documentIds })
    (workflow : ∀ {f f'} workflowIds, f.workflowIds ≤ workflowIds →
      Touches "workflows" (f.ids.workflowId (f.workflowIds + 1)) f f' → I f →
      I { f' with workflowIds }) :
    Store.Preserves (fun _ => writeDocument) I where
  joins := joins
  saveWorkflow {w s} noId h := by
    have touched := writeRecord_touches isName_workflows
      (s.ids.workflowId_valid (s.workflowIds + 1))
      (Workflow.toJson { w with id := s.ids.workflowId (s.workflowIds + 1) }) s
    show I (saveWorkflow w s).2
    rcases saveWorkflow_writes noId s with ⟨f, s', written, run⟩ | ⟨s', written, run⟩ <;>
      rw [written] at touched <;> rw [run]
    · exact workflow s'.workflowIds (Nat.le_of_eq touched.workflowIds.symm) touched h
    · exact workflow (s.workflowIds + 1) (Nat.le_succ _) touched h
  getWorkflow {id s} h := by
    obtain ⟨_, fewer, taken⟩ := getWorkflow_leaves id s
    show I (getWorkflow id s).2
    rw [taken]
    exact faults fewer h
  createDocument {d s} h := by
    have touched := writeRecord_touches isName_documents
      (s.ids.documentId_valid (s.documentIds + 1))
      (Document.toJson { d with id := s.ids.documentId (s.documentIds + 1) }) s
    show I (createDocument d s).2
    rcases createDocument_writes d s with ⟨f, s', written, run⟩ | ⟨s', written, run⟩ <;>
      rw [written] at touched <;> rw [run]
    · exact document s'.documentIds touched h
    · exact document (s.documentIds + 1) touched h
  getDocument {id s} h := by
    obtain ⟨_, fewer, taken⟩ := getDocument_leaves id s
    show I (getDocument id s).2
    rw [taken]
    exact faults fewer h
  write {id d s} h := by
    by_cases valid : isValidId d.id = true
    · rw [writeDocument_apply valid]
      have touched := writeRecord_touches isName_documents valid d.toJson s
      exact document _ touched h
    · unfold writeDocument
      rw [if_neg valid]
      exact h

theorem text?_faults (kind id : String) (faults : List (Option Disk.Error)) :
    ({ f with disk := { f.disk with faults } } : FileStore).text? kind id = f.text? kind id := by
  rw [text?, text?, Disk.content?, Disk.content?, Disk.node?_faults]

theorem tidy_preserves : Store.Preserves (fun _ => writeDocument) Tidy := by
  refine preserves_of_touches (fun {f faults} _ h => ?_)
    (fun {f f' id} _ touched h => show f'.Tidy from h.touches touched)
    fun {f f'} _ _ touched h => show f'.Tidy from h.touches touched
  intro kind hk id valid short
  have room := h kind hk id valid short
  unfold HasRoom Disk.Place at room ⊢
  simpa only [Disk.node?_faults] using room

/-- Nothing that is done to the files schedules faults. -/
theorem calm_preserves :
    Store.Preserves (fun _ => writeDocument) fun f => f.disk.faults = [] := by
  refine preserves_of_touches (fun {f faults} fewer calm => ?_) (fun _ touched => touched.calm)
    fun _ _ touched => touched.calm
  rw [calm] at fewer
  exact List.suffix_nil.1 fewer

/-- The folders of the store stay. -/
theorem stands_preserves :
    Store.Preserves (fun _ => writeDocument) fun f => Stands f.disk f.folder := by
  refine preserves_of_touches
    (fun _ stands kind hk => (Disk.node?_faults ..).trans (stands kind hk))
    (fun {f f' id} _ touched stands => ?_) fun {f f'} _ _ touched stands => ?_
  all_goals
    intro kind hk
    show f'.disk.node? (join f'.folder kind) = _
    rw [touched.folder]
    exact touched.folders.node?_folder (stands kind hk)

theorem keepsWorkflow_preserves (w : Workflow) :
    Store.Preserves (fun _ => writeDocument) (KeepsWorkflow w) := by
  refine preserves_of_touches (fun _ h => ⟨h.1, (text?_faults ..).trans h.2⟩)
    (fun {f f' id} documentIds touched h => ?_) fun {f f'} workflowIds le touched h => ?_
  · obtain ⟨n, le, number⟩ := h.1
    refine ⟨⟨n, touched.workflowIds ▸ le, touched.ids ▸ number⟩, ?_⟩
    rw [← h.2]
    exact touched.other isName_workflows h.valid fun both => absurd both.1 (by decide)
  · obtain ⟨n, le', number⟩ := h.1
    refine ⟨⟨n, Nat.le_trans le' le, touched.ids ▸ number⟩, ?_⟩
    rw [← h.2]
    refine touched.other isName_workflows h.valid fun both => ?_
    have := f.ids.workflowId_inj (number.symm.trans both.2)
    omega

/-- A file with the text of a workflow gives the workflow, unless a fault is due. -/
theorem getWorkflow_kept (kept : KeepsWorkflow w f) (spared : f.disk.Spared) :
    getWorkflow w.id f =
      (.ok (some w), { f with disk := { f.disk with faults := f.disk.faults.tail } }) := by
  rw [getWorkflow_apply kept.valid, readRecord_text _ spared kept.2, w.ofText_pretty]
  rfl

theorem archive : Store.Archive (fun _ => writeDocument) KeepsWorkflow Tidy
    (fun f => f.disk.Spared) Writable where
  sound := tidy_preserves
  keeps := keepsWorkflow_preserves
  saved {w s s' id} noId _ saved := by
    have saved : saveWorkflow w s = (.ok id, s') := saved
    rcases saveWorkflow_writes noId s with ⟨f, s₁, written, run⟩ | ⟨s₁, written, run⟩
    · cases saved.symm.trans run
    · have placed := writeRecord_placed (congrArg Prod.fst written)
      rw [written] at placed
      have touched := writeRecord_touches isName_workflows
        (s.ids.workflowId_valid (s.workflowIds + 1))
        (Workflow.toJson { w with id := s.ids.workflowId (s.workflowIds + 1) }) s
      rw [written] at touched
      cases saved.symm.trans run
      exact ⟨⟨_, Nat.le_refl _, touched.ids ▸ rfl⟩, placed⟩
  found kept spared := ⟨_, getWorkflow_kept kept spared⟩
  same {w w' s s'} kept found := by
    by_cases spared : s.disk.Spared
    · have both := (getWorkflow_kept kept spared).symm.trans found
      injection both with both
      injection both with both
      exact (Option.some.inj both).symm
    · have refused := readRecord_struck Workflow.schema (recordPath s.folder "workflows" w.id)
        spared w'
      rw [← getWorkflow_apply kept.valid, show getWorkflow w.id s = _ from found] at refused
      exact absurd rfl refused
  saves {w s} noId tidy writable := by
    obtain ⟨calm, short⟩ := writable
    have room := tidy "workflows" workflows_mem_kinds _ (s.ids.workflowId_valid _) short
    obtain ⟨s', saved, -⟩ := saveWorkflow_wrote noId calm room
    exact ⟨_, _, saved⟩

/-- Files without faults can always be read. -/
theorem calm_archive : Store.Archive (fun _ => writeDocument)
    (fun w f => KeepsWorkflow w f ∧ f.disk.faults = []) (fun f => f.Tidy ∧ f.disk.faults = [])
    (fun _ => True) NextFits :=
  archive.restrict calm_preserves (fun calm _ => Disk.spared_of_calm calm) fun calm fits =>
    ⟨calm, fits⟩

end FileStore

end Signoff
