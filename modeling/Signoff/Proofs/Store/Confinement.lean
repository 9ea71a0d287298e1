import Signoff.Proofs.Store.Footprint

/-!
# Where a file store reads and writes

The file of a record and the file beside it stand right in the folder of its kind, and no two
records share one (`FileStore.NamesApart`). A call of a store (`FileStore.Call`) is about the record
of which it is given the kind and the id. To create a document is about the record with the next id
instead, and so is to save a workflow without an id; a modification is also about the record whose
id the updated document has, which is the same one if the document that was found has its own id
and the update keeps it. Whatever the files hold and whatever faults befall them, a call changes no
files but those of the records that it is about, and depends on nothing but these and the folders on
the way to them; if their ids are not valid it does nothing (`FileStore.Confined`).

So a store is a shelf of texts: after any calls it has what it had and what those that succeeded
have put there, in their order (`performAll_shelf`); and where there are no faults and there is
room, lookups are answered from the shelf and writes succeed (`FileStore.Answers`).

* `calls_stay_in_their_files`: all of this.
* `created_document_is_filed_elsewhere`: the id that a document has when it is created names no
  file.
-/

namespace Signoff

open Signoff.Action

variable {ω α β : Type}

namespace FileStore

open Signoff.Disk

variable {s s' : FileStore} {kind id : String}

theorem getDocument_invalid (invalid : ¬ isValidId id = true) (s : FileStore) :
    getDocument id s = (.ok none, s) := by
  rw [getDocument, if_neg invalid]
  rfl

theorem getWorkflow_invalid (invalid : ¬ isValidId id = true) (s : FileStore) :
    getWorkflow id s = (.ok none, s) := by
  rw [getWorkflow, if_neg invalid]
  rfl

/-- A call that is about records without valid ids does nothing to the store. -/
theorem perform_invalid (c : Call ω β) (s : FileStore) (w : ω)
    (invalid : ∀ l ∈ c.concerns s w, isValidId l.id = false) : (perform c (s, w)).2.1 = s := by
  have asked := Bool.eq_false_iff.1 (invalid _ List.mem_cons_self)
  cases c with
  | saveWorkflow v =>
    rw [perform_saveWorkflow]
    rcases saveWorkflow_cases v s with ⟨valid, -⟩ | ⟨-, f, run⟩
    · exact absurd valid asked
    · exact congrArg Prod.snd run
  | getWorkflow id =>
    rw [perform_getWorkflow]
    exact congrArg Prod.snd (getWorkflow_invalid asked s)
  | createDocument d committed => exact absurd (s.ids.documentId_valid _) asked
  | getDocument id =>
    rw [perform_getDocument]
    exact congrArg Prod.snd (getDocument_invalid asked s)
  | updateDocument d =>
    have asked : ¬ isValidId d.id = true := asked
    rw [perform_updateDocument, updateDocument, bind_apply, getDocument_invalid asked]
    rfl
  | modifyDocument id update committed =>
    have asked : ¬ isValidId id = true := asked
    rw [perform_modifyDocument, modifyBeside, modifyWith, bind_apply, onFirst_apply,
      getDocument_invalid asked]
    rfl

/-- If the record that is asked for has its own id and the call gives no document another one, the
call is about this record alone. -/
theorem concerns_asked (c : Call ω β) (s : FileStore) (w : ω)
    (own : Store.Owned (c.asked s).id s) (keeps : c.KeepsIds) :
    ∀ l ∈ c.concerns s w, l = c.asked s := by
  intro l mem
  rcases List.mem_cons.1 mem with rfl | mem
  · rfl
  cases c with
  | modifyDocument id update committed =>
    simp only [Call.updated] at mem
    split at mem
    · rename_i d found
      split at mem
      · rename_i b d' w' ran
        obtain rfl := List.mem_singleton.1 mem
        have kept := keeps (d, w) b (congrArg Prod.fst ran)
        rw [ran] at kept
        have same : d'.id = id := kept.trans (own d found)
        rw [same]
        rfl
      · cases mem
    · cases mem
  | _ => cases mem

/-! ## The names of files -/

/-- The file of a record and the one beside it stand right in the folder of the kind and have the id
in their names; no two records share one, and none is the file of one record and beside another. -/
structure NamesApart (s : FileStore) : Prop where
  inside : ∀ kind id, isValidId id = true →
    s.disk.names (recordPath s.folder kind id) =
      s.disk.names (join s.folder kind) ++ [id ++ ".json"] ∧
    s.disk.names (recordPath s.folder kind id ++ ".tmp") =
      s.disk.names (join s.folder kind) ++ [id ++ ".json" ++ ".tmp"]
  apart : ∀ l l' : Label, l.kind ∈ kinds → l'.kind ∈ kinds → isValidId l.id = true →
    isValidId l'.id = true → l ≠ l' → (s.recordKeys l).Disjoint (s.recordKeys l')
  beside : ∀ l l' : Label, s.disk.keyOf (recordPath s.folder l.kind l.id) ≠
    s.disk.keyOf (recordPath s.folder l'.kind l'.id ++ ".tmp")

theorem namesApart (s : FileStore) : s.NamesApart where
  inside kind id valid := by
    rw [recordPath_beside]
    exact ⟨names_join (isName_file valid).1 .., names_join (isName_file valid).2 ..⟩
  apart l l' hk hk' valid valid' ne := by
    have differ (both : l.kind = l'.kind ∧ l.id = l'.id) : False := by
      obtain ⟨kind, id⟩ := l
      obtain ⟨kind', id'⟩ := l'
      obtain ⟨rfl, rfl⟩ := both
      exact ne rfl
    have crossing (l l' : Label) := (endsIn_recordPath s.folder l.kind l.id).keyOf_ne
      (endsIn_beside (recordPath s.folder l'.kind l'.id)) (by decide) s.disk
    intro key mem mem'
    rw [recordKeys, List.mem_cons, List.mem_singleton] at mem mem'
    rcases mem with mem | mem <;> rcases mem' with mem' | mem' <;>
      have same := mem.symm.trans mem'
    · exact differ (keyOf_recordPath_inj (isName_kind _ hk) (isName_kind _ hk') valid valid' same)
    · exact crossing l l' same
    · exact crossing l' l same.symm
    · exact differ (keyOf_beside_inj (isName_kind _ hk) (isName_kind _ hk') valid valid' same)
  beside l l' := (endsIn_recordPath ..).keyOf_ne (endsIn_beside _) (by decide) s.disk

/-! ## Calls in their files -/

/-- What a call may do to a store, whatever its files hold and whatever faults befall it. -/
structure Confined (s : FileStore) (c : Call ω β) (w : ω) : Prop where
  /-- It changes the files of records with valid ids that it is about. -/
  changes : ∀ key, (perform c (s, w)).2.1.disk.nodes.get? key ≠ s.disk.nodes.get? key →
    ∃ l ∈ c.concerns s w, l.kind ∈ kinds ∧ isValidId l.id = true ∧ key ∈ s.recordKeys l
  /-- It looks at these files, and at the folders on the way to them. -/
  looks : ∀ s', SameOn s (s.reaches (c.concerns s w)) s s' →
    (perform c (s, w)).1 = (perform c (s', w)).1 ∧
      Beside (SameOn s (s.reaches (c.concerns s w))) (perform c (s, w)).2 (perform c (s', w)).2
  /-- It does nothing if none of the records has a valid id. -/
  untouched : (∀ l ∈ c.concerns s w, isValidId l.id = false) → (perform c (s, w)).2.1 = s
  /-- It is about the one record that it is asked for, if this has its own id and the update keeps
  it. -/
  own : Store.Owned (c.asked s).id s → c.KeepsIds → ∀ l ∈ c.concerns s w, l = c.asked s

theorem confined (s : FileStore) (c : Call ω β) (w : ω) : s.Confined c w where
  changes _ := perform_changes c s w
  looks _ := perform_looks c w
  untouched := perform_invalid c s w
  own := concerns_asked c s w

/-- What a lookup makes of the text of a record, if there is one. -/
def recordIn (schema : Json.Schema α) (path : String) : Option Bytes → Except Failure (Option α)
  | none => .ok none
  | some text => (schema.ofText (.ofBytes text)).map some |>.mapError fun e =>
      (StorageError.corruption s!"{path}: {e.message}").toFailure

theorem recordIn_some {schema : Json.Schema α} {a : α} {text : Bytes}
    (read : schema.ofText (.ofBytes text) = .ok a) (path : String) :
    recordIn schema path (some text) = .ok (some a) := by
  rw [recordIn, read]
  rfl

theorem readRecord_clear (schema : Json.Schema α) (clear : s.Clear ⟨kind, id⟩) :
    readRecord schema (recordPath s.folder kind id) s =
      (recordIn schema (recordPath s.folder kind id) (s.text? kind id), s) := by
  obtain ⟨calm, place, -⟩ := clear
  cases there : s.text? kind id with
  | none => exact readRecord_none schema calm place there
  | some text =>
    rw [readRecord_text schema (spared_of_calm calm) there, calm, List.tail_nil, ← calm]
    rfl

/-- Where there are no faults and there is room, a store looks on its shelf, and writes succeed. -/
structure Answers (s : FileStore) : Prop where
  workflow : ∀ id, (isValidId id = true → s.Clear ⟨"workflows", id⟩) → getWorkflow id s =
    (recordIn Workflow.schema (recordPath s.folder "workflows" id) (s.shelf "workflows" id), s)
  document : ∀ id, (isValidId id = true → s.Clear ⟨"documents", id⟩) → getDocument id s =
    (recordIn Document.schema (recordPath s.folder "documents" id) (s.shelf "documents" id), s)
  saves : ∀ v : Workflow, let l := (Call.saveWorkflow v : Call Unit Unit).asked s
    isValidId l.id = true → s.Clear l → (saveWorkflow v s).1 = .ok l.id
  creates : ∀ d : Document, let id := s.ids.documentId (s.documentIds + 1)
    s.Clear ⟨"documents", id⟩ → (createDocument d s).1 = .ok id
  replaces : ∀ d old : Document, s.Clear ⟨"documents", d.id⟩ →
    (getDocument d.id s).1 = .ok (some old) → (updateDocument d s).1 = .ok ()

theorem shelf_invalid (invalid : ¬ isValidId id = true) (kind : String) (s : FileStore) :
    s.shelf kind id = none := if_neg fun both => invalid both.2

theorem answers (s : FileStore) : s.Answers where
  workflow id clear := by
    by_cases valid : isValidId id = true
    · rw [getWorkflow_apply valid, shelf_eq_text? workflows_mem_kinds valid,
        readRecord_clear _ (clear valid)]
    · rw [getWorkflow_invalid valid, shelf_invalid valid, recordIn]
  document id clear := by
    by_cases valid : isValidId id = true
    · rw [getDocument_apply valid, shelf_eq_text? documents_mem_kinds valid,
        readRecord_clear _ (clear valid)]
    · rw [getDocument_invalid valid, shelf_invalid valid, recordIn]
  saves v := by
    intro l valid clear
    have done := writeRecord_succeeds clear.1 clear.2 (Workflow.toJson { v with id := l.id })
    rcases saveWorkflow_cases v s with ⟨-, ⟨f, s', tried, -⟩ | ⟨s₁, s', -, run, -⟩⟩ | ⟨invalid, -⟩
    · have both := (congrArg Prod.fst tried).symm.trans done
      cases both
    · exact congrArg Prod.fst run
    · exact absurd valid invalid
  creates d := by
    intro id clear
    obtain ⟨s', created, -⟩ := createDocument_wrote d clear.1 clear.2
    exact congrArg Prod.fst created
  replaces d old clear found := by
    obtain ⟨text, there, -⟩ := reads_of_found found
    have looked : getDocument d.id s = (.ok (some old), s) :=
      Prod.ext found (eq_of_leaves clear.1 (getDocument_leaves d.id s))
    obtain ⟨s', written, -⟩ := writeDocument_wrote clear.1 (valid_of_shelf there) clear.2
    rw [updateDocument, bind_apply, looked]
    exact congrArg Prod.fst written

/-- Calls stay in the files of the records that they are about, which no two records share, whatever
the files hold and whatever faults befall them. After any calls a store has what it had and what
those that succeeded have written, in their order; and where there are no faults and there is room,
this is what it gives. -/
theorem calls_stay_in_their_files (ω β : Type) (s : FileStore) :
    s.NamesApart ∧ (∀ (c : Call ω β) w, s.Confined c w) ∧
    (∀ (cs : List (Call ω β)) w, let out := performAll cs (s, w)
      out.2.1.shelf = s.shelf.afterAll cs out.1 ∧ (∀ l, s.Clear l → out.2.1.Clear l) ∧
        out.2.1.Answers) ∧
    (∀ path v, recordIn Workflow.schema path (some (encode (Workflow.toJson v).pretty)) =
      .ok (some v)) ∧
    ∀ path (d : Document), d.data.json.Whole → d.data.json.depth < Json.depthLimit →
      recordIn Document.schema path (some (textOf d)) = .ok (some d) :=
  ⟨s.namesApart, s.confined,
    fun cs w => ⟨performAll_shelf cs s w, fun _ clear => performAll_clear cs w clear, answers _⟩,
    fun path v => recordIn_some v.ofText_pretty path,
    fun path _ whole shallow => recordIn_some (Document.ofText_pretty whole shallow) path⟩

theorem perform_create {d : Document} (created : createDocument d s = (.ok id, s'))
    (committed : Document → ω → ω) (w : ω) :
    perform (.createDocument d committed : Call ω β) (s, w) =
      (.ok (.kept id), s', committed { d with id } w) := by
  rw [perform_createDocument, createThen_of_ok created]
  rfl

/-- A document with an id of its own. -/
def labelled : Document := { sample .null with id := "mine" }

/-- The document is created. -/
def creating : Call Unit Unit := .createDocument labelled fun _ u => u

/-- A document with an id of its own is created: it is found under the id that it got, and nothing
is under the one that it had. -/
theorem created_document_is_on_the_shelf :
    let s' := (performAll [creating] (first, ())).2.1
    first.Clear ⟨"documents", documentId 1⟩ ∧ first.Clear ⟨"documents", "mine"⟩ ∧
      (getDocument (documentId 1) s').1 = .ok (some (stored .null)) ∧
      (getDocument "mine" s').1 = .ok none := by
  intro s'
  have valid : isValidId "mine" = true := by decide +kernel
  have other : "mine" ≠ documentId 1 := by decide +kernel
  have clear {id : String} (valid : isValidId id = true) (short : id.utf8ByteSize ≤ maxIdBytes) :
      first.Clear ⟨"documents", id⟩ := ⟨rfl, fresh_first.tidy _ documents_mem_kinds id valid short⟩
  have clear₁ := clear (isValidId_documentId 1) (by decide)
  have clear₂ := clear valid (by decide)
  obtain ⟨-, -, runs, -, reads⟩ := calls_stay_in_their_files Unit Unit first
  obtain ⟨-, -, before⟩ := runs [] ()
  obtain ⟨shelf, stays, after⟩ := runs [creating] ()
  have created : (createDocument labelled first).1 = .ok (documentId 1) :=
    before.creates labelled clear₁
  have result : (performAll [creating] (first, ())).1 = [.ok (.kept (documentId 1))] := by
    rw [creating, performAll, perform_create (Prod.ext created rfl)]
    rfl
  have shelf : s'.shelf = first.shelf.put "documents" (documentId 1) (textOf (stored .null)) := by
    rw [result] at shelf
    exact shelf
  refine ⟨clear₁, clear₂, ?_, ?_⟩
  · rw [after.document _ fun _ => stays _ clear₁, shelf]
    exact reads _ (stored .null) trivial (by decide)
  · rw [after.document _ fun _ => stays _ clear₂, shelf, Shelf.put, if_neg fun both => other both.2,
      shelf_eq_text? documents_mem_kinds valid,
      fresh_first.text? documents_mem_kinds valid (by decide), recordIn]

/-- To create a document with an id of its own changes the file of another record, that of the id
which it gets. -/
theorem created_document_is_filed_elsewhere :
    ∃ key, key ∉ first.recordKeys ⟨"documents", "mine"⟩ ∧
      (perform creating (first, ())).2.1.disk.nodes.get? key ≠ first.disk.nodes.get? key := by
  have valid := isValidId_documentId 1
  have room := fresh_first.tidy "documents" documents_mem_kinds (documentId 1) valid (by decide)
  obtain ⟨s', created, wrote⟩ := createDocument_wrote labelled (s := first) (by rfl) room
  refine ⟨first.disk.keyOf (recordPath first.folder "documents" (documentId 1)), ?_, ?_⟩
  · have apart := first.namesApart.apart ⟨"documents", documentId 1⟩ ⟨"documents", "mine"⟩
      documents_mem_kinds documents_mem_kinds valid (by decide +kernel) (by decide +kernel)
    exact List.disjoint_left.1 apart List.mem_cons_self
  · have before := (endsIn_recordPath ..).get?_keyOf
      (fresh_first.record documents_mem_kinds valid (by decide)).1
    have after : s'.disk.nodes.get?
        (s'.disk.keyOf (recordPath s'.folder "documents" (documentId 1))) = some _ :=
      (endsIn_recordPath ..).get?_keyOf (content?_eq_some.1 wrote.placed)
    rw [keyOf_eq wrote.folders.home, wrote.folder] at after
    rw [creating, perform_create created]
    show s'.disk.nodes.get? _ ≠ _
    rw [after, before]
    exact Option.some_ne_none _

end FileStore

end Signoff
