import Signoff.Proofs.Store.Modifying

/-!
# Calls of a file store

A call of a store (`FileStore.Call`) is about the record of which it is given the kind and the id.
To create a document is about the record with the next id instead, and so is to save a workflow
without an id; a modification is also about the record whose id the updated document has
(`FileStore.Call.concerns`).

A call has only looked at the files, or it has tried to write a record that it is about, and it has
written this if it succeeds (`FileStore.perform_course`). So, whatever the files hold and whatever
faults befall them, it changes no files but those of the records that it is about
(`perform_changes`), and after any calls a store has what it had and what those that succeeded have
written, in their order (`performAll_shelf`).
-/

namespace Signoff

open Signoff.Action

variable {σ ω α β : Type}

namespace FileStore

open Signoff.Disk

/-! ## Calls -/

/-- The kind and the id of a record. -/
structure Label where
  kind : String
  id : String
deriving DecidableEq

/-- A call of a store. The updates and the commitments do not use the store. -/
inductive Call (ω β : Type) where
  | saveWorkflow (v : Workflow)
  | getWorkflow (id : String)
  | createDocument (d : Document) (committed : Document → ω → ω)
  | getDocument (id : String)
  | updateDocument (d : Document)
  | modifyDocument (id : String) (update : Action (Document × ω) β)
      (committed : Document → β → ω → ω)

/-- What a call gives. -/
inductive Reply (β : Type) where
  | kept (id : String)
  | workflow (found : Option Workflow)
  | document (found : Option Document)
  | replaced
  | modified (d : Document) (b : β)

/-- Carries out a call. -/
def perform : Call ω β → Action (FileStore × ω) (Reply β)
  | .saveWorkflow v => do return .kept (← (Store.saveWorkflow v).onFirst)
  | .getWorkflow id => do return .workflow (← (Store.getWorkflow id).onFirst)
  | .createDocument d committed => do return .kept (← Store.createDocumentThen d committed)
  | .getDocument id => do return .document (← (Store.getDocument id).onFirst)
  | .updateDocument d => do
    (Store.updateDocument d).onFirst
    return .replaced
  | .modifyDocument id update committed => do
    let (d, b) ← Store.modifyDocumentWith id update.onSecond fun d b => .beside (committed d b)
    return .modified d b

/-- Carries out calls one after the other. -/
def performAll : List (Call ω β) → FileStore × ω → List (Except Failure (Reply β)) × FileStore × ω
  | [], x => ([], x)
  | c :: rest, x =>
    let (r, x) := perform c x
    let (rs, x) := performAll rest x
    (r :: rs, x)

section

variable (s : FileStore) (w : ω)

theorem reply_apply (a : Action σ α) (reply : α → Reply β) (x : σ) :
    (do return reply (← a) : Action σ (Reply β)) x = ((a x).1.map reply, (a x).2) := by
  rw [bind_apply]
  rcases a x with ⟨_ | y, x'⟩ <;> rfl

theorem reply_onFirst (a : Action FileStore α) (reply : α → Reply β) :
    (do return reply (← a.onFirst) : Action (FileStore × ω) (Reply β)) (s, w) =
      ((a s).1.map reply, (a s).2, w) := by
  rw [reply_apply, onFirst_apply]

theorem perform_saveWorkflow (v : Workflow) : perform (.saveWorkflow v : Call ω β) (s, w) =
    ((saveWorkflow v s).1.map .kept, (saveWorkflow v s).2, w) :=
  reply_onFirst s w (Store.saveWorkflow v) .kept

theorem perform_getWorkflow (id : String) : perform (.getWorkflow id : Call ω β) (s, w) =
    ((getWorkflow id s).1.map .workflow, (getWorkflow id s).2, w) :=
  reply_onFirst s w (Store.getWorkflow id) .workflow

theorem perform_createDocument (d : Document) (committed : Document → ω → ω) :
    perform (.createDocument d committed : Call ω β) (s, w) =
      ((createThen createDocument d committed (s, w)).1.map .kept,
        (createThen createDocument d committed (s, w)).2) := by
  rw [perform, FileStore.joins.createDocumentThen]
  exact reply_apply ..

theorem perform_getDocument (id : String) : perform (.getDocument id : Call ω β) (s, w) =
    ((getDocument id s).1.map .document, (getDocument id s).2, w) :=
  reply_onFirst s w (Store.getDocument id) .document

theorem perform_updateDocument (d : Document) : perform (.updateDocument d : Call ω β) (s, w) =
    ((updateDocument d s).1.map fun _ => .replaced, (updateDocument d s).2, w) :=
  reply_onFirst s w (Store.updateDocument d) fun _ => .replaced

/-- How a modification runs whose update does not look at the store. -/
def modifyBeside (id : String) (update : Action (Document × ω) β)
    (committed : Document → β → ω → ω) : Action (FileStore × ω) (Document × β) :=
  modifyWith getDocument writeDocument id update.onSecond fun d b => .beside (committed d b)

theorem perform_modifyDocument (id : String) (update : Action (Document × ω) β)
    (committed : Document → β → ω → ω) :
    perform (.modifyDocument id update committed) (s, w) =
      ((modifyBeside id update committed (s, w)).1.map fun x => .modified x.1 x.2,
        (modifyBeside id update committed (s, w)).2) := by
  rw [perform, modifiesWith.modifyDocumentWith]
  exact reply_apply ..

end

namespace Call

variable (s : FileStore) (w : ω)

/-- The record whose id a call is given, by itself or in a record, or which it gets a new id for. -/
def asked : Call ω β → Label
  | .saveWorkflow v =>
    ⟨"workflows", if v.id.isEmpty then s.ids.workflowId (s.workflowIds + 1) else v.id⟩
  | .getWorkflow id => ⟨"workflows", id⟩
  | .createDocument _ _ => ⟨"documents", s.ids.documentId (s.documentIds + 1)⟩
  | .getDocument id => ⟨"documents", id⟩
  | .updateDocument d => ⟨"documents", d.id⟩
  | .modifyDocument id _ _ => ⟨"documents", id⟩

/-- The record whose id the updated document of a modification has. -/
def updated : Call ω β → List Label
  | .modifyDocument id update _ =>
    match (FileStore.getDocument id s).1 with
    | .ok (some d) =>
      match update (d, w) with
      | (.ok _, d', _) => [⟨"documents", d'.id⟩]
      | (.error _, _) => []
    | _ => []
  | _ => []

/-- The records that a call is about. -/
def concerns (c : Call ω β) : List Label := c.asked s :: c.updated s w

/-- The call gives no document another id. -/
def KeepsIds : Call ω β → Prop
  | .modifyDocument _ update _ => ∀ x b, (update x).1 = .ok b → (update x).2.1.id = x.1.id
  | _ => True

/-- The record that a call has written if it succeeded, with its text. -/
def written? : Call ω β → Reply β → Option (Label × Bytes)
  | .saveWorkflow v, .kept id =>
    some (⟨"workflows", id⟩, encode (Workflow.toJson { v with id }).pretty)
  | .createDocument d _, .kept id => some (⟨"documents", id⟩, textOf { d with id })
  | .updateDocument d, .replaced => some (⟨"documents", d.id⟩, textOf d)
  | .modifyDocument _ _ _, .modified d _ => some (⟨"documents", d.id⟩, textOf d)
  | _, _ => none

end Call

/-- The shelf after a call with an outcome. -/
def Shelf.after (shelf : Shelf) (c : Call ω β) : Except Failure (Reply β) → Shelf
  | .error _ => shelf
  | .ok r =>
    match c.written? r with
    | some (l, text) => shelf.put l.kind l.id text
    | none => shelf

/-- The shelf after calls with their outcomes. -/
def Shelf.afterAll (shelf : Shelf) : List (Call ω β) → List (Except Failure (Reply β)) → Shelf
  | c :: cs, r :: rs => (shelf.after c r).afterAll cs rs
  | _, _ => shelf

variable {s s' : FileStore} {w : ω} {c : Call ω β} {kind id : String}

/-! ## The course of a call -/

/-- No faults are scheduled, and there is room for the record. -/
def Clear (s : FileStore) (l : Label) : Prop := s.disk.faults = [] ∧ s.HasRoom l.kind l.id

/-- The second store is the first, which some faults have befallen. -/
def Looked (s s' : FileStore) : Prop :=
  ∃ faults, faults <:+ s.disk.faults ∧ s' = { s with disk := { s.disk with faults } }

theorem Looked.refl (s : FileStore) : Looked s s := ⟨_, List.suffix_rfl, rfl⟩

theorem Looked.sheltered (h : Looked s s') : s'.sheltered = s.sheltered := by
  obtain ⟨faults, -, rfl⟩ := h
  rfl

theorem Looked.calm (h : Looked s s') (calm : s.disk.faults = []) : s'.disk.faults = [] := by
  rw [eq_of_leaves calm h, calm]

theorem Looked.clear {l : Label} (h : Looked s s') (clear : s.Clear l) : s'.Clear l := by
  have calm := h.calm clear.1
  obtain ⟨faults, -, rfl⟩ := h
  have room := clear.2
  refine ⟨calm, ?_⟩
  unfold HasRoom Disk.Place at room ⊢
  simpa only [Disk.node?_faults] using room

theorem looked_of_getDocument {r : Except Failure (Option Document)}
    (h : getDocument id s = (r, s')) : Looked s s' := by
  have leaves := getDocument_leaves id s
  rw [h] at leaves
  exact leaves

/-- What a call has done to a store, and what it gives: it has only looked at the files, or it has
tried to write a record that it is about. -/
inductive Course (c : Call ω β) (s : FileStore) (w : ω) :
    Except Failure (Reply β) × FileStore × ω → Prop where
  | looked {r s' w'} (looked : Looked s s') (nothing : s.shelf.after c r = s.shelf) :
      Course c s w (r, s', w')
  | failed {f s₁ s' w' l j} (about : l ∈ c.concerns s w) (known : l.kind ∈ kinds)
      (valid : isValidId l.id = true) (before : Looked s s₁)
      (tried : writeRecord (recordPath s₁.folder l.kind l.id) j s₁ = (.error f, s')) :
      Course c s w (.error f, s', w')
  | wrote {r s₁ s₂ s' w' l j} (about : l ∈ c.concerns s w) (known : l.kind ∈ kinds)
      (valid : isValidId l.id = true) (before : Looked s s₁)
      (wrote : writeRecord (recordPath s₁.folder l.kind l.id) j s₁ = (.ok (), s₂))
      (disk : s'.disk = s₂.disk) (folder : s'.folder = s₂.folder)
      (placed : c.written? r = some (l, encode j.pretty)) :
      Course c s w (.ok r, s', w')

/-- Saving a workflow writes it under its id, or under the next one if it has none. -/
theorem saveWorkflow_cases (v : Workflow) (s : FileStore) :
    let l : Label :=
      ⟨"workflows", if v.id.isEmpty then s.ids.workflowId (s.workflowIds + 1) else v.id⟩
    let write :=
      writeRecord (recordPath s.folder l.kind l.id) (Workflow.toJson { v with id := l.id })
    (isValidId l.id = true ∧
        ((∃ f s', write s = (.error f, s') ∧ saveWorkflow v s = (.error f, s')) ∨
          ∃ s₁ s', write s = (.ok (), s₁) ∧ saveWorkflow v s = (.ok l.id, s') ∧
            s'.disk = s₁.disk ∧ s'.folder = s₁.folder)) ∨
      ¬ isValidId l.id = true ∧ ∃ f, saveWorkflow v s = (.error f, s) := by
  intro l write
  have run : saveWorkflow v s = (do
      if isValidId l.id then
        write
        if v.id.isEmpty then modify fun s => { s with workflowIds := s.workflowIds + 1 }
        return l.id
      else throw (.invalidDefinition s!"workflow id '{l.id}' cannot be used as a file name") :
      Action FileStore String) s := rfl
  rw [run]
  clear_value write
  by_cases valid : isValidId l.id = true
  · refine .inl ⟨valid, ?_⟩
    rw [if_pos valid, bind_apply]
    obtain ⟨f | u, s₁⟩ := write s
    · exact .inl ⟨f, s₁, rfl, rfl⟩
    · refine .inr ?_
      cases v.id.isEmpty <;> exact ⟨_, _, rfl, rfl, rfl, rfl⟩
  · refine .inr ⟨valid, ?_⟩
    rw [if_neg valid]
    exact ⟨_, rfl⟩

theorem modifyBeside_outcome (id : String) (update : Action (Document × ω) β)
    (committed : Document → β → ω → ω) (s : FileStore) (w : ω) :
    keeping.Outcome id update.onSecond (fun d b => .beside (committed d b)) s w
      (modifyBeside id update committed (s, w)) :=
  Store.Keeping.modifyWith_outcome (keeping.notReentrant_onSecond id update)
    (fun _ _ => keeping.notReentrant_beside id _) s w

theorem mem_updated {update : Action (Document × ω) β} (committed : Document → β → ω → ω)
    {d d' : Document} {b : β} {w' : ω} (found : (getDocument id s).1 = .ok (some d))
    (ran : update (d, w) = (.ok b, d', w')) :
    ⟨"documents", d'.id⟩ ∈ (Call.modifyDocument id update committed).concerns s w := by
  simp [Call.concerns, Call.updated, found, ran]

theorem writeDocument_valid {d : Document} {out : Except Failure Unit × FileStore}
    (wrote : writeDocument d s = out) (valid : isValidId d.id = true) :
    writeRecord (recordPath s.folder "documents" d.id) d.toJson s = out :=
  (writeDocument_apply valid s).symm.trans wrote

namespace Course

variable {s₁ : FileStore} {w' : ω} {d : Document}

/-- A call that gives what it has read has only looked. -/
theorem of_read (a : Except Failure α) (reply : α → Reply β) (looked : Looked s s')
    (nothing : ∀ x, c.written? (reply x) = none) : Course c s w (a.map reply, s', w') := by
  refine .looked looked ?_
  cases a with
  | error f => rfl
  | ok x => simp [Except.map, Shelf.after, nothing]

/-- A call that ends when a document cannot be written has tried this, unless the id is not valid:
then it has only looked. -/
theorem of_unwritten {f : Failure} (about : ⟨"documents", d.id⟩ ∈ c.concerns s w)
    (before : Looked s s₁) (tried : writeDocument d s₁ = (.error f, s')) :
    Course c s w (.error f, s', w') := by
  by_cases valid : isValidId d.id = true
  · exact .failed about documents_mem_kinds valid before (writeDocument_valid tried valid)
  · rw [writeDocument_invalid valid] at tried
    cases tried
    exact .looked before rfl

theorem of_written {r : Reply β} (about : ⟨"documents", d.id⟩ ∈ c.concerns s w)
    (before : Looked s s₁) (wrote : writeDocument d s₁ = (.ok (), s'))
    (placed : c.written? r = some (⟨"documents", d.id⟩, textOf d)) :
    Course c s w (.ok r, s', w') :=
  .wrote about documents_mem_kinds (writeDocument_ok wrote).1 before
    (writeDocument_valid wrote (writeDocument_ok wrote).1) rfl rfl placed

end Course

theorem updateDocument_course (d : Document) (s : FileStore) (w : ω) :
    Course (.updateDocument d : Call ω β) s w (perform (.updateDocument d) (s, w)) := by
  rw [perform_updateDocument, updateDocument, bind_apply]
  rcases looked : getDocument d.id s with ⟨_ | _ | old, s₁⟩ <;>
    have before := looked_of_getDocument looked
  · exact .looked before rfl
  · exact .looked before rfl
  · dsimp only
    rcases wrote : writeDocument d s₁ with ⟨_ | u, s₂⟩
    · exact .of_unwritten List.mem_cons_self before wrote
    · exact .of_written List.mem_cons_self before wrote rfl

theorem modifyDocument_course (id : String) (update : Action (Document × ω) β)
    (committed : Document → β → ω → ω) (s : FileStore) (w : ω) :
    Course (.modifyDocument id update committed) s w
      (perform (.modifyDocument id update committed) (s, w)) := by
  have outcome := modifyBeside_outcome id update committed s w
  rw [perform_modifyDocument]
  generalize modifyBeside id update committed (s, w) = out at outcome
  cases outcome with
  | unread looked there same => exact .looked (looked_of_getDocument looked) rfl
  | unknown looked same => exact .looked (looked_of_getDocument looked) rfl
  | refused looked same held ran kept =>
    obtain ⟨-, rfl⟩ := onSecond_eq ran
    exact .looked (looked_of_getDocument looked) rfl
  | unwritten looked same held ran kept tried =>
    obtain ⟨gave, rfl⟩ := onSecond_eq ran
    exact .of_unwritten (mem_updated committed (congrArg Prod.fst looked) gave)
      (looked_of_getDocument looked) tried
  | stored looked same held ran wrote placed told =>
    obtain ⟨gave, rfl⟩ := onSecond_eq ran
    cases told
    exact .of_written (mem_updated committed (congrArg Prod.fst looked) gave)
      (looked_of_getDocument looked) wrote rfl

/-- What a call does to a store, by one case for each kind of call. -/
theorem perform_course (c : Call ω β) (s : FileStore) (w : ω) :
    Course c s w (perform c (s, w)) := by
  cases c with
  | saveWorkflow v =>
    rw [perform_saveWorkflow]
    rcases saveWorkflow_cases v s with
      ⟨valid, ⟨f, s', tried, run⟩ | ⟨s₁, s', wrote, run, disk, folder⟩⟩ | ⟨-, f, run⟩
    · rw [run]
      exact .failed List.mem_cons_self workflows_mem_kinds valid (.refl s) tried
    · rw [run]
      exact .wrote List.mem_cons_self workflows_mem_kinds valid (.refl s) wrote disk folder rfl
    · rw [run]
      exact .looked (.refl s) rfl
  | getWorkflow id =>
    rw [perform_getWorkflow]
    exact .of_read _ _ (getWorkflow_leaves id s) fun _ => rfl
  | createDocument d committed =>
    rw [perform_createDocument, createThen, bind_apply, onFirst_apply]
    have valid := s.ids.documentId_valid (s.documentIds + 1)
    rcases createDocument_writes d s with ⟨f, s', tried, run⟩ | ⟨s', wrote, run⟩ <;> rw [run]
    · exact .failed List.mem_cons_self documents_mem_kinds valid (.refl s) tried
    · exact .wrote List.mem_cons_self documents_mem_kinds valid (.refl s) wrote rfl rfl rfl
  | getDocument id =>
    rw [perform_getDocument]
    exact .of_read _ _ (getDocument_leaves id s) fun _ => rfl
  | updateDocument d => exact updateDocument_course d s w
  | modifyDocument id update committed => exact modifyDocument_course id update committed s w

/-! ## What calls change -/

/-- The keys of the file of a record and of the file beside it. -/
def recordKeys (s : FileStore) (l : Label) : List String :=
  [s.disk.keyOf (recordPath s.folder l.kind l.id),
    s.disk.keyOf (recordPath s.folder l.kind l.id ++ ".tmp")]

theorem Looked.recordKeys (h : Looked s s') (l : Label) : s'.recordKeys l = s.recordKeys l := by
  obtain ⟨faults, -, rfl⟩ := h
  rfl

/-- Writing a record, whether it succeeds or not, changes its file and the one beside it. -/
theorem writeRecord_outside (l : Label) (j : Json) (s : FileStore) {key : String}
    (other : key ∉ s.recordKeys l) :
    (writeRecord (recordPath s.folder l.kind l.id) j s).2.disk.nodes.get? key =
      s.disk.nodes.get? key := by
  rw [recordKeys, List.mem_cons, List.mem_singleton, not_or] at other
  rw [writeRecord_apply]
  exact (replace_outside (endsIn_beside _) (endsIn_recordPath ..) (by decide) _ s.disk).2 key
    other.2 other.1

theorem Looked.writeRecord_changes {s₁ : FileStore} {l : Label} {j : Json}
    {out : Except Failure Unit × FileStore} (before : Looked s s₁)
    (tried : writeRecord (recordPath s₁.folder l.kind l.id) j s₁ = out) {key : String}
    (changed : out.2.disk.nodes.get? key ≠ s.disk.nodes.get? key) : key ∈ s.recordKeys l := by
  by_contra other
  rw [← before.recordKeys l] at other
  have outside := writeRecord_outside l j s₁ other
  rw [tried] at outside
  obtain ⟨faults, -, rfl⟩ := before
  exact changed outside

/-- A call changes the files of records with valid ids that it is about, and no others. -/
theorem perform_changes (c : Call ω β) (s : FileStore) (w : ω) {key : String}
    (changed : (perform c (s, w)).2.1.disk.nodes.get? key ≠ s.disk.nodes.get? key) :
    ∃ l ∈ c.concerns s w, l.kind ∈ kinds ∧ isValidId l.id = true ∧ key ∈ s.recordKeys l := by
  have course := perform_course c s w
  generalize perform c (s, w) = out at changed course
  cases course with
  | looked looked =>
    obtain ⟨faults, -, rfl⟩ := looked
    exact absurd rfl changed
  | failed about known valid before tried =>
    exact ⟨_, about, known, valid, before.writeRecord_changes tried changed⟩
  | wrote about known valid before wrote disk =>
    exact ⟨_, about, known, valid, before.writeRecord_changes wrote (disk ▸ changed)⟩

/-! ## The shelf -/

theorem shelf_congr (disk : s'.disk = s.disk) (folder : s'.folder = s.folder) :
    s'.shelf = s.shelf :=
  shelf_ext fun kind _ id _ => by rw [text?, text?, disk, folder]

/-- After a call a store has what it had, and what the call has written. -/
theorem perform_shelf (c : Call ω β) (s : FileStore) (w : ω) :
    (perform c (s, w)).2.1.shelf = s.shelf.after c (perform c (s, w)).1 := by
  have course := perform_course c s w
  generalize perform c (s, w) = out at course
  cases course with
  | looked looked nothing => exact (shelf_of_sheltered looked.sheltered).trans nothing.symm
  | failed about known valid before tried =>
    exact (shelf_unwritten tried).trans (shelf_of_sheltered before.sheltered)
  | @wrote r s₁ s₂ s' w' l j about known valid before wrote disk folder placed =>
    have put := shelf_written known valid wrote
    rw [shelf_of_sheltered before.sheltered] at put
    show s'.shelf = s.shelf.after c (.ok r)
    rw [shelf_congr disk folder, put, Shelf.after, placed]

/-- After any calls a store has what those that succeeded have written, in their order. -/
theorem performAll_shelf (cs : List (Call ω β)) (s : FileStore) (w : ω) :
    (performAll cs (s, w)).2.1.shelf = s.shelf.afterAll cs (performAll cs (s, w)).1 := by
  induction cs generalizing s w with
  | nil => rfl
  | cons c rest ih =>
    show (performAll rest (perform c (s, w)).2).2.1.shelf =
      (s.shelf.after c (perform c (s, w)).1).afterAll rest (performAll rest (perform c (s, w)).2).1
    rw [← perform_shelf]
    exact ih ..

theorem clear_congr {l : Label} (disk : s'.disk = s.disk) (folder : s'.folder = s.folder)
    (clear : s.Clear l) : s'.Clear l := by
  unfold Clear HasRoom at clear ⊢
  rwa [disk, folder]

/-- A call leaves room for every record. -/
theorem perform_clear (c : Call ω β) (w : ω) {l : Label} (clear : s.Clear l) :
    (perform c (s, w)).2.1.Clear l := by
  have course := perform_course c s w
  generalize perform c (s, w) = out at course
  have writes {s₁ : FileStore} {l' : Label} {j : Json} {out : Except Failure Unit × FileStore}
      (known : l'.kind ∈ kinds) (valid : isValidId l'.id = true) (before : Looked s s₁)
      (tried : writeRecord (recordPath s₁.folder l'.kind l'.id) j s₁ = out) : out.2.Clear l := by
    have touches := writeRecord_touches (isName_kind _ known) valid j s₁
    rw [tried] at touches
    have clear₁ := before.clear clear
    exact ⟨touches.calm clear₁.1, clear₁.2.touches touches⟩
  cases course with
  | looked looked => exact looked.clear clear
  | failed about known valid before tried => exact writes known valid before tried
  | wrote about known valid before wrote disk folder =>
    exact clear_congr disk folder (writes known valid before wrote)

theorem performAll_clear (cs : List (Call ω β)) (w : ω) {l : Label} (clear : s.Clear l) :
    (performAll cs (s, w)).2.1.Clear l := by
  induction cs generalizing s w with
  | nil => exact clear
  | cons c rest ih => exact ih _ (perform_clear c w clear)

end FileStore

end Signoff
