import Signoff.Proofs.Disk.Footprint
import Signoff.Proofs.Store.Calls

/-!
# What calls of a file store look at

The paths of a record lead through the folders on the way to it and to its two files
(`FileStore.reach`). A call gives and leaves the same on two stores that hand out the same ids and
agree on what is under the keys of the records that it is about (`perform_looks`).
-/

namespace Signoff

open Signoff.Action

variable {ω α β : Type}

namespace FileStore

open Signoff.Disk

variable {s s' : FileStore} {id : String}

/-! ## The way to a record -/

theorem passed_join {name : String} (hn : IsName name) (above : List String) (path : String) :
    passed above (splitText '/' (join path name)) = passed above (splitText '/' path) ++
      [pathOf (name :: namesAlong above (splitText '/' path)).reverse] := by
  have last (above : List String) : passed above [name] = [pathOf (name :: above).reverse] := by
    rw [passed, if_neg hn.noStay, if_neg hn.noUp, passed]
  unfold join
  split
  · rename_i h
    rw [Bool.or_eq_true] at h
    rcases h with h | h
    · rw [String.isEmpty_iff.1 h, String.empty_append, hn.split, last]
      rfl
    · obtain ⟨front, rfl⟩ := endsWith_slash h
      have bare := splitText_append front ""
      rw [String.append_empty] at bare
      rw [splitText_append, bare, hn.split, passed_append, passed_append, namesAlong_append, last]
      exact (congrArg (· ++ _) (List.append_nil _)).symm
  · rw [splitText_append, hn.split, passed_append, last]

/-- A joined path leads through what the path before it leads through, and to its key. -/
theorem passes_join {name : String} (hn : IsName name) (d : Disk) (path : String) :
    d.passes (join path name) = d.passes path ++ [d.keyOf (join path name)] := by
  rw [passes, passes, start_join hn, passed_join hn, keyOf, names, start_join hn,
    namesAlong_join hn]

/-- The keys of the folders on the way to a record, and those of its files. -/
def reach (s : FileStore) (l : Label) : List String :=
  s.disk.passes (join s.folder l.kind) ++ s.recordKeys l

/-- The keys of all that some records take that have valid ids. -/
def reaches (s : FileStore) (ls : List Label) : List String :=
  (ls.filter fun l => isValidId l.id).flatMap s.reach

theorem reach_subset {l : Label} {ls : List Label} (mem : l ∈ ls) (valid : isValidId l.id = true) :
    s.reach l ⊆ s.reaches ls := fun _ listed =>
  List.mem_flatMap.2 ⟨l, List.mem_filter.2 ⟨mem, valid⟩, listed⟩

/-- The paths of a record lead through what it takes. -/
theorem passes_record {l : Label} {keys : List String} (valid : isValidId l.id = true)
    (known : s.reach l ⊆ keys) :
    s.disk.passes (recordPath s.folder l.kind l.id) ⊆ keys ∧
      s.disk.passes (recordPath s.folder l.kind l.id ++ ".tmp") ⊆ keys := by
  have beside := recordPath_beside s.folder l.kind l.id
  unfold reach recordKeys at known
  rw [beside] at known ⊢
  rw [recordPath] at known ⊢
  rw [passes_join (isName_file valid).1, passes_join (isName_file valid).2]
  rw [List.append_subset, List.cons_subset, List.cons_subset] at known
  obtain ⟨way, record, tmp, -⟩ := known
  exact ⟨List.append_subset.2 ⟨way, by simpa using record⟩,
    List.append_subset.2 ⟨way, by simpa using tmp⟩⟩

/-- The stores have the folder of a third one, hand out the same ids, and agree on what is under
some keys. -/
structure SameOn (base : FileStore) (keys : List String) (s s' : FileStore) : Prop where
  folder : s.folder = base.folder
  folder' : s'.folder = base.folder
  workflowIds : s.workflowIds = s'.workflowIds
  documentIds : s.documentIds = s'.documentIds
  ids : s.ids = s'.ids
  disk : AgreeOn base.disk keys s.disk s'.disk

variable {base : FileStore} {keys : List String}

/-- The action looks at nothing but what is under the keys. -/
def LooksAt (base : FileStore) (keys : List String) (a : Action FileStore α) : Prop :=
  Agree (SameOn base keys) (SameOn base keys) (fun _ => True) a a

theorem LooksAt.bind {a : Action FileStore α} {next : α → Action FileStore β}
    (h : LooksAt base keys a) (goes : ∀ x, LooksAt base keys (next x)) :
    LooksAt base keys (a >>= next) :=
  Agree.bind h id fun x _ => goes x

theorem looksAt_pure (x : α) : LooksAt base keys (pure x : Action FileStore α) :=
  agree_pure trivial

theorem looksAt_throw (f : Failure) : LooksAt base keys (throw f : Action FileStore α) :=
  agree_throw f

theorem looksAt_onDisk {io : Io α} (h : Looks base.disk keys io) :
    LooksAt base keys (onDisk io) := by
  intro s s' same
  obtain ⟨result, disk, -⟩ := h same.disk
  rw [onDisk_apply, onDisk_apply, result]
  exact ⟨rfl, { same with disk }, fun _ _ => trivial⟩

theorem looksAt_readRecord (schema : Json.Schema α) {path : String}
    (known : base.disk.passes path ⊆ keys) : LooksAt base keys (readRecord schema path) := by
  intro s s' same
  obtain ⟨result, disk, -⟩ := looks_read known same.disk
  unfold readRecord
  generalize read path s.disk = out at result disk
  generalize read path s'.disk = out' at result disk
  obtain ⟨r, d⟩ := out
  obtain ⟨r', d'⟩ := out'
  obtain rfl : r = r' := result
  have left_ : SameOn base keys { s with disk := d } { s' with disk := d' } := { same with disk }
  rcases r with e | content
  · cases e <;> exact ⟨rfl, left_, fun _ _ => trivial⟩
  · dsimp only
    cases schema.ofText (.ofBytes content) <;> exact ⟨rfl, left_, fun _ _ => trivial⟩

theorem looksAt_getDocument (known : isValidId id = true → base.reach ⟨"documents", id⟩ ⊆ keys) :
    LooksAt base keys (getDocument id) := by
  intro s s' same
  by_cases valid : isValidId id = true
  · rw [getDocument_apply valid, getDocument_apply valid, same.folder, same.folder']
    exact looksAt_readRecord _ (passes_record (l := ⟨_, id⟩) valid (known valid)).1 same
  · unfold getDocument
    rw [if_neg valid]
    exact ⟨rfl, same, fun _ _ => trivial⟩

theorem looksAt_getWorkflow (known : isValidId id = true → base.reach ⟨"workflows", id⟩ ⊆ keys) :
    LooksAt base keys (getWorkflow id) := by
  intro s s' same
  by_cases valid : isValidId id = true
  · rw [getWorkflow_apply valid, getWorkflow_apply valid, same.folder, same.folder']
    exact looksAt_readRecord _ (passes_record (l := ⟨_, id⟩) valid (known valid)).1 same
  · unfold getWorkflow
    rw [if_neg valid]
    exact ⟨rfl, same, fun _ _ => trivial⟩

theorem looksAt_writeRecord {l : Label} (valid : isValidId l.id = true)
    (known : base.reach l ⊆ keys) (j : Json) :
    LooksAt base keys (writeRecord (recordPath base.folder l.kind l.id) j) :=
  have ⟨record, beside⟩ := passes_record valid known
  looksAt_onDisk (looks_replace beside record _)

theorem looksAt_writeDocument {d : Document}
    (known : isValidId d.id = true → base.reach ⟨"documents", d.id⟩ ⊆ keys) :
    LooksAt base keys (writeDocument d) := by
  intro s s' same
  by_cases valid : isValidId d.id = true
  · rw [writeDocument_apply valid, writeDocument_apply valid, same.folder, same.folder']
    exact looksAt_writeRecord (l := ⟨_, d.id⟩) valid (known valid) d.toJson same
  · rw [writeDocument_invalid valid, writeDocument_invalid valid]
    exact ⟨rfl, same, fun _ _ => trivial⟩

theorem looksAt_updateDocument {d : Document}
    (known : isValidId d.id = true → base.reach ⟨"documents", d.id⟩ ⊆ keys) :
    LooksAt base keys (updateDocument d) := by
  unfold updateDocument
  refine (looksAt_getDocument known).bind fun found => ?_
  cases found with
  | none => exact looksAt_throw _
  | some old => exact looksAt_writeDocument known

theorem looksAt_modify {g : FileStore → FileStore}
    (h : ∀ {s s'}, SameOn base keys s s' → SameOn base keys (g s) (g s')) :
    LooksAt base keys (modify g : Action FileStore PUnit) :=
  fun _ _ same => ⟨rfl, h same, fun _ _ => trivial⟩

/-- What saving a workflow does depends on the next id too, which is the same. -/
theorem saveWorkflow_looks (v : Workflow) (same : SameOn base keys s s')
    (known : isValidId ((Call.saveWorkflow v : Call ω β).asked s).id = true →
      base.reach ((Call.saveWorkflow v : Call ω β).asked s) ⊆ keys) :
    (saveWorkflow v s).1 = (saveWorkflow v s').1 ∧
      SameOn base keys (saveWorkflow v s).2 (saveWorkflow v s').2 := by
  have run (s : FileStore) : saveWorkflow v s = (do
      let id := if v.id.isEmpty then s.ids.workflowId (s.workflowIds + 1) else v.id
      if isValidId id then
        writeRecord (workflowPath s.folder id) (Workflow.toJson { v with id })
        if v.id.isEmpty then modify fun s => { s with workflowIds := s.workflowIds + 1 }
        return id
      else throw (.invalidDefinition s!"workflow id '{id}' cannot be used as a file name") :
      Action FileStore String) s := rfl
  rw [run s, run s', ← same.workflowIds, ← same.ids, same.folder, same.folder']
  simp only [Call.asked] at known
  dsimp only
  generalize (if v.id.isEmpty = true then s.ids.workflowId (s.workflowIds + 1) else v.id) = name
    at known ⊢
  by_cases valid : isValidId name = true
  · rw [if_pos valid]
    have writes := looksAt_writeRecord (l := ⟨"workflows", name⟩) valid (known valid)
      (Workflow.toJson { v with id := name })
    have counts : LooksAt base keys
        (modify fun s => { s with workflowIds := s.workflowIds + 1 } : Action FileStore PUnit) :=
      looksAt_modify fun same => { same with workflowIds := congrArg (· + 1) same.workflowIds }
    cases v.id.isEmpty with
    | false =>
      obtain ⟨result, left_, -⟩ := writes.bind (fun _ => looksAt_pure name) same
      exact ⟨result, left_⟩
    | true =>
      obtain ⟨result, left_, -⟩ :=
        writes.bind (fun _ => counts.bind fun _ => looksAt_pure name) same
      exact ⟨result, left_⟩
  · rw [if_neg valid]
    exact ⟨rfl, same⟩

/-- What creating a document does depends on the next id too, which is the same. -/
theorem createDocument_looks (d : Document) (same : SameOn base keys s s')
    (known : base.reach ⟨"documents", s.ids.documentId (s.documentIds + 1)⟩ ⊆ keys) :
    (createDocument d s).1 = (createDocument d s').1 ∧
      SameOn base keys (createDocument d s).2 (createDocument d s').2 := by
  have counts : LooksAt base keys
      (modify fun s => { s with documentIds := s.documentIds + 1 } : Action FileStore PUnit) :=
    looksAt_modify fun same => { same with documentIds := congrArg (· + 1) same.documentIds }
  rw [createDocument, bind_apply, bind_apply, get_apply, get_apply]
  dsimp only
  rw [← same.documentIds, ← same.ids]
  generalize s.ids.documentId (s.documentIds + 1) = id at known ⊢
  have writes : LooksAt base keys (writeDocument { d with id }) :=
    looksAt_writeDocument fun _ => known
  obtain ⟨result, left_, -⟩ := writes.bind (fun _ => counts.bind fun _ => looksAt_pure id) same
  exact ⟨result, left_⟩

theorem createThen_looks (d : Document) (committed : Document → ω → ω) (w : ω)
    (same : SameOn base keys s s')
    (known : base.reach ⟨"documents", s.ids.documentId (s.documentIds + 1)⟩ ⊆ keys) :
    (createThen createDocument d committed (s, w)).1 =
        (createThen createDocument d committed (s', w)).1 ∧
      Beside (SameOn base keys) (createThen createDocument d committed (s, w)).2
        (createThen createDocument d committed (s', w)).2 := by
  obtain ⟨result, left_⟩ := createDocument_looks d same known
  rw [createThen, bind_apply, bind_apply, onFirst_apply, onFirst_apply]
  generalize createDocument d s = out at result left_
  generalize createDocument d s' = out' at result left_
  obtain ⟨r, t⟩ := out
  obtain ⟨r', t'⟩ := out'
  obtain rfl : r = r' := result
  cases r <;> exact ⟨rfl, left_, rfl⟩

/-- What modifying a document does depends on the record that is found, and on that of the updated
document. -/
theorem modifyBeside_looks (id : String) (update : Action (Document × ω) β)
    (committed : Document → β → ω → ω) (w : ω) (same : SameOn base keys s s')
    (known : ∀ l ∈ (Call.modifyDocument id update committed).concerns s w, isValidId l.id = true →
      base.reach l ⊆ keys) :
    (modifyBeside id update committed (s, w)).1 = (modifyBeside id update committed (s', w)).1 ∧
      Beside (SameOn base keys) (modifyBeside id update committed (s, w)).2
        (modifyBeside id update committed (s', w)).2 := by
  obtain ⟨result, left_, -⟩ := looksAt_getDocument (known ⟨"documents", id⟩ List.mem_cons_self) same
  have about {d d' : Document} {b : β} {w' : ω} (found : (getDocument id s).1 = .ok (some d))
      (ran : update (d, w) = (.ok b, d', w')) := known _ (mem_updated committed found ran)
  rw [modifyBeside, modifyWith, bind_apply, bind_apply, onFirst_apply, onFirst_apply]
  generalize getDocument id s = out at result left_ about
  generalize getDocument id s' = out' at result left_
  obtain ⟨r, t⟩ := out
  obtain ⟨r', t'⟩ := out'
  obtain rfl : r = r' := result
  rcases r with _ | _ | d
  · exact ⟨rfl, left_, rfl⟩
  · exact ⟨rfl, left_, rfl⟩
  dsimp only
  rw [bind_apply, bind_apply, Update.onCopy_apply, Update.onCopy_apply, onSecond_apply,
    onSecond_apply]
  have about {d' : Document} {b : β} {w' : ω} (ran : update (d, w) = (.ok b, d', w')) :=
    about rfl ran
  generalize update (d, w) = out at about ⊢
  obtain ⟨_ | b, d', w'⟩ := out
  · exact ⟨rfl, left_, rfl⟩
  obtain ⟨wrote, left_, -⟩ := looksAt_writeDocument (about rfl) left_
  simp only [Except.map]
  rw [bind_apply, bind_apply, onFirst_apply, onFirst_apply]
  generalize writeDocument d' t = out at wrote left_
  generalize writeDocument d' t' = out' at wrote left_
  obtain ⟨r, s₁⟩ := out
  obtain ⟨r', s₁'⟩ := out'
  obtain rfl : r = r' := wrote
  cases r <;> exact ⟨rfl, left_, rfl⟩

/-- What a call gives and leaves depends on nothing but what the records take that it is about. -/
theorem perform_looks (c : Call ω β) {s s' : FileStore} (w : ω)
    (same : SameOn s (s.reaches (c.concerns s w)) s s') :
    (perform c (s, w)).1 = (perform c (s', w)).1 ∧
      Beside (SameOn s (s.reaches (c.concerns s w))) (perform c (s, w)).2
        (perform c (s', w)).2 := by
  have known (l : Label) (mem : l ∈ c.concerns s w) (valid : isValidId l.id = true) :
      s.reach l ⊆ s.reaches (c.concerns s w) := reach_subset mem valid
  generalize s.reaches (c.concerns s w) = keys at same known ⊢
  have asked := known _ List.mem_cons_self
  cases c with
  | saveWorkflow v =>
    obtain ⟨result, left_⟩ := saveWorkflow_looks v same asked
    rw [perform_saveWorkflow, perform_saveWorkflow]
    exact ⟨congrArg (Except.map _) result, left_, rfl⟩
  | getWorkflow id =>
    have looks : LooksAt s keys (getWorkflow id) := looksAt_getWorkflow asked
    obtain ⟨result, left_, -⟩ := looks same
    rw [perform_getWorkflow, perform_getWorkflow]
    exact ⟨congrArg (Except.map _) result, left_, rfl⟩
  | createDocument d committed =>
    obtain ⟨result, left_⟩ :=
      createThen_looks d committed w same (asked (s.ids.documentId_valid _))
    rw [perform_createDocument, perform_createDocument, result]
    dsimp only
    exact ⟨rfl, left_⟩
  | getDocument id =>
    have looks : LooksAt s keys (getDocument id) := looksAt_getDocument asked
    obtain ⟨result, left_, -⟩ := looks same
    rw [perform_getDocument, perform_getDocument]
    exact ⟨congrArg (Except.map _) result, left_, rfl⟩
  | updateDocument d =>
    have looks : LooksAt s keys (updateDocument d) := looksAt_updateDocument asked
    obtain ⟨result, left_, -⟩ := looks same
    rw [perform_updateDocument, perform_updateDocument]
    exact ⟨congrArg (Except.map _) result, left_, rfl⟩
  | modifyDocument id update committed =>
    obtain ⟨result, left_⟩ := modifyBeside_looks id update committed w same known
    rw [perform_modifyDocument, perform_modifyDocument, result]
    dsimp only
    exact ⟨rfl, left_⟩

end FileStore

end Signoff
