import Signoff.Proofs.Store.Archive

/-!
# Why stores fail

A store accounts for its failures (`Store.Accounts`) if each failure of its own has a cause: an
error of the storage, in whose words the failure is told, and which says whether trying again may
help. Refusing an actor is not the business of a store.

* `Action.Yields`: what an action gives where something holds. It is `Action.Ensures` for the last
  action that touches the store, after which nothing has to hold.
* `MemoryStore.accounts`, `PlainStore.accounts`: records in tables never fail for such a cause.
* `FileStore.Cause`, `FileStore.accounts`: records in files fail because the disk does not read or
  write, or because what was read is no record.
-/

namespace Signoff

variable {ε σ ω α β : Type}

namespace Action

/-- Where something holds the action gives good results only, and has no failures but fine ones. -/
def Yields (I : σ → Prop) (Good : α → Prop) (Fine : ε → Prop) (a : ExceptT ε (StateM σ) α) :
    Prop :=
  ∀ s, I s → (∀ x, (a s).1 = .ok x → Good x) ∧ ∀ e, (a s).1 = .error e → Fine e

variable {I : σ → Prop} {J : ω → Prop} {Good : α → Prop} {Good' : β → Prop} {Fine : ε → Prop}
  {a : ExceptT ε (StateM σ) α} {f : α → ExceptT ε (StateM σ) β}

theorem Ensures.yields (h : Ensures I Good Fine a) : Yields I Good Fine a :=
  fun s holds => (h s holds).2

theorem yields_pure {x : α} (good : Good x) :
    Yields I Good Fine (pure x : ExceptT ε (StateM σ) α) :=
  (ensures_pure good).yields

theorem Succeeds.yields (h : Succeeds a) : Yields I (fun _ => True) Fine a := by
  refine fun s _ => ⟨fun _ _ => trivial, fun e failed => ?_⟩
  obtain ⟨x, ok⟩ := h s
  rw [ok] at failed
  cases failed

/-- What holds is kept by the first action, and so holds for the second. -/
theorem Ensures.bind_yields (ha : Ensures I Good Fine a)
    (hf : ∀ x, Good x → Yields I Good' Fine (f x)) : Yields I Good' Fine (a >>= f) := by
  intro s holds
  obtain ⟨kept, good, fine⟩ := ha s holds
  rw [bind_apply]
  generalize a s = out at kept good fine ⊢
  obtain ⟨e | x, s'⟩ := out
  · exact ⟨nofun, fun _ eq => Except.error.inj eq ▸ fine e rfl⟩
  · exact hf x (good x rfl) s' kept

/-- After the first action nothing has to hold for the second. -/
theorem Yields.bind (ha : Yields I Good Fine a)
    (hf : ∀ x, Good x → Yields (fun _ => True) Good' Fine (f x)) :
    Yields I Good' Fine (a >>= f) := by
  intro s holds
  obtain ⟨good, fine⟩ := ha s holds
  rw [bind_apply]
  generalize a s = out at good fine ⊢
  obtain ⟨e | x, s'⟩ := out
  · exact ⟨nofun, fun _ eq => Except.error.inj eq ▸ fine e rfl⟩
  · exact hf x (good x rfl) s' trivial

theorem Yields.onFirst {Fine : Failure → Prop} {a : Action σ α} (h : Yields I Good Fine a) :
    Yields (Each I J) Good Fine (a.onFirst : Action (σ × ω) α) :=
  fun x holds => h x.1 holds.1

end Action

open Signoff.Action

/-- The commitment about a document does not fail. -/
theorem createThen_yields {I : σ → Prop} {J : ω → Prop} {Good : String → Prop}
    {Fine : Failure → Prop} {create : Document → Action σ String} {d : Document}
    (h : Yields I Good Fine (create d)) (committed : Document → ω → ω) :
    Yields (Each I J) (fun _ => True) Fine (createThen create d committed) :=
  h.onFirst.bind fun _ _ => Succeeds.yields fun _ => ⟨_, rfl⟩

/-- A failure of a store has a cause in its storage, and does not refuse an actor. -/
def Failure.HasCause (Cause : StorageError → Prop) : Failure → Prop
  | .storage reason retryable => ∃ c, Cause c ∧ c.toFailure = .storage reason retryable
  | .forbidden _ _ _ => False
  | _ => True

theorem StorageError.hasCause {Cause : StorageError → Prop} {c : StorageError} (h : Cause c) :
    c.toFailure.HasCause Cause :=
  ⟨c, h, rfl⟩

theorem Failure.HasCause.mono {Cause Cause' : StorageError → Prop} {f : Failure}
    (h : f.HasCause Cause) (more : ∀ c, Cause c → Cause' c) : f.HasCause Cause' := by
  cases f with
  | storage reason retryable =>
    obtain ⟨c, cause, same⟩ := h
    exact ⟨c, more c cause, same⟩
  | _ => exact h

/-- What the store does after lookups only, which may have led it from a state to another, fails for
a cause that the first state knows. -/
structure Store.Accounts [Store σ] (write : String → Document → Action σ Unit)
    (Reached : σ → σ → Prop) (Cause : σ → StorageError → Prop) : Prop
    extends Store.Joins write where
  start : ∀ s, Reached s s
  getWorkflow : ∀ s id, Ensures (Reached s) (fun _ => True) (Failure.HasCause (Cause s))
    (Store.getWorkflow id)
  getDocument : ∀ s id, Ensures (Reached s) (fun _ => True) (Failure.HasCause (Cause s))
    (Store.getDocument id)
  saveWorkflow : ∀ s w, Yields (Reached s) (fun _ => True) (Failure.HasCause (Cause s))
    (Store.saveWorkflow w)
  createDocument : ∀ s d, Yields (Reached s) (fun _ => True) (Failure.HasCause (Cause s))
    (Store.createDocument d)
  write : ∀ s id d, Yields (Reached s) (fun _ => True) (Failure.HasCause (Cause s)) (write id d)

/-! ## Records in tables -/

/-- Nothing is a cause. -/
def NoCause (_ : σ) (_ : StorageError) : Prop := False

theorem MemoryStore.accounts :
    Store.Accounts writeDocument (fun _ _ => True) NoCause where
  toJoins := joins
  start _ := trivial
  getWorkflow _ _ _ _ := ⟨trivial, fun _ _ => trivial, nofun⟩
  getDocument _ _ _ _ := ⟨trivial, fun _ _ => trivial, nofun⟩
  saveWorkflow _ w := by
    refine Succeeds.yields fun s => ?_
    show ∃ id, (saveWorkflow w s).1 = .ok id
    rw [saveWorkflow, bind_apply, get_apply]
    dsimp only
    split <;> exact ⟨_, rfl⟩
  createDocument _ _ := Succeeds.yields fun _ => ⟨_, rfl⟩
  write _ _ _ := Succeeds.yields fun _ => ⟨_, rfl⟩

theorem PlainStore.accounts :
    Store.Accounts (fun _ => (Store.updateDocument : Document → Action PlainStore Unit))
      (fun _ _ => True) NoCause where
  toJoins := joins
  start _ := trivial
  getWorkflow _ _ _ _ := ⟨trivial, fun _ _ => trivial, nofun⟩
  getDocument _ _ _ _ := ⟨trivial, fun _ _ => trivial, nofun⟩
  saveWorkflow _ _ := Succeeds.yields fun _ => ⟨_, rfl⟩
  createDocument _ _ := Succeeds.yields fun _ => ⟨_, rfl⟩
  write _ _ _ := Succeeds.yields fun _ => ⟨_, rfl⟩

/-! ## Records in files -/

namespace FileStore

/-- What keeps a store from its records, on its disk with the faults that are left of those that
were scheduled. -/
inductive Cause (s : FileStore) : StorageError → Prop where
  /-- The disk does not read a file. -/
  | unread {kind id : String} {faults : List (Option Disk.Error)} {e : Disk.Error}
      (left_ : faults <:+ s.disk.faults) (stands : e ≠ .notFound)
      (failed : (Disk.read (recordPath s.folder kind id) { s.disk with faults }).1 = .error e) :
      Cause s (.disk e)
  /-- The disk does not write a file. -/
  | unwritten {kind id : String} {text : Bytes} {faults : List (Option Disk.Error)} {e : Disk.Error}
      (left_ : faults <:+ s.disk.faults)
      (failed : (Disk.replace (recordPath s.folder kind id ++ ".tmp") (recordPath s.folder kind id)
        text { s.disk with faults }).1 = .error e) :
      Cause s (.disk e)
  /-- The disk reads a file that holds no record of its kind. -/
  | unreadable {kind id : String} {text : Bytes} {faults : List (Option Disk.Error)}
      {e : Json.Error} (left_ : faults <:+ s.disk.faults)
      (read : (Disk.read (recordPath s.folder kind id) { s.disk with faults }).1 = .ok text)
      (refused : kind = "workflows" ∧ Workflow.schema.ofText (.ofBytes text) = .error e ∨
        kind = "documents" ∧ Document.schema.ofText (.ofBytes text) = .error e) :
      Cause s (.corruption s!"{recordPath s.folder kind id}: {e.message}")

/-- The second store is the first after some of the faults that were scheduled there. -/
def Reached (s s' : FileStore) : Prop :=
  ∃ faults, faults <:+ s.disk.faults ∧ s' = { s with disk := { s.disk with faults } }

variable {s s' : FileStore}

theorem Reached.refl (s : FileStore) : Reached s s := ⟨_, List.suffix_rfl, rfl⟩

theorem Reached.trans {s'' : FileStore} (h : Reached s s') (h' : Reached s' s'') :
    Reached s s'' := by
  obtain ⟨faults, left_, rfl⟩ := h
  obtain ⟨faults', left', rfl⟩ := h'
  exact ⟨faults', left'.trans left_, rfl⟩

/-- Whatever keeps the second store from its records keeps the first. -/
theorem Reached.cause (h : Reached s s') {c : StorageError} (cause : Cause s' c) : Cause s c := by
  obtain ⟨faults, left_, rfl⟩ := h
  cases cause with
  | unread left' stands failed => exact .unread (left'.trans left_) stands failed
  | unwritten left' failed => exact .unwritten (left'.trans left_) failed
  | unreadable left' read refused => exact .unreadable (left'.trans left_) read refused

theorem readRecord_hasCause {α : Type} {schema : Json.Schema α} {kind id : String}
    (known : ∀ text e, schema.ofText (.ofBytes text) = .error e →
      kind = "workflows" ∧ Workflow.schema.ofText (.ofBytes text) = .error e ∨
        kind = "documents" ∧ Document.schema.ofText (.ofBytes text) = .error e) {f : Failure}
    (h : (readRecord schema (recordPath s.folder kind id) s).1 = .error f) :
    f.HasCause s.Cause := by
  unfold readRecord at h
  split at h
  · cases h
  · rename_i stands read
    cases h
    exact StorageError.hasCause (.unread List.suffix_rfl stands (congrArg Prod.fst read))
  · rename_i text _ read
    split at h
    · cases h
    · rename_i refused
      cases h
      exact StorageError.hasCause
        (.unreadable List.suffix_rfl (congrArg Prod.fst read) (known text _ refused))

/-- A lookup reads a file at most. -/
theorem lookup_ensures {α : Type} {look : Action FileStore (Option α)}
    (leaves : ∀ s, Reached s (look s).2)
    (fails : ∀ s f, (look s).1 = .error f → f.HasCause s.Cause) (s : FileStore) :
    Ensures (Reached s) (fun _ => True) (Failure.HasCause s.Cause) look := fun s' reached =>
  ⟨reached.trans (leaves s'), fun _ _ => trivial, fun f failed =>
    (fails s' f failed).mono fun _ => reached.cause⟩

theorem getWorkflow_hasCause {id : String} {f : Failure} (h : (getWorkflow id s).1 = .error f) :
    f.HasCause s.Cause := by
  by_cases valid : isValidId id = true
  · rw [getWorkflow_apply valid] at h
    exact readRecord_hasCause (fun _ _ refused => .inl ⟨rfl, refused⟩) h
  · rw [getWorkflow, if_neg valid] at h
    cases h

theorem getDocument_hasCause {id : String} {f : Failure} (h : (getDocument id s).1 = .error f) :
    f.HasCause s.Cause := by
  by_cases valid : isValidId id = true
  · rw [getDocument_apply valid] at h
    exact readRecord_hasCause (fun _ _ refused => .inr ⟨rfl, refused⟩) h
  · rw [getDocument, if_neg valid] at h
    cases h

/-- Writing a record of a store that was reached fails for a cause that the first store knows. -/
theorem writeRecord_yields {folder : String} (reached : Reached s s') (same : folder = s'.folder)
    (kind id : String) (j : Json) :
    Yields (· = s') (fun _ => True) (Failure.HasCause s.Cause)
      (writeRecord (recordPath folder kind id) j) := by
  subst same
  rintro s' rfl
  refine ⟨fun _ _ => trivial, fun f failed => ?_⟩
  rw [writeRecord_apply] at failed
  obtain ⟨e, refused, rfl⟩ := mapError_eq_error.1 failed
  exact StorageError.hasCause (reached.cause (.unwritten List.suffix_rfl refused))

theorem writeDocument_yields (s : FileStore) (d : Document) :
    Yields (Reached s) (fun _ => True) (Failure.HasCause s.Cause) (writeDocument d) := by
  intro s' reached
  by_cases valid : isValidId d.id = true
  · rw [writeDocument_apply valid]
    exact writeRecord_yields reached rfl _ _ _ s' rfl
  · rw [writeDocument, if_neg valid]
    exact ⟨nofun, fun _ eq => Except.error.inj eq ▸ trivial⟩

theorem createDocument_yields (s : FileStore) (d : Document) :
    Yields (Reached s) (fun _ => True) (Failure.HasCause s.Cause) (createDocument d) := by
  intro s' reached
  rw [createDocument, bind_apply, get_apply]
  let id := s'.ids.documentId (s'.documentIds + 1)
  have made : Yields (Reached s) (fun _ => True) (Failure.HasCause s.Cause) (do
      writeDocument { d with id }
      modify fun s => { s with documentIds := s.documentIds + 1 }
      return id) :=
    (writeDocument_yields s _).bind fun _ _ => Succeeds.yields fun _ => ⟨_, rfl⟩
  exact made s' reached

theorem saveWorkflow_yields (s : FileStore) (w : Workflow) :
    Yields (Reached s) (fun _ => True) (Failure.HasCause s.Cause) (saveWorkflow w) := by
  intro s' reached
  rw [saveWorkflow, bind_apply, get_apply]
  dsimp only
  generalize (if w.id.isEmpty then s'.ids.workflowId (s'.workflowIds + 1) else w.id) = id
  split
  · have saved : Yields (· = s') (fun _ => True) (Failure.HasCause s.Cause) (do
        writeRecord (workflowPath s'.folder id) (Workflow.toJson { w with id })
        if w.id.isEmpty then modify fun s => { s with workflowIds := s.workflowIds + 1 }
        return id) := by
      refine (writeRecord_yields reached rfl "workflows" id _).bind fun _ _ => ?_
      exact Succeeds.yields fun _ => by split <;> exact ⟨_, rfl⟩
    exact saved s' rfl
  · exact (ensures_throw trivial).yields s' reached

theorem accounts : Store.Accounts (fun _ => writeDocument) Reached Cause where
  toJoins := joins
  start := .refl
  getWorkflow s id := lookup_ensures (getWorkflow_leaves id) (fun _ _ => getWorkflow_hasCause) s
  getDocument s id := lookup_ensures (getDocument_leaves id) (fun _ _ => getDocument_hasCause) s
  saveWorkflow := saveWorkflow_yields
  createDocument := createDocument_yields
  write s _ := writeDocument_yields s

end FileStore

end Signoff
