import Signoff.Proofs.Action
import Signoff.Store.Files
import Signoff.Store.Memory
import Signoff.Store.Plain

/-!
# How stores join commitments

Every store here modifies documents in the general way (`Store.ModifiesWith`): it reads a document,
updates a copy, writes that by an operation of its own, and then carries out the commitment. It
creates documents by its plain operation, with the commitment after that.

For updates that give the document and for commitments that leave the store alone the general way is
`createThen` and `modifyThen` (`Store.Joins`). `Store.Plain` are the stores that write a modified
document by updating. What stands behind a document that was created or modified say `createThen_ok`
and `modifyThen_ok`, and `createThen_of_ok` and `modifyThen_of_ok` are the other way.
-/

namespace Signoff

variable {σ ω β : Type}

open Signoff.Action

/-! ## Updates and commitments -/

theorem Update.onCopy_apply (update : Update σ ω β) (d : Document) (s : σ) (w : ω) :
    update.onCopy d (s, w) =
      ((update (s, d, w)).1.map ((update (s, d, w)).2.2.1, ·), (update (s, d, w)).2.1,
        (update (s, d, w)).2.2.2) := rfl

theorem Update.onCopy_drafting (update : Document → Action (σ × ω) (Document × β)) (d : Document) :
    (drafting update).onCopy d = update d := by
  funext ⟨s, w⟩
  rw [onCopy_apply, drafting]
  rcases update d (s, w) with ⟨_ | ⟨draft, b⟩, s', w'⟩ <;> rfl

/-- The update leaves the id of a document if it succeeds. -/
def Update.KeepsId (update : Update σ ω β) : Prop :=
  ∀ x b, (update x).1 = .ok b → (update x).2.2.1.id = x.2.1.id

/-- A document that was modified was looked up, and is what the update has made of it. -/
theorem modifyWith_ok {getDocument : String → Action σ (Option Document)}
    {updateDocument : Document → Action σ Unit} {id : String} {update : Update σ ω β}
    {committed : Document → β → Commitment σ ω} {s : σ} {w : ω} {d : Document} {b : β}
    (h : (modifyWith getDocument updateDocument id update committed (s, w)).1 = .ok (d, b)) :
    ∃ old s₁ s₂ w₂, getDocument id s = (.ok (some old), s₁) ∧
      update (s₁, old, w) = (.ok b, s₂, d, w₂) := by
  rw [modifyWith, bind_apply, onFirst_apply] at h
  rcases looked : getDocument id s with ⟨_ | _ | old, s₁⟩ <;> rw [looked] at h
  · cases h
  · cases h
  dsimp only at h
  rw [bind_apply, Update.onCopy_apply] at h
  rcases ran : update (s₁, old, w) with ⟨_ | b', s₂, draft, w₂⟩ <;> rw [ran] at h
  · cases h
  simp only [Except.map] at h
  rw [bind_apply, onFirst_apply] at h
  rcases wrote : updateDocument draft s₂ with ⟨_ | u, s₃⟩ <;> rw [wrote] at h <;> cases h
  exact ⟨old, s₁, s₂, w₂, rfl, ran⟩

/-! ## The general way for updates that give the document -/

/-- Creates a document, and then changes a state about it under its new id. -/
def createThen (createDocument : Document → Action σ String) (d : Document)
    (committed : Document → ω → ω) : Action (σ × ω) String := do
  let id ← (createDocument d).onFirst
  Action.changeSecond (committed { d with id })
  return id

/-- Reads a document, updates it, writes it back, and then changes a state about it. -/
def modifyThen (getDocument : String → Action σ (Option Document))
    (updateDocument : Document → Action σ Unit) (id : String)
    (update : Document → Action (σ × ω) (Document × β)) (committed : Document → β → ω → ω) :
    Action (σ × ω) (Document × β) := do
  match ← (getDocument id).onFirst with
  | none => throw (.documentNotFound id)
  | some d =>
    let (d, b) ← update d
    (updateDocument d).onFirst
    Action.changeSecond (committed d b)
    return (d, b)

theorem modifyWith_drafting (getDocument : String → Action σ (Option Document))
    (updateDocument : Document → Action σ Unit) (id : String)
    (update : Document → Action (σ × ω) (Document × β)) (committed : Document → β → ω → ω) :
    modifyWith getDocument updateDocument id (.drafting update)
        (fun d b => .beside (committed d b)) =
      modifyThen getDocument updateDocument id update committed := by
  simp only [modifyWith, modifyThen, Update.onCopy_drafting]
  rfl

/-- A document that was created was created by the plain operation. -/
theorem createThen_ok {createDocument : Document → Action σ String} {d : Document}
    {committed : Document → ω → ω} {s s' : σ} {w w' : ω} {id : String}
    (h : createThen createDocument d committed (s, w) = (.ok id, s', w')) :
    createDocument d s = (.ok id, s') := by
  unfold createThen at h
  obtain ⟨id', ⟨s₁, w₁⟩, created, h⟩ := bind_apply_ok h
  obtain ⟨u, x, told, h⟩ := bind_apply_ok h
  cases told
  cases h
  exact (onFirst_ok created).1

theorem createThen_of_ok {createDocument : Document → Action σ String} {d : Document} {s s' : σ}
    {id : String} (h : createDocument d s = (.ok id, s')) (committed : Document → ω → ω) (w : ω) :
    createThen createDocument d committed (s, w) = (.ok id, s', committed { d with id } w) := by
  rw [createThen, bind_apply, onFirst_apply, h]
  rfl

/-- A document that was modified was looked up, updated and put back. -/
theorem modifyThen_ok {getDocument : String → Action σ (Option Document)}
    {updateDocument : Document → Action σ Unit} {id : String}
    {update : Document → Action (σ × ω) (Document × β)} {committed : Document → β → ω → ω}
    {s s' : σ} {w w' : ω} {d : Document} {b : β}
    (h : modifyThen getDocument updateDocument id update committed (s, w) = (.ok (d, b), s', w')) :
    ∃ old s₁ s₂ w₂, getDocument id s = (.ok (some old), s₁) ∧
      update old (s₁, w) = (.ok (d, b), s₂, w₂) ∧ updateDocument d s₂ = (.ok (), s') := by
  unfold modifyThen at h
  obtain ⟨found, ⟨s₁, w₁⟩, looked, h⟩ := bind_apply_ok h
  obtain ⟨got, rfl⟩ := onFirst_ok looked
  cases found with
  | none => cases h
  | some old =>
    obtain ⟨⟨d', b'⟩, ⟨s₂, w₂⟩, updated, h⟩ := bind_apply_ok h
    obtain ⟨u, ⟨s₃, w₃⟩, written, h⟩ := bind_apply_ok h
    obtain ⟨u', x, told, h⟩ := bind_apply_ok h
    cases told
    cases h
    exact ⟨old, s₁, s₂, w₂, got, updated, (onFirst_ok written).1⟩

theorem modifyThen_of_ok {getDocument : String → Action σ (Option Document)}
    {updateDocument : Document → Action σ Unit} {id : String}
    {update : Document → Action (σ × ω) (Document × β)} {s s₁ s₂ s' : σ} {w w' : ω}
    {old d : Document} {b : β} (found : getDocument id s = (.ok (some old), s₁))
    (updated : update old (s₁, w) = (.ok (d, b), s₂, w')) (put : updateDocument d s₂ = (.ok (), s'))
    (committed : Document → β → ω → ω) :
    modifyThen getDocument updateDocument id update committed (s, w) =
      (.ok (d, b), s', committed d b w') := by
  rw [modifyThen, bind_apply, onFirst_apply, found]
  dsimp only
  rw [bind_apply, updated]
  dsimp only
  rw [bind_apply, onFirst_apply, put]
  rfl

/-! ## The stores -/

/-- The store modifies a document by reading it, updating it and writing it under its id. -/
structure Store.ModifiesWith [Store σ] (write : String → Document → Action σ Unit) : Prop where
  modifyDocumentWith : ∀ {ω β : Type} id update (committed : Document → β → Commitment σ ω),
    (Store.modifyDocumentWith id update committed : Action (σ × ω) (Document × β)) =
      modifyWith Store.getDocument (write id) id update committed

/-- The commitment in memory is about the document that has just been written. -/
theorem MemoryStore.commit_apply {s : MemoryStore} {w : ω} {id : String} {d : Document}
    (stored : s.documents.get? id = some d) (committed : Document → Commitment MemoryStore ω) :
    commit id committed (s, w) = (committed d : Action (MemoryStore × ω) Unit) (s, w) := by
  rw [commit, bind_apply, get_apply]
  dsimp only
  rw [stored]

theorem MemoryStore.createDocumentWith_eq (d : Document)
    (committed : Document → Commitment MemoryStore ω) :
    createDocumentWith d committed = createWith createDocument d committed := by
  funext ⟨s, w⟩
  rw [createDocumentWith, createWith, bind_apply, bind_apply]
  have stored : (createDocument d s).2.documents.get? (s.ids.documentId (s.documentIds + 1)) =
      some { d with id := s.ids.documentId (s.documentIds + 1) } := Table.get?_insert_self ..
  have ran : (createDocument d).onFirst (s, w) = (.ok (s.ids.documentId (s.documentIds + 1)),
    (createDocument d s).2, w) := rfl
  rw [ran]
  dsimp only
  rw [bind_apply, bind_apply, commit_apply stored]

theorem MemoryStore.modifiesWith : Store.ModifiesWith MemoryStore.writeDocument where
  modifyDocumentWith {ω β} id update committed := by
    funext ⟨s, w⟩
    show MemoryStore.modifyDocumentWith id update committed (s, w) = _
    have found : (Store.getDocument id : Action MemoryStore _).onFirst (s, w) =
        (.ok (s.documents.get? id), s, w) := rfl
    rw [MemoryStore.modifyDocumentWith, modifyWith, bind_apply, bind_apply, get_apply, found]
    dsimp only
    cases s.documents.get? id with
    | none => rfl
    | some current =>
      dsimp only
      rw [bind_apply, bind_apply]
      rcases update.onCopy current (s, w) with ⟨_ | ⟨draft, b⟩, s', w'⟩
      · rfl
      have written : (writeDocument id draft).onFirst (s', w') =
        (.ok (), { s' with documents := s'.documents.insert id draft }, w') := rfl
      dsimp only
      rw [bind_apply, bind_apply, written]
      dsimp only
      rw [bind_apply, bind_apply, commit_apply (Table.get?_insert_self ..)]

theorem FileStore.modifiesWith : Store.ModifiesWith fun _ => FileStore.writeDocument where
  modifyDocumentWith _ _ _ := rfl

theorem PlainStore.modifiesWith :
    Store.ModifiesWith fun _ => (Store.updateDocument : Document → Action PlainStore Unit) where
  modifyDocumentWith _ _ _ := rfl

/-! ## The stores for updates that give the document -/

namespace Store

/-- The store joins changes of a state to its plain operations in the general way. -/
structure Plain (σ : Type) [Store σ] : Prop where
  createDocumentThen : ∀ {ω : Type} d (committed : Document → ω → ω),
    (Store.createDocumentThen d committed : Action (σ × ω) String) =
      createThen Store.createDocument d committed
  modifyDocumentThen : ∀ {ω β : Type} id update (committed : Document → β → ω → ω),
    (Store.modifyDocumentThen id update committed : Action (σ × ω) (Document × β)) =
      modifyThen Store.getDocument Store.updateDocument id update committed

end Store

/-- The store modifies a document by reading it, updating it and writing it under its id. -/
structure Store.Modifies [Store σ] (write : String → Document → Action σ Unit) : Prop where
  modifyDocumentThen : ∀ {ω β : Type} id update (committed : Document → β → ω → ω) (s : σ × ω),
    Store.modifyDocumentThen id update committed s =
      modifyThen Store.getDocument (write id) id update committed s

theorem Store.ModifiesWith.modifies [Store σ] {write : String → Document → Action σ Unit}
    (h : Store.ModifiesWith write) : Store.Modifies write where
  modifyDocumentThen id update committed s := by
    rw [Store.modifyDocumentThen, h.modifyDocumentWith, modifyWith_drafting]

theorem MemoryStore.modifies : Store.Modifies MemoryStore.writeDocument := modifiesWith.modifies

theorem FileStore.modifies : Store.Modifies fun _ => FileStore.writeDocument :=
  modifiesWith.modifies

theorem Store.Plain.modifies [Store σ] (plain : Store.Plain σ) :
    Store.Modifies fun _ => (Store.updateDocument : Document → Action σ Unit) where
  modifyDocumentThen id update committed s := by
    rw [plain.modifyDocumentThen]

theorem Store.Modifies.modifyDocumentThen_eq [Store σ] {write : String → Document → Action σ Unit}
    (h : Store.Modifies write) (id : String)
    (update : Document → Action (σ × ω) (Document × β)) (committed : Document → β → ω → ω) :
    Store.modifyDocumentThen id update committed =
      modifyThen Store.getDocument (write id) id update committed :=
  funext (h.modifyDocumentThen id update committed)

theorem PlainStore.plain : Store.Plain PlainStore :=
  ⟨fun _ _ => rfl, modifiesWith.modifies.modifyDocumentThen_eq⟩

/-- The store creates documents by its plain operation, and modifies them by reading and writing. -/
structure Store.Joins [Store σ] (write : String → Document → Action σ Unit) : Prop
    extends Store.Modifies write where
  createDocumentThen : ∀ {ω : Type} d (committed : Document → ω → ω),
    (Store.createDocumentThen d committed : Action (σ × ω) String) =
      createThen Store.createDocument d committed

theorem MemoryStore.joins : Store.Joins MemoryStore.writeDocument :=
  { MemoryStore.modifies with createDocumentThen := fun _ _ => createDocumentWith_eq .. }

theorem FileStore.joins : Store.Joins fun _ => FileStore.writeDocument :=
  { FileStore.modifies with createDocumentThen := fun _ _ => rfl }

theorem PlainStore.joins :
    Store.Joins fun _ => (Store.updateDocument : Document → Action PlainStore Unit) :=
  { PlainStore.plain.modifies with createDocumentThen := fun _ _ => rfl }

end Signoff
