import Signoff.Proofs.Engine.Memory
import Signoff.Proofs.Table.Entries

/-!
# The engine does not look at the data of documents

Documents carry data from whoever made them. Here every record in memory is compared with the same
record without its data (`MemoryStore.withoutData`): an operation of the engine does on the records
without data what it does on the records, and gives the document that it gives there, without its
data.

* `Action.Carries`: one action does on the image of a state what another does on the state. The
  rules for the ways to put actions together are beside it.
* `Document.fire_withoutData`, `Document.events_withoutData`: the move and the list on one document.
* `Engine.createDocument_oblivious`, `applyEvent_oblivious` and so on: the operations of the engine.
-/

namespace Signoff

variable {ε σ τ α β γ δ : Type}

/-! ## Actions on the image of a state -/

namespace Action

/-- On what `view` makes of a state the second action gives what `shown` makes of the result of the
first, and leaves what `view` makes of what the first leaves. -/
def Carries (view : σ → τ) (shown : α → β) (a : ExceptT ε (StateM σ) α)
    (b : ExceptT ε (StateM τ) β) : Prop :=
  ∀ s, b (view s) = ((a s).1.map shown, view (a s).2)

variable {view : σ → τ} {shown : α → β} {shown' : γ → δ}

theorem carries_pure (x : α) :
    Carries view shown (pure x : ExceptT ε (StateM σ) α) (pure (shown x)) := fun _ => rfl

theorem Carries.bind {a : ExceptT ε (StateM σ) α} {b : ExceptT ε (StateM τ) β}
    {f : α → ExceptT ε (StateM σ) γ} {g : β → ExceptT ε (StateM τ) δ} (h : Carries view shown a b)
    (next : ∀ x, Carries view shown' (f x) (g (shown x))) :
    Carries view shown' (a >>= f) (b >>= g) := by
  intro s
  rw [bind_apply, bind_apply, h s]
  rcases a s with ⟨_ | x, s₁⟩
  · rfl
  · exact next x s₁

end Action

/-! ## Records without data -/

/-- The document without its data. -/
def Document.withoutData (d : Document) : Document := { d with data := .null }

/-- The records with documents without their data. -/
def MemoryStore.withoutData (s : MemoryStore) : MemoryStore :=
  { s with documents := s.documents.map Document.withoutData }

namespace MemoryStore

@[simp] theorem withoutData_workflows (s : MemoryStore) :
    s.withoutData.workflows = s.workflows := rfl

theorem withoutData_document (s : MemoryStore) (id : String) :
    s.withoutData.documents.get? id = (s.documents.get? id).map Document.withoutData :=
  Table.get?_map ..

theorem withoutData_insert (s : MemoryStore) (id : String) (d : Document) :
    { s with documents := s.documents.insert id d }.withoutData =
      { s.withoutData with documents := s.withoutData.documents.insert id d.withoutData } :=
  congrArg (fun documents => { s with documents }) (Table.map_insert ..)

theorem withoutData_addDocument (s : MemoryStore) (d : Document) :
    (s.addDocument d).withoutData = s.withoutData.addDocument d.withoutData :=
  congrArg (fun documents => { s with documents, documentIds := s.documentIds + 1 })
    (Table.map_insert ..)

end MemoryStore

namespace Document

variable (d : Document) (m : Machine) (event : String) (roles : RoleSet) (now : Instant)

@[simp] theorem withoutData_workflowId : d.withoutData.workflowId = d.workflowId := rfl

@[simp] theorem withoutData_current : d.withoutData.current = d.current := rfl

/-- A move asks for the state of a document, and carries its data along. -/
theorem fire_withoutData :
    d.withoutData.fire m event roles now = (d.fire m event roles now).map withoutData := by
  unfold fire
  show (if m.isTerminal d.current then _ else _) = _
  split
  · rfl
  · rw [withoutData_current]
    cases m.transition? d.current event with
    | none => rfl
    | some t =>
      dsimp only
      split
      · show (do
            let dueAt ← m.dueAt t.target now
            let nextReapproval ← m.nextReapproval now
            return { d.withoutData.enter t.target now with dueAt, nextReapproval }) =
          (do
            let dueAt ← m.dueAt t.target now
            let nextReapproval ← m.nextReapproval now
            return { d.enter t.target now with dueAt, nextReapproval }).map withoutData
        cases m.dueAt t.target now with
        | error f => rfl
        | ok dueAt => cases m.nextReapproval now <;> rfl
      · rfl

/-- The events that are offered depend on the state of the document alone. -/
theorem events_withoutData : d.withoutData.events m roles = d.events m roles := rfl

end Document

/-! ## The operations of the engine -/

namespace Engine

open Signoff.Action

/-- Records without the data of the documents, with the timers and the log as they are. -/
def withoutData (x : MemoryStore × Ambient) : MemoryStore × Ambient := (x.1.withoutData, x.2)

/-- Without data in the records an operation does what another does with them. -/
abbrev Oblivious (shown : α → β) (a : Operation MemoryStore α) (b : Operation MemoryStore β) :
    Prop :=
  Carries withoutData shown a b

theorem getWorkflow_oblivious (id : String) :
    Oblivious (fun w => w) (getWorkflow id) (getWorkflow id) := by
  rintro ⟨s, a⟩
  show getWorkflow id (s.withoutData, a) = _
  rw [getWorkflow_memory, getWorkflow_memory, s.withoutData_workflows]
  cases s.workflows.get? id <;> rfl

theorem getMachine_oblivious (id : String) :
    Oblivious (fun m => m) (getMachine id) (getMachine id) := by
  rintro ⟨s, a⟩
  show getMachine id (s.withoutData, a) = _
  rw [getMachine_memory, getMachine_memory, s.withoutData_workflows]
  cases s.workflows.get? id with
  | none => rfl
  | some w =>
    dsimp only
    cases w.machine <;> rfl

theorem getDocument_memory (id : String) (s : MemoryStore) (a : Ambient) :
    getDocument id (s, a) = (match s.documents.get? id with
      | some d => .ok d
      | none => .error (.documentNotFound id), s, a) := by
  simp only [getDocument, Store.getDocument, Action.bind_apply, Action.onFirst_apply,
    Action.get_apply, Action.pure_apply]
  cases s.documents.get? id <;> rfl

theorem getDocument_oblivious (id : String) :
    Oblivious Document.withoutData (getDocument id) (getDocument id) := by
  rintro ⟨s, a⟩
  show getDocument id (s.withoutData, a) = _
  rw [getDocument_memory, getDocument_memory, s.withoutData_document]
  cases s.documents.get? id <;> rfl

theorem availableEvents_oblivious (id : String) (roles : RoleSet) :
    Oblivious (fun e => e) (availableEvents id roles) (availableEvents id roles) :=
  (getDocument_oblivious id).bind fun d => (getMachine_oblivious d.workflowId).bind fun m => by
    rw [d.events_withoutData]
    exact carries_pure (AvailableEvents.mk d.id d.current (d.events m roles))

theorem createWorkflow_oblivious (now : Instant) (d : Definition) :
    Oblivious (fun id => id) (createWorkflow now d) (createWorkflow now d) := by
  rintro ⟨s, a⟩
  show createWorkflow now d (s.withoutData, a) = _
  rw [createWorkflow_memory, createWorkflow_memory]
  cases d.accept now with
  | error e => rfl
  | ok w =>
    dsimp only
    cases w.machine <;> rfl

/-- A document is made in the same way whatever it carries. -/
theorem createDocument_oblivious (now : Instant) (workflowId : String) (data : Value) :
    Oblivious Document.withoutData (createDocument now workflowId data)
      (createDocument now workflowId .null) := by
  rintro ⟨s, a⟩
  show createDocument now workflowId .null (s.withoutData, a) = _
  rw [createDocument_memory, createDocument_memory, s.withoutData_workflows]
  cases s.workflows.get? workflowId with
  | none => rfl
  | some w =>
    dsimp only
    cases w.machine with
    | error f => rfl
    | ok m =>
      dsimp only
      cases m.dueAt m.initial now with
      | error f => rfl
      | ok dueAt =>
        dsimp only
        cases m.nextReapproval now with
        | error f => rfl
        | ok nextReapproval =>
          let d := newDocument now workflowId m data dueAt nextReapproval
          show (_, s.withoutData.addDocument d.withoutData, _) =
            (_, (s.addDocument d).withoutData, _)
          rw [s.withoutData_addDocument]
          rfl

/-- A document is moved in the same way whatever it carries, and so is its place in the timers. -/
theorem applyEvent_oblivious (now : Instant) (id event : String) (roles : RoleSet) :
    Oblivious Document.withoutData (applyEvent now id event roles)
      (applyEvent now id event roles) := by
  rintro ⟨s, a⟩
  show applyEvent now id event roles (s.withoutData, a) = _
  rw [applyEvent_memory, applyEvent_memory, s.withoutData_document]
  cases s.documents.get? id with
  | none => rfl
  | some d =>
    simp only [Option.map_some, Document.withoutData_workflowId, s.withoutData_workflows]
    cases s.workflows.get? d.workflowId with
    | none => rfl
    | some w =>
      dsimp only
      cases w.machine with
      | error f => rfl
      | ok m =>
        dsimp only
        rw [d.fire_withoutData]
        cases d.fire m event roles now with
        | error f => rfl
        | ok d' => exact congrArg (fun records => (_, records, _)) (s.withoutData_insert id d').symm

end Engine

end Signoff
