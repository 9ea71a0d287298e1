import Signoff.Proofs.Engine.Document
import Signoff.Proofs.Store.Joining
import Signoff.Service.Handler

/-!
# The engine on records in memory

Each operation of the engine that changes something, as one equation: its result and what it leaves,
case by case in the order in which the cases are tried (`createWorkflow_memory`,
`createDocument_memory`, `applyEvent_memory`).

Memory gains records by `MemoryStore.addWorkflow` and `addDocument`, under the next id of the kind.
-/

namespace Signoff

namespace MemoryStore

/-- The id of the next workflow. -/
def nextWorkflowId (s : MemoryStore) : String := s.ids.workflowId (s.workflowIds + 1)

/-- The id of the next document. -/
def nextDocumentId (s : MemoryStore) : String := s.ids.documentId (s.documentIds + 1)

/-- The records with one more workflow, under its new id. -/
def addWorkflow (s : MemoryStore) (w : Workflow) : MemoryStore :=
  { s with
    workflows := s.workflows.insert s.nextWorkflowId { w with id := s.nextWorkflowId }
    workflowIds := s.workflowIds + 1 }

/-- The records with one more document, under its new id. -/
def addDocument (s : MemoryStore) (d : Document) : MemoryStore :=
  { s with
    documents := s.documents.insert s.nextDocumentId { d with id := s.nextDocumentId }
    documentIds := s.documentIds + 1 }

theorem saveWorkflow_apply {w : Workflow} (noId : w.id.isEmpty = true) (s : MemoryStore) :
    (Store.saveWorkflow w : Action MemoryStore String) s =
      (.ok s.nextWorkflowId, s.addWorkflow w) := by
  show saveWorkflow w s = _
  rw [saveWorkflow, Action.bind_apply, Action.get_apply]
  dsimp only
  rw [if_pos noId]
  rfl

theorem createDocumentThen_apply {ω : Type} (d : Document) (committed : Document → ω → ω)
    (s : MemoryStore) (w : ω) :
    Store.createDocumentThen d committed (s, w) =
      (.ok s.nextDocumentId, s.addDocument d, committed { d with id := s.nextDocumentId } w) := by
  rw [joins.createDocumentThen]
  exact createThen_of_ok rfl ..

end MemoryStore

/-- The log with a line about a failure that should not happen. -/
def Ambient.report (a : Ambient) (f : Failure) : Ambient :=
  if f.isInternal then a.note .error f.message else a

@[simp] theorem Ambient.report_timers (a : Ambient) (f : Failure) :
    (a.report f).timers = a.timers := by
  unfold report
  split <;> rfl

/-- The log with a warning about each deadline of a definition that never applies. -/
def Ambient.warn (a : Ambient) (d : Definition) : Ambient :=
  { a with log := a.log ++ d.strayDeadlines.map fun state => ⟨.warning, d.strayWarning state⟩ }

/-- The machine of a workflow, or why a request that needs it fails. -/
def Workflow.machine (w : Workflow) : Except Failure Machine :=
  (Machine.ofWorkflow w).mapError Machine.Defect.toFailure

theorem Workflow.machine_eq_ok {w : Workflow} {m : Machine} :
    w.machine = .ok m ↔ Machine.ofWorkflow w = .ok m :=
  mapError_eq_ok

namespace Engine

variable {σ α : Type} {s : MemoryStore} {a : Ambient}

theorem reporting_apply (op : Operation σ α) (s : σ × Ambient) :
    reporting op s = match op s with
      | (.ok r, s) => (.ok r, s)
      | (.error f, (s, a)) => (.error f, s, a.report f) := rfl

theorem machineOf_apply (w : Workflow) (s : σ × Ambient) : machineOf w s = (w.machine, s) :=
  Action.ofExcept_apply ..

theorem getWorkflow_memory (id : String) :
    getWorkflow id (s, a) = (match s.workflows.get? id with
      | some w => .ok w
      | none => .error (.workflowNotFound id), s, a) := by
  simp only [getWorkflow, Store.getWorkflow, Action.bind_apply, Action.onFirst_apply,
    Action.get_apply, Action.pure_apply]
  cases s.workflows.get? id <;> rfl

theorem getMachine_memory (id : String) :
    getMachine id (s, a) = match s.workflows.get? id with
      | none => (.error (.workflowNotFound id), s, a)
      | some w =>
        match w.machine with
        | .error f => (.error f, s, a.report f)
        | .ok m => (.ok m, s, a) := by
  rw [getMachine, Action.bind_apply, getWorkflow_memory]
  cases s.workflows.get? id with
  | none => rfl
  | some w =>
    simp only [reporting_apply, machineOf_apply]
    cases w.machine <;> rfl

/-- On any store a definition that is accepted and has a machine is saved, and nothing else. -/
theorem createWorkflow_apply {σ : Type} [Store σ] (now : Instant) (d : Definition) (s : σ)
    (a : Ambient) :
    createWorkflow now d (s, a) = match d.accept now with
      | .error e => (.error (.invalidDefinition e.message), s, a.warn d)
      | .ok w =>
        match w.machine with
        | .error f => (.error f, s, (a.warn d).report f)
        | .ok _ => ((Store.saveWorkflow w s).1, (Store.saveWorkflow w s).2, a.warn d) := by
  have warned : ∀ (states : List String) (log : List LogLine),
      (forIn states PUnit.unit (fun state _ => do
        Action.changeSecond fun a => a.note .warning (d.strayWarning state)
        pure (ForInStep.yield PUnit.unit)) : Operation σ PUnit) (s, ⟨a.timers, log⟩) =
      (.ok ⟨⟩, s, ⟨a.timers, log ++ states.map fun state => ⟨.warning, d.strayWarning state⟩⟩) := by
    intro states
    induction states with
    | nil => intro log; simp
    | cons state states ih =>
      intro log
      rw [List.forIn_cons, Action.bind_apply, Action.bind_apply, List.map_cons, List.append_cons]
      exact ih _
  rw [createWorkflow, Action.bind_apply, warned]
  dsimp only
  cases d.accept now with
  | error e => rfl
  | ok w =>
    simp only [Action.bind_apply, reporting_apply, machineOf_apply]
    cases w.machine with
    | error f => rfl
    | ok m => rfl

theorem createWorkflow_memory (now : Instant) (d : Definition) :
    createWorkflow now d (s, a) = match d.accept now with
      | .error e => (.error (.invalidDefinition e.message), s, a.warn d)
      | .ok w =>
        match w.machine with
        | .error f => (.error f, s, (a.warn d).report f)
        | .ok _ => (.ok s.nextWorkflowId, s.addWorkflow w, a.warn d) := by
  rw [createWorkflow_apply]
  cases hd : d.accept now with
  | error e => rfl
  | ok w =>
    have noId : w.id.isEmpty = true := by rw [(Definition.accept_eq_ok.1 hd).2]; rfl
    simp only [MemoryStore.saveWorkflow_apply noId]

theorem createDocument_memory (now : Instant) (workflowId : String) (data : Value) :
    createDocument now workflowId data (s, a) = match s.workflows.get? workflowId with
      | none => (.error (.workflowNotFound workflowId), s, a)
      | some w =>
        match w.machine with
        | .error f => (.error f, s, a.report f)
        | .ok m =>
          match m.dueAt m.initial now with
          | .error f => (.error f, s, a)
          | .ok dueAt =>
            match m.nextReapproval now with
            | .error f => (.error f, s, a)
            | .ok nextReapproval =>
              let d := newDocument now workflowId m data dueAt nextReapproval
              (.ok { d with id := s.nextDocumentId }, s.addDocument d,
                a.schedule m { d with id := s.nextDocumentId }) := by
  rw [createDocument, Action.bind_apply, getMachine_memory]
  cases s.workflows.get? workflowId with
  | none => rfl
  | some w =>
    dsimp only
    cases w.machine with
    | error f => rfl
    | ok m =>
      simp only [Action.bind_apply, Action.ofExcept_apply]
      cases m.dueAt m.initial now with
      | error f => rfl
      | ok dueAt =>
        dsimp only
        cases m.nextReapproval now with
        | error f => rfl
        | ok nextReapproval =>
          dsimp only
          rw [MemoryStore.createDocumentThen_apply]
          rfl

theorem applyEvent_memory (now : Instant) (id event : String) (roles : RoleSet) :
    applyEvent now id event roles (s, a) = match s.documents.get? id with
      | none => (.error (.documentNotFound id), s, a)
      | some d =>
        match s.workflows.get? d.workflowId with
        | none => (.error (.workflowNotFound d.workflowId), s, a)
        | some w =>
          match w.machine with
          | .error f => (.error f, s, a.report f)
          | .ok m =>
            match d.fire m event roles now with
            | .error f => (.error f, s, a.report f)
            | .ok d' =>
              (.ok d', { s with documents := s.documents.insert id d' }, a.schedule m d') := by
  have found : (Store.getDocument id : Action MemoryStore _).onFirst (s, a) =
      (.ok (s.documents.get? id), s, a) := rfl
  simp only [applyEvent, reporting_apply, MemoryStore.modifies.modifyDocumentThen, modifyThen,
    Action.bind_apply, found]
  cases s.documents.get? id with
  | none => rfl
  | some d =>
    simp only [Action.bind_apply, getWorkflow_memory]
    cases s.workflows.get? d.workflowId with
    | none => rfl
    | some w =>
      simp only [machineOf_apply]
      cases w.machine with
      | error f => rfl
      | ok m =>
        simp only [Action.ofExcept_apply]
        cases d.fire m event roles now with
        | error f => rfl
        | ok d' => rfl

end Engine

end Signoff
