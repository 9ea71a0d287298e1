import Signoff.Proofs.Instant.Order
import Signoff.Proofs.Service.Session

/-!
# Records stay consistent

Every record in memory stands under its own id, every workflow has a machine, and every document
fits its workflow (`MemoryStore.Consistent`). An empty store is consistent, and each effect of a
request keeps it so, because new ids are new and no workflow ever changes.

* `Effect.consistent`, `Effect.workflows_kept`: what a request keeps.
* `documents_consistent`: the same for every document after every run, and the order of its times
  if the clock was never set back.
-/

namespace Signoff

namespace MemoryStore

variable {s : MemoryStore}

/-- A workflow stands under its own id, which was handed out, was checked and has a machine. -/
structure HoldsWorkflow (s : MemoryStore) (id : String) (w : Workflow) : Prop where
  id_eq : w.id = id
  number : ∃ n ≤ s.workflowIds, id = s.ids.workflowId n
  checked : w.definition.check = .ok ()
  compiled : ∃ m, Machine.ofWorkflow w = .ok m

/-- A document stands under its own id, which was handed out, and fits its workflow. -/
structure HoldsDocument (s : MemoryStore) (id : String) (d : Document) : Prop where
  id_eq : d.id = id
  number : ∃ n ≤ s.documentIds, id = s.ids.documentId n
  fits : ∃ w, s.workflows.get? d.workflowId = some w ∧ d.Fits w

/-- Every record stands as it should. -/
structure Consistent (s : MemoryStore) : Prop where
  workflow : ∀ {id w}, s.workflows.get? id = some w → s.HoldsWorkflow id w
  document : ∀ {id d}, s.documents.get? id = some d → s.HoldsDocument id d

theorem consistent_empty (ids : IdSource) : (empty ids).Consistent := ⟨nofun, nofun⟩

/-- What stands in a table after an insertion was inserted or stood there before. -/
theorem get?_insert_cases {α : Type} {t : Table String α} {key id : String} {a b : α}
    (h : (t.insert key a).get? id = some b) : id = key ∧ b = a ∨ t.get? id = some b := by
  by_cases e : id = key
  · subst e
    rw [Table.get?_insert_self] at h
    exact .inl ⟨rfl, (Option.some.inj h).symm⟩
  · rw [Table.get?_insert_of_ne _ e] at h
    exact .inr h

theorem get?_addDocument_self (s : MemoryStore) (d : Document) :
    (s.addDocument d).documents.get? s.nextDocumentId = some { d with id := s.nextDocumentId } :=
  Table.get?_insert_self ..

theorem get?_addDocument_other {id : String} (h : id ≠ s.nextDocumentId) (d : Document) :
    (s.addDocument d).documents.get? id = s.documents.get? id :=
  Table.get?_insert_of_ne _ h _

namespace Consistent

variable (h : s.Consistent)
include h

/-- The next id of a workflow is new. -/
theorem nextWorkflowId_ne {id : String} {w : Workflow} (stored : s.workflows.get? id = some w) :
    id ≠ s.nextWorkflowId := by
  obtain ⟨n, hn, rfl⟩ := (h.workflow stored).number
  intro e
  have := s.ids.workflowId_inj e
  omega

/-- The next id of a document is new. -/
theorem nextDocumentId_ne {id : String} {d : Document} (found : s.documents.get? id = some d) :
    id ≠ s.nextDocumentId := by
  obtain ⟨n, hn, rfl⟩ := (h.document found).number
  intro e
  have := s.ids.documentId_inj e
  omega

theorem get?_nextDocumentId : s.documents.get? s.nextDocumentId = none :=
  Option.eq_none_iff_forall_ne_some.2 fun _ found => h.nextDocumentId_ne found rfl

/-- A new workflow leaves every other one. -/
theorem get?_addWorkflow (w : Workflow) {id : String} {w' : Workflow}
    (stored : s.workflows.get? id = some w') : (s.addWorkflow w).workflows.get? id = some w' := by
  rw [← stored]
  exact Table.get?_insert_of_ne _ (h.nextWorkflowId_ne stored) _

/-- A new document leaves every other one. -/
theorem get?_addDocument (d : Document) {id : String} {d' : Document}
    (found : s.documents.get? id = some d') : (s.addDocument d).documents.get? id = some d' := by
  rw [get?_addDocument_other (h.nextDocumentId_ne found), found]

theorem addWorkflow {d : Definition} {now : Instant} {w : Workflow} {m : Machine}
    (accepted : d.accept now = .ok w) (compiled : Machine.ofWorkflow w = .ok m) :
    (s.addWorkflow w).Consistent where
  workflow stored := by
    obtain ⟨rfl, rfl⟩ | stored := get?_insert_cases stored
    · obtain ⟨hd, rfl⟩ := Definition.accept_eq_ok.1 accepted
      exact ⟨rfl, ⟨_, Nat.le_refl _, rfl⟩, hd, _, Machine.ofWorkflow_id compiled _⟩
    · obtain ⟨n, hn, he⟩ := (h.workflow stored).number
      exact { h.workflow stored with number := ⟨n, Nat.le_succ_of_le hn, he⟩ }
  document found := by
    obtain ⟨w', hw, hf⟩ := (h.document found).fits
    exact { h.document found with fits := ⟨w', h.get?_addWorkflow w hw, hf⟩ }

theorem addDocument {d : Document} {w : Workflow}
    (stored : s.workflows.get? d.workflowId = some w)
    (fits : ({ d with id := s.nextDocumentId } : Document).Fits w) :
    (s.addDocument d).Consistent where
  workflow stored := { h.workflow stored with }
  document found := by
    obtain ⟨rfl, rfl⟩ | found := get?_insert_cases found
    · exact ⟨rfl, ⟨_, Nat.le_refl _, rfl⟩, w, stored, fits⟩
    · obtain ⟨n, hn, he⟩ := (h.document found).number
      exact { h.document found with number := ⟨n, Nat.le_succ_of_le hn, he⟩ }

theorem moveDocument {id : String} {d d' : Document} {w : Workflow}
    (found : s.documents.get? id = some d) (stored : s.workflows.get? d.workflowId = some w)
    (same : d.SameOrigin d') (fits : d'.Fits w) :
    ({ s with documents := s.documents.insert id d' } : MemoryStore).Consistent where
  workflow stored := { h.workflow stored with }
  document found' := by
    obtain ⟨rfl, rfl⟩ | found' := get?_insert_cases found'
    · have held := h.document found
      exact ⟨same.id.trans held.id_eq, held.number, w, by rw [same.workflowId]; exact stored, fits⟩
    · exact { h.document found' with }

end Consistent

/-- No document was made after it was last touched, or touched after now. -/
def Timely (s : MemoryStore) (now : Instant) : Prop :=
  ∀ id d, s.documents.get? id = some d → d.createdAt ≤ d.updatedAt ∧ d.updatedAt ≤ now

theorem timely_empty (ids : IdSource) (now : Instant) : (empty ids).Timely now :=
  fun _ _ found => nomatch found

theorem Timely.mono {now later : Instant} (h : s.Timely now) (le : now ≤ later) :
    s.Timely later :=
  fun id d found => ⟨(h id d found).1, Instant.le_trans (h id d found).2 le⟩

end MemoryStore

namespace Service

variable {info : ServiceInfo} {now : Instant} {r : Request} {s s' : MemoryStore}
  {q q' : Option TimerQueue} {status : ResponseStatus}

namespace Effect

theorem consistent (e : Effect info now r s q status s' q') (h : s.Consistent) :
    s'.Consistent := by
  cases e with
  | refused => exact h
  | looked => exact h
  | workflowKept _ _ _ accepted compiled => exact h.addWorkflow accepted compiled
  | documentMade _ _ stored compiled due next made =>
    subst made
    exact h.addDocument stored (Engine.newDocument_fits compiled due next ..)
  | documentMoved _ _ found stored compiled moved =>
    exact h.moveDocument found stored (Document.fire_sameOrigin moved)
      (Document.fire_fits compiled (h.workflow stored).checked moved)
  | timersPolled => exact h

/-- No request changes a workflow that is kept. -/
theorem workflows_kept (e : Effect info now r s q status s' q') (h : s.Consistent) {id : String}
    {w : Workflow} (stored : s.workflows.get? id = some w) : s'.workflows.get? id = some w := by
  cases e with
  | workflowKept => exact h.get?_addWorkflow _ stored
  | _ => exact stored

/-- No request changes the workflow of a document. -/
theorem workflow_same (e : Effect info now r s q status s' q') (h : s.Consistent) {id : String}
    {d : Document} (found : s.documents.get? id = some d) :
    s'.workflows.get? d.workflowId = s.workflows.get? d.workflowId := by
  obtain ⟨w, stored, -⟩ := (h.document found).fits
  rw [stored, e.workflows_kept h stored]

/-- If no document is from after now, none is after the request. -/
theorem timely (e : Effect info now r s q status s' q') (h : s.Timely now) : s'.Timely now := by
  cases e with
  | refused => exact h
  | looked => exact h
  | workflowKept => exact h
  | documentMade _ _ _ _ _ _ made =>
    subst made
    intro id d found
    obtain ⟨-, rfl⟩ | found := MemoryStore.get?_insert_cases found
    · exact ⟨Instant.le_refl now, Instant.le_refl now⟩
    · exact h id d found
  | documentMoved _ _ found _ _ moved =>
    intro id d found'
    obtain ⟨-, rfl⟩ | found' := MemoryStore.get?_insert_cases found'
    · rw [(Document.fire_sameOrigin moved).createdAt, Document.fire_updatedAt moved]
      have order := h _ _ found
      exact ⟨Instant.le_trans order.1 order.2, Instant.le_refl now⟩
    · exact h id d found'
  | timersPolled => exact h

end Effect

/-- No input of a run sets the clock back. -/
def ClockForward : Instant → List Input → Prop
  | _, [] => True
  | now, .request _ :: rest => ClockForward now rest
  | now, .clock t :: rest => now ≤ t ∧ ClockForward t rest

namespace Session

theorem next_consistent {s : Session MemoryStore} (h : s.records.Consistent) (input : Input) :
    (s.next info input).records.Consistent := by
  cases input with
  | clock => exact h
  | request r =>
    obtain ⟨_, e, -⟩ := s.next_effect info r
    exact e.consistent h

theorem run_consistent {s : Session MemoryStore} (h : s.records.Consistent) (inputs : List Input) :
    (s.run info inputs).records.Consistent :=
  run_induction (P := fun s : Session MemoryStore => s.records.Consistent) h
    (fun _ input h => next_consistent h input) inputs

theorem run_timely {s : Session MemoryStore} (h : s.records.Timely s.now) {inputs : List Input}
    (forward : ClockForward s.now inputs) :
    (s.run info inputs).records.Timely (s.run info inputs).now := by
  induction inputs generalizing s with
  | nil => exact h
  | cons input rest ih =>
    cases input with
    | clock t => exact ih (h.mono forward.1) forward.2
    | request r =>
      obtain ⟨_, e, -⟩ := s.next_effect info r
      exact ih (e.timely h) forward

end Session

/-- After every run every document stands under its own id and fits its workflow, which is kept and
has a machine. If the clock was never set back, no document was made after it was last touched. -/
theorem documents_consistent (info : ServiceInfo) (t : Instant) (withTimers : Bool)
    (ids : IdSource) (inputs : List Input) :
    let s := ((Session.start t withTimers ids).run info inputs).records
    ∀ id d, s.documents.get? id = some d →
      d.id = id ∧
      (∃ w m, s.workflows.get? d.workflowId = some w ∧ Machine.ofWorkflow w = .ok m ∧
        w.definition.declares d.current = true ∧
        Duration.Ends d.updatedAt (w.definition.deadlines.get? d.current) d.dueAt ∧
        Duration.Ends d.updatedAt (w.definition.reapproval.map (·.after)) d.nextReapproval) ∧
      (ClockForward t inputs → d.createdAt ≤ d.updatedAt) := by
  intro s id d found
  have consistent : s.Consistent :=
    Session.run_consistent (s := .start t withTimers ids) (MemoryStore.consistent_empty ids) inputs
  have held := consistent.document found
  obtain ⟨w, stored, fits⟩ := held.fits
  obtain ⟨m, compiled⟩ := (consistent.workflow stored).compiled
  refine ⟨held.id_eq, ⟨w, m, stored, compiled, fits.declared, fits.dueAt, fits.nextReapproval⟩, ?_⟩
  intro forward
  have timely : s.Timely _ :=
    Session.run_timely (s := .start t withTimers ids) (MemoryStore.timely_empty ids t) forward
  exact (timely id d found).1

/-- The document of a small session, whose clock went forward, has the times that its state asks
for. -/
theorem moved_document_consistent :
    let s := ((Session.start .epoch true).run Session.reviewer Session.reviewRun).records
    ∃ d, s.documents.get? (documentId 1) = some d ∧ d.id = documentId 1 ∧ d.current = "Done" ∧
      (∃ w, s.workflows.get? d.workflowId = some w ∧
        Duration.Ends d.updatedAt (w.definition.deadlines.get? d.current) d.dueAt) ∧
      ClockForward .epoch Session.reviewRun ∧ d.createdAt ≤ d.updatedAt := by
  obtain ⟨d, -, found, -, current, -⟩ := Session.reviewRun_document
  have forward : ClockForward .epoch Session.reviewRun := ⟨by decide, trivial⟩
  obtain ⟨id_eq, ⟨w, m, stored, -, -, due, -⟩, order⟩ :=
    documents_consistent Session.reviewer .epoch true .numbering Session.reviewRun _ d found
  exact ⟨d, found, id_eq, current, ⟨w, stored, due⟩, forward, order forward⟩

end Service

end Signoff
