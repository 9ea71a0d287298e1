import Signoff.Proofs.Service.Consistency

/-!
# Only legal moves

A document appears in the initial state of its workflow. After that it changes only by legal moves
(`LegalMove`), each of which a request asked for, and not at all once its state is terminal.

* `Session.moment_lawful`: what one moment may do to the document under an id.
* `Session.run_stillHolds`: what stays of a document and its workflow, however a run goes on.
* `documents_move_legally`: both, over every run.
-/

namespace Signoff

/-- A gate lets an actor through if it is empty or asks for one of the actor's roles. -/
theorem RoleSet.permits_ofList {gate : RoleSet} {roles : List String} :
    gate.permits (.ofList roles) = true ↔
      gate.isEmpty = true ∨ ∃ role ∈ roles, gate.contains role = true := by
  rw [permits_iff]
  simp only [contains_ofList, List.contains_iff_mem]
  exact or_congr_right ⟨fun ⟨role, hg, hr⟩ => ⟨role, hr, hg⟩, fun ⟨role, hr, hg⟩ => ⟨role, hg, hr⟩⟩

/-- A move from a state that is not terminal along a declared transition of the event that was asked
for, whose gate is empty or asks for one of the roles of the request. -/
structure LegalMove (w : Workflow) (p : ApplyEventParams) (d d' : Document) : Prop where
  notTerminal : ¬ w.definition.IsTerminal d.current
  along : ∃ t ∈ w.definition.transitions,
    t.source = d.current ∧ t.event = p.event ∧ t.target = d'.current ∧
      (t.roles.isEmpty = true ∨ ∃ role ∈ p.roles, t.roles.contains role = true)

theorem Document.fire_legal {w : Workflow} {m : Machine} {d d' : Document} {p : ApplyEventParams}
    {now : Instant} (compiled : Machine.ofWorkflow w = .ok m)
    (h : d.fire m p.event (.ofList p.roles) now = .ok d') : LegalMove w p d d' := by
  obtain ⟨ht, t, _, _, declared, gate, -, -, rfl⟩ := fire_eq_ok.1 h
  obtain ⟨mem, source, event⟩ := (Machine.transition?_eq_some_iff compiled).1 declared
  refine ⟨fun terminal => ?_, t, mem, source, event, rfl, RoleSet.permits_ofList.1 gate⟩
  rw [(Machine.isTerminal_iff compiled).2 terminal] at ht
  cases ht

namespace Service

variable {info : ServiceInfo}

/-- What a moment may do to the document under an id. -/
inductive Moment.Lawful (x : Moment MemoryStore) (id : String) : Prop where
  | kept (same : x.after.records.documents.get? id = x.before.records.documents.get? id)
  /-- It appears in the initial state of the workflow that the request names. -/
  | made (r : Request) (p : CreateDocumentParams) (w : Workflow) (d : Document)
      (granted : x.granted? = some r) (op : r.operation = .createDocument)
      (read : r.read? CreateDocumentParams.schema = some p)
      (stored : x.before.records.workflows.get? p.workflowId = some w)
      (absent : x.before.records.documents.get? id = none)
      (present : x.after.records.documents.get? id = some d)
      (workflow : d.workflowId = p.workflowId)
      (initial : w.definition.IsInitial d.current)
  /-- It is moved as a request that names it asked. -/
  | moved (r : Request) (p : ApplyEventParams) (w : Workflow) (d d' : Document)
      (granted : x.granted? = some r) (op : r.operation = .applyEvent)
      (read : r.read? ApplyEventParams.schema = some p) (named : p.documentId = id)
      (found : x.before.records.documents.get? id = some d)
      (stored : x.before.records.workflows.get? d.workflowId = some w)
      (present : x.after.records.documents.get? id = some d') (legal : LegalMove w p d d')

namespace Session

variable {s : Session MemoryStore}

/-- Every moment of a session with consistent records is lawful. -/
theorem moment_lawful (h : s.records.Consistent) (input : Input) (id : String) :
    (s.moment info input).Lawful id := by
  cases input with
  | clock => exact .kept rfl
  | request r =>
    obtain ⟨status, e, granted⟩ := s.next_effect info r
    have hs : (s.moment info (.request r)).after.records = (s.next info (.request r)).records := rfl
    generalize (s.next info (.request r)).ambient.timers = q at e
    generalize (s.next info (.request r)).records = records at e hs
    cases e with
    | refused => exact .kept (by rw [hs]; rfl)
    | looked => exact .kept (by rw [hs]; rfl)
    | workflowKept => exact .kept (by rw [hs]; rfl)
    | documentMade op read stored compiled due next made =>
      rename_i p w m dueAt nextReapproval d
      by_cases new : id = s.records.nextDocumentId
      · have present := s.records.get?_addDocument_self d
        rw [← hs] at present
        subst new made
        exact .made r _ _ _ granted op read stored h.get?_nextDocumentId present rfl
          (Machine.isInitial_initial compiled)
      · exact .kept (by rw [hs]; exact MemoryStore.get?_addDocument_other new _)
    | documentMoved op read found stored compiled moved =>
      rename_i p d d' w m
      by_cases named : p.documentId = id
      · subst named
        refine .moved r p w d d' granted op read rfl found stored ?_
          (Document.fire_legal compiled moved)
        rw [hs]
        exact Table.get?_insert_self ..
      · exact .kept (by rw [hs]; exact Table.get?_insert_of_ne _ (Ne.symm named) _)
    | timersPolled => exact .kept (by rw [hs]; rfl)

end Session

/-- A document stays, and stays of its workflow; in a terminal state it stays as it is. -/
structure StillHolds (s : MemoryStore) (id : String) (w : Workflow) (d : Document) : Prop where
  stored : s.workflows.get? d.workflowId = some w
  found : ∃ d', s.documents.get? id = some d' ∧ d.SameOrigin d' ∧
    (w.definition.IsTerminal d.current → d' = d)

theorem Effect.stillHolds {now : Instant} {r : Request} {s s' : MemoryStore}
    {q q' : Option TimerQueue}
    {status : ResponseStatus} (e : Effect info now r s q status s' q') (h : s.Consistent)
    {id : String} {w : Workflow} {d : Document} (k : StillHolds s id w d) :
    StillHolds s' id w d := by
  refine ⟨e.workflows_kept h k.stored, ?_⟩
  obtain ⟨d', found, same, final⟩ := k.found
  cases e with
  | documentMade => exact ⟨d', h.get?_addDocument _ found, same, final⟩
  | documentMoved op read found' stored compiled moved =>
    rename_i p _ d'' _ m
    by_cases named : p.documentId = id
    · subst named
      obtain rfl := Option.some.inj (found'.symm.trans found)
      rw [same.workflowId, k.stored] at stored
      cases stored
      refine ⟨d'', Table.get?_insert_self _ _ _, same.trans (Document.fire_sameOrigin moved), ?_⟩
      -- the document did not move yet, and a move would leave a terminal state
      intro terminal
      obtain rfl := final terminal
      exact absurd terminal (Document.fire_legal (p := p) compiled moved).notTerminal
    · exact ⟨d', (Table.get?_insert_of_ne _ (Ne.symm named) _).trans found, same, final⟩
  | _ => exact ⟨d', found, same, final⟩

theorem Session.run_stillHolds {s : Session MemoryStore} (h : s.records.Consistent) {id : String}
    {w : Workflow} {d : Document} (k : StillHolds s.records id w d) (inputs : List Input) :
    StillHolds (s.run info inputs).records id w d := by
  induction inputs generalizing s with
  | nil => exact k
  | cons input rest ih =>
    refine ih (next_consistent h input) ?_
    cases input with
    | clock => exact k
    | request r =>
      obtain ⟨_, e, -⟩ := s.next_effect info r
      exact e.stillHolds h k

/-- Over every run a document appears in the initial state of its workflow and changes only by legal
moves that were asked for and granted. However the run goes on, its workflow stays what it is, the
document stays with its id, its workflow, its data and the time when it was made, and if its state
is terminal all of it stays. -/
theorem documents_move_legally (info : ServiceInfo) (t : Instant) (withTimers : Bool)
    (ids : IdSource) (inputs : List Input) (id : String) :
    (∀ x ∈ (Session.start t withTimers ids).moments info inputs, x.Lawful id) ∧
    ∀ d, ((Session.start t withTimers ids).run info inputs).records.documents.get? id = some d →
      ∃ w, ∀ more,
        let later := ((Session.start t withTimers ids).run info (inputs ++ more)).records
        later.workflows.get? d.workflowId = some w ∧
        ∃ d', later.documents.get? id = some d' ∧ d.SameOrigin d' ∧
          (w.definition.IsTerminal d.current → d' = d) := by
  have consistent (inputs : List Input) :
      ((Session.start t withTimers ids).run info inputs).records.Consistent :=
    Session.run_consistent (s := .start t withTimers ids) (MemoryStore.consistent_empty ids) inputs
  constructor
  · intro x hx
    obtain ⟨before, input, _, -, rfl⟩ := Session.mem_moments hx
    exact Session.moment_lawful (consistent before) input id
  · intro d found
    obtain ⟨w, stored, -⟩ := ((consistent inputs).document found).fits
    refine ⟨w, fun more => ?_⟩
    have kept : StillHolds ((Session.start t withTimers ids).run info inputs).records id w d :=
      ⟨stored, d, found, .refl d, fun _ => rfl⟩
    rw [Session.run_append]
    have later : StillHolds (Session.run info _ more).records id w d :=
      Session.run_stillHolds (consistent inputs) kept more
    exact ⟨later.stored, later.found⟩

/-- A document of a small session came to a terminal state and stays as it is, though it is asked to
move once more. -/
theorem terminal_document_stays :
    ∃ d, ((Session.start .epoch true).run Session.reviewer Session.reviewRun).records.documents.get?
        (documentId 1) = some d ∧ d.current = "Done" ∧
      ((Session.start .epoch true).run Session.reviewer
        (Session.reviewRun ++ [.request Session.endReview])).records.documents.get? (documentId 1) =
          some d := by
  obtain ⟨d, w, found, stored, current, terminal⟩ := Session.reviewRun_document
  obtain ⟨w', keeps⟩ :=
    (documents_move_legally Session.reviewer .epoch true .numbering Session.reviewRun _).2 d found
  have same : w' = w := by
    have stored' := (keeps []).1
    rw [List.append_nil, stored] at stored'
    exact (Option.some.inj stored').symm
  obtain ⟨-, d', found', -, final⟩ := keeps [.request Session.endReview]
  rw [same, current] at final
  exact ⟨d, found, current, final terminal ▸ found'⟩

end Service

end Signoff
