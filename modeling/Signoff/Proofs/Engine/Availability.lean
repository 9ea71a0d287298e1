import Signoff.Proofs.Engine.Memory
import Signoff.Proofs.RoleSet
import Signoff.Proofs.Store.Sparing

/-!
# Available events are those that move a document

The events that are listed for an actor and the moves that the actor may make are found in two ways:
one filters the transitions that leave a state, the other looks one transition up and asks its gate.
Both give the same verdict, on every store.

* `Document.mem_events`, `Document.events_increasing`: what the list holds, and its order.
* `Document.fire_denied`, `Document.fire_available`: what becomes of an event by that verdict.
* `Engine.availableEvents_apply`, `Engine.applyEvent_apply`: the two operations on a store that
  modifies documents by reading and writing them (`Store.Modifies`).
* `Engine.events_agree`: both together, for records in memory, in two maps, in files and in any
  store that has the plain operations only.
-/

namespace Signoff

variable {σ : Type}

/-- The failure denies an event: the state is final, no transition takes the event, or the gate does
not let the actor through. -/
def Failure.deniesEvent : Failure → Bool
  | .terminalState _ _ | .invalidTransition _ _ | .forbidden _ _ _ => true
  | _ => false

/-- A time that follows from entering a state now is out of range. -/
def Machine.OutOfRange (m : Machine) (state : String) (now : Instant) : Prop :=
  ∃ after, now.after? after = none ∧
    (m.deadline? state = some after ∨ m.reapproval.map (·.after) = some after)

namespace Machine

variable {m : Machine} {state : String} {now : Instant} {f : Failure}

theorem dueAt_eq_error (h : m.dueAt state now = .error f) :
    m.OutOfRange state now ∧ f.deniesEvent = false := by
  rw [dueAt_eq, endOf_eq_error] at h
  obtain ⟨after, deadline, none_, rfl⟩ := h
  exact ⟨⟨after, none_, .inl deadline⟩, rfl⟩

theorem nextReapproval_eq_error (h : m.nextReapproval now = .error f) :
    m.OutOfRange state now ∧ f.deniesEvent = false := by
  rw [nextReapproval_eq, endOf_eq_error] at h
  obtain ⟨after, policy, none_, rfl⟩ := h
  exact ⟨⟨after, none_, .inr policy⟩, rfl⟩

end Machine

namespace Document

variable {d : Document} {w : Workflow} {m : Machine} {event : String} {roles : RoleSet}

/-- The event fires a transition from a state that is not terminal, and its gate lets the actor
through. -/
def Accepts (d : Document) (m : Machine) (event : String) (roles : RoleSet) (t : Transition) :
    Prop :=
  m.isTerminal d.current = false ∧ m.transition? d.current event = some t ∧
    t.roles.permits roles = true

/-- The events that are listed are those that the document accepts. -/
theorem mem_events (compiled : Machine.ofWorkflow w = .ok m) :
    event ∈ d.events m roles ↔ ∃ t, d.Accepts m event roles t := by
  unfold events Accepts
  cases m.isTerminal d.current with
  | true => simp
  | false =>
    simp only [Bool.false_eq_true, if_false, List.mem_map, List.mem_filter,
      Machine.mem_transitionsFrom compiled, true_and]
    constructor
    · rintro ⟨t, ⟨found, gate⟩, rfl⟩
      exact ⟨t, found, gate⟩
    · rintro ⟨t, found, gate⟩
      have fires := ((Machine.transition?_eq_some_iff compiled).1 found).2.2
      exact ⟨t, ⟨by rw [fires]; exact found, gate⟩, fires⟩

/-- The events that are listed increase strictly. -/
theorem events_increasing (compiled : Machine.ofWorkflow w = .ok m) :
    (d.events m roles).Pairwise (· < ·) := by
  unfold events
  split
  · exact .nil
  · have fewer : (((m.transitionsFrom d.current).filter (·.roles.permits roles)).map
        (·.event)).Sublist (m.eventsFrom d.current) := List.filter_sublist.map _
    exact ((Machine.eventsFrom_increasing compiled d.current).sublist fewer).imp lt_of_compare_eq_lt

/-- An event that the document does not accept is denied. -/
theorem fire_denied (now : Instant) (h : ¬ ∃ t, d.Accepts m event roles t) :
    ∃ f, d.fire m event roles now = .error f ∧ f.deniesEvent = true := by
  unfold fire
  cases terminal : m.isTerminal d.current with
  | true => exact ⟨_, rfl, rfl⟩
  | false =>
    cases found : m.transition? d.current event with
    | none => exact ⟨_, rfl, rfl⟩
    | some t =>
      have gate : ¬ t.roles.permits roles = true := fun gate => h ⟨t, terminal, found, gate⟩
      refine ⟨.forbidden d.current event t.roles.toList, ?_, rfl⟩
      simp only [Bool.false_eq_true, if_false, if_neg gate]

/-- An event that the document accepts moves it if the times of the new state can be computed. -/
theorem fire_accepted (now : Instant) {t : Transition} (h : d.Accepts m event roles t) :
    d.fire m event roles now = do
      let dueAt ← m.dueAt t.target now
      let nextReapproval ← m.nextReapproval now
      return { d.enter t.target now with dueAt, nextReapproval } := by
  obtain ⟨terminal, found, gate⟩ := h
  unfold fire
  rw [terminal, found]
  exact if_pos gate

/-- An event that the document accepts moves it, unless a time of the new state is out of range. -/
theorem fire_available (now : Instant) {t : Transition} (h : d.Accepts m event roles t) :
    (∃ d', d.fire m event roles now = .ok d') ∨
      ∃ f, d.fire m event roles now = .error f ∧ m.OutOfRange t.target now ∧
        f.deniesEvent = false := by
  rw [fire_accepted now h]
  cases due : m.dueAt t.target now with
  | error f => exact .inr ⟨f, rfl, Machine.dueAt_eq_error due⟩
  | ok dueAt =>
    cases next : m.nextReapproval now with
    | error f => exact .inr ⟨f, rfl, Machine.nextReapproval_eq_error next⟩
    | ok nextReapproval => exact .inl ⟨_, rfl⟩

end Document

/-! ## On a store -/

/-- Writing a document to its file never denies an event. -/
theorem FileStore.writeDocument_grants {d : Document} {s : FileStore} {f : Failure}
    (h : (FileStore.writeDocument d s).1 = .error f) : f.deniesEvent = false := by
  unfold writeDocument at h
  split at h
  · rw [Action.bind_apply, Action.get_apply] at h
    dsimp only at h
    unfold writeRecord at h
    rw [onDisk_apply] at h
    generalize (do
      Disk.create (documentPath s.folder d.id ++ ".tmp")
      Disk.write (documentPath s.folder d.id ++ ".tmp") (encode d.toJson.pretty)
      Disk.sync
      Disk.rename (documentPath s.folder d.id ++ ".tmp") (documentPath s.folder d.id)
      : Disk.Io Unit) s.disk = out at h
    obtain ⟨_ | _, _⟩ := out
    · cases h; rfl
    · cases h
  · cases h
    rfl

namespace Engine

section

variable [Store σ] {a : Ambient} {now : Instant} {id event : String} {roles : RoleSet}
  {s s₁ s₂ : σ} {d : Document} {w : Workflow} {m : Machine}

theorem getWorkflow_apply {id : String} (stored : Store.getWorkflow id s = (.ok (some w), s₁)) :
    getWorkflow id (s, a) = (.ok w, s₁, a) := by
  rw [getWorkflow, Action.bind_apply, Action.onFirst_apply, stored]
  rfl

/-- The list is that of the document that was found. -/
theorem availableEvents_apply (found : Store.getDocument id s = (.ok (some d), s₁))
    (stored : Store.getWorkflow d.workflowId s₁ = (.ok (some w), s₂))
    (compiled : Machine.ofWorkflow w = .ok m) :
    availableEvents id roles (s, a) = (.ok ⟨d.id, d.current, d.events m roles⟩, s₂, a) := by
  rw [availableEvents, Action.bind_apply, getDocument, Action.bind_apply, Action.onFirst_apply,
    found]
  dsimp only [Action.pure_apply]
  rw [Action.bind_apply, getMachine, Action.bind_apply, getWorkflow_apply stored]
  dsimp only
  rw [reporting_apply, machineOf_apply, Workflow.machine_eq_ok.2 compiled]
  rfl

/-- An event moves the document that was found, and then the store writes it. -/
theorem applyEvent_apply {write : String → Document → Action σ Unit}
    (modifies : Store.Modifies write) (found : Store.getDocument id s = (.ok (some d), s₁))
    (stored : Store.getWorkflow d.workflowId s₁ = (.ok (some w), s₂))
    (compiled : Machine.ofWorkflow w = .ok m) :
    (applyEvent now id event roles (s, a)).1 = match d.fire m event roles now with
      | .error f => .error f
      | .ok d' => (write id d' s₂).1.map fun _ => d' := by
  simp only [applyEvent, reporting_apply, Action.bind_apply, modifies.modifyDocumentThen,
    modifyThen, Action.onFirst_apply, found, getWorkflow_apply stored, machineOf_apply,
    Workflow.machine_eq_ok.2 compiled, Action.ofExcept_apply]
  cases d.fire m event roles now with
  | error f => rfl
  | ok d' =>
    simp only [Action.pure_apply, Action.onFirst_apply]
    obtain ⟨_ | _, s₃⟩ := write id d' s₂ <;> rfl

end

/-- For every document with a workflow that has a machine, the events are listed, increasing
strictly, and an event is in the list just if firing it is not denied. Firing an event of the list
fails only if a time of the new state is out of range or the store does not write the document. -/
def EventsAgree [Store σ] (write : String → Document → Action σ Unit) (s : σ) : Prop :=
  ∀ (a : Ambient) (now : Instant) (id event : String) (roles : RoleSet) (d : Document)
    (w : Workflow) (m : Machine) (s₁ s₂ : σ),
    Store.getDocument id s = (.ok (some d), s₁) →
    Store.getWorkflow d.workflowId s₁ = (.ok (some w), s₂) →
    Machine.ofWorkflow w = .ok m →
    let moved := (applyEvent now id event roles (s, a)).1
    ∃ available, (availableEvents id roles (s, a)).1 = .ok available ∧
      available.events.Pairwise (· < ·) ∧
      (event ∈ available.events ↔ ∀ f, moved = .error f → f.deniesEvent = false) ∧
      (event ∈ available.events → ∀ f, moved = .error f →
        (∃ t, m.transition? d.current event = some t ∧ m.OutOfRange t.target now) ∨
        ∃ d', d.fire m event roles now = .ok d' ∧ (write id d' s₂).1 = .error f)

theorem eventsAgree [Store σ] {write : String → Document → Action σ Unit}
    (modifies : Store.Modifies write)
    (grants : ∀ id d s f, (write id d s).1 = .error f → f.deniesEvent = false) (s : σ) :
    EventsAgree write s := by
  intro a now id event roles d w m s₁ s₂ found stored compiled moved
  have moved_eq : moved = _ := applyEvent_apply modifies found stored compiled
  refine ⟨_, by rw [availableEvents_apply found stored compiled],
    Document.events_increasing compiled, ?_⟩
  rw [Document.mem_events compiled]
  -- by what the move itself comes to
  by_cases accepted : ∃ t, d.Accepts m event roles t
  · obtain ⟨t, accepts⟩ := accepted
    obtain ⟨d', fired⟩ | ⟨f', fired, late, granted⟩ := Document.fire_available now accepts
    · have written (f : Failure) (h : moved = .error f) : (write id d' s₂).1 = .error f := by
        rw [moved_eq, fired] at h
        exact map_eq_error.1 h
      exact ⟨⟨fun _ f h => grants _ _ _ f (written f h), fun _ => ⟨t, accepts⟩⟩,
        fun _ f h => .inr ⟨d', fired, written f h⟩⟩
    · rw [fired] at moved_eq
      have same (f : Failure) (h : moved = .error f) : f' = f := Except.error.inj (moved_eq ▸ h)
      exact ⟨⟨fun _ f h => same f h ▸ granted, fun _ => ⟨t, accepts⟩⟩,
        fun _ f _ => .inl ⟨t, accepts.2.1, late⟩⟩
  · obtain ⟨f, fired, denied⟩ := Document.fire_denied now accepted
    rw [fired] at moved_eq
    refine ⟨⟨fun h => absurd h accepted, fun h => ?_⟩, fun h => absurd h accepted⟩
    rw [h f moved_eq] at denied
    cases denied

/-- Whatever a store keeps, and whether or not the workflow of a document was ever checked, the
events that are listed for an actor are those that the actor is not denied: for records in memory,
in two maps, in files on a disk with any faults, and in any store that has nothing but the plain
operations and whose update does not deny an event by itself. -/
theorem events_agree :
    (∀ s : MemoryStore, EventsAgree MemoryStore.writeDocument s) ∧
    (∀ s : PlainStore, EventsAgree (fun _ => Store.updateDocument) s) ∧
    (∀ s : FileStore, EventsAgree (fun _ => FileStore.writeDocument) s) ∧
    ∀ {σ : Type} [Store σ], Store.Plain σ →
      (∀ (d : Document) (s : σ) f, (Store.updateDocument d s).1 = .error f →
        f.deniesEvent = false) →
      ∀ s : σ, EventsAgree (fun _ => Store.updateDocument) s := by
  refine ⟨?_, ?_, ?_, ?_⟩
  · exact eventsAgree MemoryStore.modifies fun _ _ _ _ failed => nomatch failed
  · exact eventsAgree PlainStore.plain.modifies fun _ _ _ _ failed => nomatch failed
  · exact eventsAgree FileStore.modifies fun _ _ _ _ failed =>
      FileStore.writeDocument_grants failed
  · intro σ _ plain grants
    exact eventsAgree plain.modifies fun _ d s f failed => grants d s f failed

/-- A workflow that was never checked: a transition leads to a state that is not declared, and one
leaves the terminal state. -/
def unchecked : Workflow where
  id := "w"
  definition :=
    { name := "u"
      states := [⟨"Open", true, false⟩, ⟨"Done", false, true⟩]
      transitions := [⟨"Open", "Done", "end", .ofList ["ed"]⟩, ⟨"Open", "Lost", "skip", .empty⟩,
        ⟨"Done", "Open", "again", .empty⟩]
      deadlines := .empty
      reapproval := none }
  createdAt := .epoch

/-- Records in memory with a document of that workflow. -/
def uncheckedRecords : MemoryStore where
  workflows := .ofList [("w", unchecked)]
  documents := .ofList [("d", { Document.create "w" "Open" .null .epoch with id := "d" })]
  workflowIds := 0
  documentIds := 0
  ids := .numbering

/-- An actor without roles may lead the document to the state that is not declared, and is denied
the event behind the gate. -/
theorem unchecked_events_agree :
    (availableEvents "d" .empty (uncheckedRecords, .start true)).1 = .ok ⟨"d", "Open", ["skip"]⟩ ∧
    (∀ f, (applyEvent .epoch "d" "skip" .empty (uncheckedRecords, .start true)).1 = .error f →
      f.deniesEvent = false) ∧
    ¬ ∀ f, (applyEvent .epoch "d" "end" .empty (uncheckedRecords, .start true)).1 = .error f →
      f.deniesEvent = false := by
  have listed : (availableEvents "d" .empty (uncheckedRecords, .start true)).1 =
      .ok ⟨"d", "Open", ["skip"]⟩ := rfl
  have agree (event : String) := events_agree.1 uncheckedRecords (.start true) .epoch "d" event
    .empty _ unchecked _ uncheckedRecords uncheckedRecords rfl rfl rfl
  refine ⟨listed, ?_, ?_⟩
  · obtain ⟨_, listed', -, iff, -⟩ := agree "skip"
    cases listed.symm.trans listed'
    exact iff.1 (by decide)
  · obtain ⟨_, listed', -, iff, -⟩ := agree "end"
    cases listed.symm.trans listed'
    exact fun granted => absurd (iff.2 granted) (by decide)

end Engine

end Signoff
