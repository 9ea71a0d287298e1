import Signoff.Proofs.Service.Session

/-!
# Refused requests change nothing

A request that is refused leaves the records and the timers as they were, whatever refused it and
whatever store has the records.

* `perform_spares`: every operation of the service, on any sparing store.
* `refused_request_changes_nothing`: records in memory, in two maps, in files and in any store that
  has the plain operations only.
-/

namespace Signoff

open Signoff.Action

namespace Service

variable {σ α γ δ : Type} {view : σ → γ} {see : σ × Ambient → δ}

theorem engine_spares {a : Engine.Operation σ α} (h : Spares see a) : Spares see (engine a) := by
  intro s e failed
  rw [engine_apply] at failed ⊢
  cases hr : (a s).1 with
  | error f => exact h s f hr
  | ok x => rw [hr] at failed; cases failed

theorem readParams_keeps (schema : Json.Schema α) (params : Value) :
    Keeps see (readParams schema params : Operation σ α) := by
  unfold readParams
  dsimp only
  split
  · exact keeps_pure _
  · exact keeps_throw _

theorem readDefinition_keeps (info : ServiceInfo) (v : Value) :
    Keeps see (readDefinition info v : Operation σ Definition) := fun s => by
  rw [readDefinition_apply]

/-- Parameters for an operation of the engine, and a result made from its. -/
theorem spares_of_engine {β : Type} (schema : Json.Schema α) (params : Value)
    {op : α → Engine.Operation σ β} (h : ∀ p, Spares see (op p)) (result : β → Value) :
    Spares see (do
      let p ← readParams schema params
      let b ← engine (op p)
      return result b : Operation σ Value) :=
  (readParams_keeps schema params).bind_spares fun p =>
    (engine_spares (h p)).bind_succeeds fun _ => fun _ => ⟨_, rfl⟩

theorem pollTimers_spares (now : Instant) (params : Value) :
    Spares see (pollTimers now params : Operation σ Value) := by
  unfold pollTimers
  refine keeps_get.bind_spares fun s => ?_
  cases s.2.timers with
  | none => exact (keeps_throw _).spares
  | some q =>
    refine (readParams_keeps _ params).bind_spares fun p => Succeeds.spares ?_
    exact fun _ => ⟨_, rfl⟩

variable [Store σ] (sparing : Store.Sparing view)
include sparing

theorem perform_spares (info : ServiceInfo) (now : Instant) (operation : Signoff.Operation)
    (params : Value) :
    Spares (seen view) (perform info now operation params : Operation σ Value) := by
  cases operation with
  | ping => exact (keeps_pure _).spares
  | info => exact Succeeds.spares fun _ => ⟨_, rfl⟩
  | createWorkflow =>
    refine (readParams_keeps _ params).bind_spares fun p => ?_
    refine (readDefinition_keeps info p.definition).bind_spares fun d => ?_
    exact (engine_spares (Engine.createWorkflow_spares sparing now d)).bind_succeeds
      fun _ => fun _ => ⟨_, rfl⟩
  | getWorkflow =>
    exact spares_of_engine _ params (fun p => (Engine.getWorkflow_keeps sparing _).seen.spares) _
  | createDocument =>
    exact spares_of_engine _ params (fun p => Engine.createDocument_spares sparing now _ _) _
  | getDocument =>
    exact spares_of_engine _ params (fun p => (Engine.getDocument_keeps sparing _).spares) _
  | applyEvent =>
    exact spares_of_engine _ params (fun p => Engine.applyEvent_spares sparing now _ _ _) _
  | availableEvents =>
    exact spares_of_engine _ params (fun p => (Engine.availableEvents_keeps sparing _ _).spares) _
  | pollTimers => exact pollTimers_spares now params

/-- A refused request leaves what is seen of the store, and the timers. -/
theorem handle_refused {info : ServiceInfo} {now : Instant} {r : Request} {s : σ} {a : Ambient}
    (refused : (handle info now r (s, a)).1.status = .error) :
    view (handle info now r (s, a)).2.1 = view s ∧
      (handle info now r (s, a)).2.2.timers = a.timers := by
  have spared := perform_spares sparing info now r.operation r.params (s, a)
  unfold handle at refused ⊢
  generalize perform info now r.operation r.params (s, a) = out at spared refused ⊢
  obtain ⟨fault | v, s'⟩ := out
  · exact Prod.mk.inj (spared fault rfl)
  · cases refused

omit sparing

/-- A request that is refused, for whatever reason and with whatever fault of the disk, leaves every
record and the timers: in memory, in two maps, in files, and in any store that has nothing but the
plain operations and whose records these leave if they fail. -/
theorem refused_request_changes_nothing (info : ServiceInfo) (now : Instant) (r : Request)
    (a : Ambient) :
    (∀ s : MemoryStore, let out := handle info now r (s, a)
      out.1.status = .error → out.2.1 = s ∧ out.2.2.timers = a.timers) ∧
    (∀ s : PlainStore, let out := handle info now r (s, a)
      out.1.status = .error → out.2.1 = s ∧ out.2.2.timers = a.timers) ∧
    (∀ s : FileStore, let out := handle info now r (s, a)
      out.1.status = .error →
        (∀ id, out.2.1.disk.content? (FileStore.workflowPath out.2.1.folder id) =
          s.disk.content? (FileStore.workflowPath s.folder id)) ∧
        (∀ id, out.2.1.disk.content? (FileStore.documentPath out.2.1.folder id) =
          s.disk.content? (FileStore.documentPath s.folder id)) ∧
        out.2.1.folder = s.folder ∧ out.2.2.timers = a.timers) ∧
    ∀ {σ γ : Type} [Store σ] {view : σ → γ}, Store.Plain σ → Store.PlainSparing view → ∀ s : σ,
      let out := handle info now r (s, a)
      out.1.status = .error → view out.2.1 = view s ∧ out.2.2.timers = a.timers := by
  dsimp only
  refine ⟨?_, ?_, ?_, ?_⟩
  · intro s refused
    exact handle_refused MemoryStore.sparing refused
  · intro s refused
    exact handle_refused (PlainStore.plainSparing.sparing PlainStore.plain) refused
  · intro s refused
    obtain ⟨records, timers⟩ := handle_refused FileStore.sparing refused
    obtain ⟨folder, workflows, documents⟩ := FileStore.records_inj records
    exact ⟨workflows, documents, folder, timers⟩
  · intro σ γ _ view plain spares s refused
    exact handle_refused (spares.sparing plain) refused

/-- A store on a disk on which the fourth operation, the move of a record to its place, fails. -/
def failing : FileStore where
  disk :=
    { nodes := .ofList [("workflows", .folder), ("documents", .folder)]
      home := []
      faults := [none, none, none, some .faulty] }
  folder := ""
  workflowIds := 0
  documentIds := 0
  ids := .numbering

/-- A workflow that was written but could not be moved to its place is none of the records. A store
of two maps without documents has none to move. -/
theorem failed_move_changes_nothing :
    (let out := handle Session.reviewer .epoch Session.keepReview (failing, .start true);
      out.1.status = .error ∧
        (out.2.1.disk.content? (FileStore.workflowPath "" (workflowId 1) ++ ".tmp")).isSome = true ∧
        (∀ id, out.2.1.disk.content? (FileStore.workflowPath out.2.1.folder id) =
          failing.disk.content? (FileStore.workflowPath failing.folder id)) ∧
        out.2.2.timers = some .empty) ∧
    (let out := handle Session.reviewer .epoch Session.endReview (PlainStore.empty, .start true);
      out.1.status = .error ∧ out.2.1 = .empty ∧ out.2.2.timers = some .empty) := by
  dsimp only
  constructor
  · obtain ⟨refused, left_⟩ : (handle Session.reviewer .epoch Session.keepReview
        (failing, .start true)).1.status = .error ∧
      ((handle Session.reviewer .epoch Session.keepReview (failing, .start true)).2.1.disk.content?
        (FileStore.workflowPath "" (workflowId 1) ++ ".tmp")).isSome = true := by decide +kernel
    obtain ⟨-, -, files, -⟩ :=
      refused_request_changes_nothing Session.reviewer .epoch Session.keepReview (.start true)
    obtain ⟨workflows, -, -, timers⟩ := files failing refused
    exact ⟨refused, left_, workflows, timers⟩
  · have refused : (handle Session.reviewer .epoch Session.endReview
        (PlainStore.empty, .start true)).1.status = .error := by decide +kernel
    obtain ⟨-, -, -, plain⟩ :=
      refused_request_changes_nothing Session.reviewer .epoch Session.endReview (.start true)
    exact ⟨refused, plain PlainStore.plain PlainStore.plainSparing _ refused⟩

end Service

end Signoff
