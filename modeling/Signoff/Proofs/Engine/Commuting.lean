import Signoff.Proofs.Engine.Causes
import Signoff.Proofs.Store.Apart
import Signoff.Proofs.Timer.Alike

/-!
# Events on different documents

Firing an event looks at one document and its workflow to decide what comes of it
(`Engine.decision`), and then writes the moved document and schedules its intents, or does nothing
(`Engine.fired`). Where documents are apart and each stands under its own id, the decision about one
of them is not changed by what was written for another (`decision_fired`), and the two may be
written in either order (`fired_comm`).
-/

namespace Signoff

variable {σ ε : Type}

/-- What comes of a decision to move a document: the intents of the moved document in place of those
it had, or nothing. -/
def TimerQueue.hear (q : TimerQueue) : Except ε (Document × Machine) → TimerQueue
  | .ok (d, m) => q.replace d.id (Intent.ofDocument d m)
  | .error _ => q

namespace TimerQueue

variable {q : TimerQueue} {l : Ledger} {id : String} {r r' : Except ε (Document × Machine)}

theorem Tracks.hear (h : q.Tracks l) (r : Except ε (Document × Machine)) :
    ∃ l, (q.hear r).Tracks l := by
  cases r with
  | error e => exact ⟨l, h⟩
  | ok x => exact ⟨_, h.replace x.1.id _⟩

/-- Whoever is not moved keeps what is pending. -/
theorem Tracks.pendingFor_hear (h : q.Tracks l) (other : ∀ x, r = .ok x → id ≠ x.1.id) :
    (q.hear r).pendingFor id = q.pendingFor id := by
  cases r with
  | error e => rfl
  | ok x => exact h.pendingFor_replace_other (other x rfl) _

/-- Moves of different documents are scheduled the same in either order. -/
theorem Tracks.hear_comm (h : q.Tracks l)
    (apart : ∀ x x', r = .ok x → r' = .ok x' → x.1.id ≠ x'.1.id) :
    Alike ((q.hear r).hear r') ((q.hear r').hear r) := by
  cases r with
  | error e => exact ⟨h.hear r', h.hear r', fun _ => rfl⟩
  | ok x =>
    cases r' with
    | error e =>
      have moved : (q.replace x.1.id (Intent.ofDocument x.1 x.2)).Tracks _ := h.replace ..
      exact ⟨⟨_, moved⟩, ⟨_, moved⟩, fun _ => rfl⟩
    | ok x' => exact h.replace_comm (apart x x' rfl rfl) _ _

/-- Scheduling moves of documents that are told apart: in either order the same is pending for
everyone, what others have pending stays, and later polls are the same up to ties. -/
theorem Tracks.hear_both (h : q.Tracks l) {Named Named' : String → Prop}
    (named : ∀ x, r = .ok x → Named x.1.id) (named' : ∀ x, r' = .ok x → Named' x.1.id)
    (apart : ∀ id, Named id → ¬ Named' id) :
    (∀ id, ((q.hear r).hear r').pendingFor id = ((q.hear r').hear r).pendingFor id) ∧
    (∀ id, ¬ Named id → ¬ Named' id → ((q.hear r).hear r').pendingFor id = q.pendingFor id) ∧
    ∀ changes t, Intent.SameUpToTies ((((q.hear r).hear r').after changes).popDue t).1
      ((((q.hear r').hear r).after changes).popDue t).1 := by
  have alike : Alike ((q.hear r).hear r') ((q.hear r').hear r) :=
    h.hear_comm fun x x' hx hx' same => apart _ (named x hx) (same ▸ named' x' hx')
  refine ⟨alike.pending, fun id other other' => ?_,
    fun changes t => (alike.after changes).popDue_ties t⟩
  obtain ⟨l', h'⟩ := h.hear r
  have unmoved (x : Document × Machine) (hx : r = .ok x) : id ≠ x.1.id := by
    rintro rfl
    exact other (named x hx)
  have unmoved' (x : Document × Machine) (hx : r' = .ok x) : id ≠ x.1.id := by
    rintro rfl
    exact other' (named' x hx)
  rw [h'.pendingFor_hear unmoved', h.pendingFor_hear unmoved]

end TimerQueue

namespace Engine

section

variable [Store σ] (write : String → Document → Action σ Unit) (now : Instant) (id event : String)
  (roles : RoleSet) (s : σ)

/-- What is decided about a document on which an event is fired: the document as it moves with its
machine, or why it does not. -/
def decision : Except Failure (Document × Machine) :=
  match (Store.getDocument id s).1 with
  | .error f => .error f
  | .ok none => .error (.documentNotFound id)
  | .ok (some d) =>
    match (Store.getWorkflow d.workflowId s).1 with
    | .error f => .error f
    | .ok none => .error (.workflowNotFound d.workflowId)
    | .ok (some w) =>
      match w.machine with
      | .error f => .error f
      | .ok m => (d.fire m event roles now).map (·, m)

/-- What comes of firing an event: a document that moves is written. -/
def fired : Except Failure (Document × Machine) × σ :=
  match decision now id event roles s with
  | .error f => (.error f, s)
  | .ok (d, m) => ((write d.id d s).1.map fun _ => (d, m), (write d.id d s).2)

end

variable [Store σ] {write : String → Document → Action σ Unit} {I : σ → Prop} {now : Instant}
  {id event : String} {roles : RoleSet} {s : σ} {a : Ambient}

theorem fired_of_error {f : Failure} (h : decision now id event roles s = .error f) :
    fired write now id event roles s = (.error f, s) := by
  rw [fired, h]

theorem fired_of_ok {x : Document × Machine} (h : decision now id event roles s = .ok x) :
    fired write now id event roles s =
      ((write x.1.id x.1 s).1.map fun _ => x, (write x.1.id x.1 s).2) := by
  rw [fired, h]

variable (write now id event roles s) in
/-- Nothing is left of an event but the document that moves, written over what was there. -/
theorem fired_leaves :
    (fired write now id event roles s).2 = s ∨ ∃ x,
      decision now id event roles s = .ok x ∧
        (fired write now id event roles s).2 = (write x.1.id x.1 s).2 := by
  cases decided : decision now id event roles s with
  | error f => exact .inl (by rw [fired_of_error decided])
  | ok x => exact .inr ⟨x, rfl, by rw [fired_of_ok decided]⟩

/-- A decision is about the document with the id. -/
theorem decision_id (owned : Store.Owned id s) {d : Document} {m : Machine}
    (h : decision now id event roles s = .ok (d, m)) : d.id = id := by
  unfold decision at h
  split at h
  · cases h
  · cases h
  rename_i d₀ found
  split at h
  · cases h
  · cases h
  split at h
  · cases h
  obtain ⟨d', moved, same⟩ := map_eq_ok.1 h
  cases same
  exact (Document.fire_sameOrigin moved).id.trans (owned d₀ found)

theorem fired_id (owned : Store.Owned id s) {d : Document} {m : Machine}
    (h : (fired write now id event roles s).1 = .ok (d, m)) : d.id = id := by
  cases decided : decision now id event roles s with
  | error f =>
    rw [fired_of_error decided] at h
    cases h
  | ok x =>
    rw [fired_of_ok decided] at h
    obtain ⟨u, -, rfl⟩ := map_eq_ok.1 h
    exact decision_id owned decided

section

variable (apart : Store.Apart write I) (holds : I s)
include apart holds

variable (now event roles a) in
/-- Firing an event gives and leaves what comes of the decision. -/
theorem applyEvent_fired (owned : Store.Owned id s) :
    (applyEvent now id event roles (s, a)).1 =
        (fired write now id event roles s).1.map (·.1) ∧
      (applyEvent now id event roles (s, a)).2.1 = (fired write now id event roles s).2 ∧
      (applyEvent now id event roles (s, a)).2.2.timers =
        a.timers.map (·.hear (fired write now id event roles s).1) := by
  have looked : Store.getDocument id s = ((Store.getDocument id s).1, s) :=
    Prod.ext rfl (apart.getDocument holds id)
  have looked' (id : String) : Store.getWorkflow id s = ((Store.getWorkflow id s).1, s) :=
    Prod.ext rfl (apart.getWorkflow holds id)
  have idle : a.timers = a.timers.map fun q => q := (Option.map_id' ..).symm
  rw [applyEvent_eq apart.toModifies, looked]
  unfold fired decision
  rcases found : (Store.getDocument id s).1 with f | _ | d
  · exact ⟨rfl, rfl, (Ambient.report_timers ..).trans idle⟩
  · exact ⟨rfl, rfl, idle⟩
  dsimp only
  rw [looked']
  rcases (Store.getWorkflow d.workflowId s).1 with f | _ | w
  · exact ⟨rfl, rfl, (Ambient.report_timers ..).trans idle⟩
  · exact ⟨rfl, rfl, idle⟩
  dsimp only
  cases w.machine with
  | error f => exact ⟨rfl, rfl, (Ambient.report_timers ..).trans idle⟩
  | ok m =>
    dsimp only
    cases moved : d.fire m event roles now with
    | error f => exact ⟨rfl, rfl, (Ambient.report_timers ..).trans idle⟩
    | ok d' =>
      have own : d'.id = id := (Document.fire_sameOrigin moved).id.trans (owned d found)
      simp only [Except.map, own]
      rcases write id d' s with ⟨f | u, s'⟩
      · exact ⟨rfl, rfl, (Ambient.report_timers ..).trans idle⟩
      · exact ⟨rfl, rfl, rfl⟩

/-- What was written for another document does not change a decision. -/
theorem decision_write {d : Document} (ne : id ≠ d.id) :
    decision now id event roles (write d.id d s).2 = decision now id event roles s := by
  unfold decision
  simp only [apart.document holds d ne, apart.workflow holds d]

theorem fired_workflow (workflowId : String) :
    (Store.getWorkflow workflowId (fired write now id event roles s).2).1 =
      (Store.getWorkflow workflowId s).1 := by
  obtain same | ⟨x, -, left_⟩ := fired_leaves write now id event roles s
  · rw [same]
  · rw [left_, apart.workflow holds x.1 workflowId]

theorem fired_holds : I (fired write now id event roles s).2 := by
  obtain same | ⟨x, -, left_⟩ := fired_leaves write now id event roles s
  · rwa [same]
  · rw [left_]
    exact apart.written holds x.1

variable (owned : Store.Owned id s)
include owned

/-- Firing an event leaves what is found under every other id. -/
theorem fired_document {other : String} (ne : other ≠ id) :
    (Store.getDocument other (fired write now id event roles s).2).1 =
      (Store.getDocument other s).1 := by
  obtain same | ⟨x, decided, left_⟩ := fired_leaves write now id event roles s
  · rw [same]
  · rw [left_, apart.document holds x.1 (by rwa [decision_id owned decided])]

variable {id' event' : String} {roles' : RoleSet}

/-- What comes of an event on another document does not change a decision. -/
theorem decision_fired (ne : id' ≠ id) :
    decision now id' event' roles' (fired write now id event roles s).2 =
      decision now id' event' roles' s := by
  obtain same | ⟨x, decided, left_⟩ := fired_leaves write now id event roles s
  · rw [same]
  · rw [left_, decision_write apart holds (by rwa [decision_id owned decided])]

/-- Events on different documents come to the same in either order. -/
theorem fired_comm (ne : id ≠ id') (owned' : Store.Owned id' s) :
    (fired write now id event roles (fired write now id' event' roles' s).2).1 =
        (fired write now id event roles s).1 ∧
      (fired write now id event roles (fired write now id' event' roles' s).2).2 =
        (fired write now id' event' roles' (fired write now id event roles s).2).2 := by
  have same : decision now id event roles (fired write now id' event' roles' s).2 = _ :=
    decision_fired apart holds owned' ne
  have same' : decision now id' event' roles' (fired write now id event roles s).2 = _ :=
    decision_fired apart holds owned ne.symm
  cases decided : decision now id event roles s with
  | error f =>
    rw [fired_of_error (same.trans decided), fired_of_error decided]
    exact ⟨rfl, rfl⟩
  | ok x =>
    cases decided' : decision now id' event' roles' s with
    | error f =>
      rw [fired_of_error (same'.trans decided'), fired_of_error decided']
      exact ⟨rfl, rfl⟩
    | ok x' =>
      have ids : x.1.id ≠ x'.1.id := by
        rwa [decision_id owned decided, decision_id owned' decided']
      obtain ⟨result, left_⟩ := apart.write_comm holds ids
      rw [fired_of_ok (same.trans decided), fired_of_ok (same'.trans decided'),
        fired_of_ok decided, fired_of_ok decided']
      exact ⟨congrArg (Except.map _) result, left_⟩

end

end Engine

end Signoff
