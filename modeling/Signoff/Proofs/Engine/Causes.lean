import Signoff.Proofs.Engine.Availability
import Signoff.Proofs.Store.Causes

/-!
# Why the engine fails

On a store that accounts for its failures the engine does too: what it refuses by itself has nothing
to do with storage, and an actor is refused by a gate only.

* `Engine.RefusesEvent`: why firing an event fails, in the order in which it is found out;
  `applyEvent_refuses` says that there are no other reasons.
* `Engine.Blocks`: the transition whose gate keeps an actor from an event.
* `Engine.createDocument_yields`, `availableEvents_looks` and so on: the other operations, which
  refuse no actor.
-/

namespace Signoff

open Signoff.Action

variable {σ α : Type} {Cause : StorageError → Prop} {f : Failure}

/-- Storage has no part in a machine that cannot be made. -/
theorem Workflow.machine_hasCause {w : Workflow} (h : w.machine = .error f) : f.HasCause Cause := by
  obtain ⟨defect, -, rfl⟩ := mapError_eq_error.1 h
  cases defect <;> exact trivial

namespace Machine

variable {m : Machine} {state : String} {now : Instant}

theorem dueAt_hasCause (h : m.dueAt state now = .error f) : f.HasCause Cause := by
  rw [dueAt_eq, endOf_eq_error] at h
  obtain ⟨_, _, _, rfl⟩ := h
  exact trivial

theorem nextReapproval_hasCause (h : m.nextReapproval now = .error f) : f.HasCause Cause := by
  rw [nextReapproval_eq, endOf_eq_error] at h
  obtain ⟨_, _, _, rfl⟩ := h
  exact trivial

end Machine

/-- A move that fails is kept off by the gate of its transition, or for a reason that has nothing to
do with actors and storage. -/
theorem Document.fire_eq_error {d : Document} {m : Machine} {event : String} {roles : RoleSet}
    {now : Instant} (h : d.fire m event roles now = .error f) :
    (∃ t, m.isTerminal d.current = false ∧ m.transition? d.current event = some t ∧
      t.roles.permits roles = false ∧ f = .forbidden d.current event t.roles.toList) ∨
    f.HasCause Cause := by
  unfold fire at h
  split at h
  · cases h
    exact .inr trivial
  · rename_i running
    split at h
    · cases h
      exact .inr trivial
    · rename_i t found
      split at h
      · have timed : (do
            let dueAt ← m.dueAt t.target now
            let nextReapproval ← m.nextReapproval now
            return { d.enter t.target now with dueAt, nextReapproval }) = .error f := h
        simp only [bind_eq_error] at timed
        obtain late | ⟨_, -, late | ⟨_, -, ⟨⟩⟩⟩ := timed
        · exact .inr (Machine.dueAt_hasCause late)
        · exact .inr (Machine.nextReapproval_hasCause late)
      · rename_i shut
        cases h
        exact .inl ⟨t, by simpa using running, found, by simpa using shut, rfl⟩

namespace Engine

section

variable [Store σ] (write : String → Document → Action σ Unit) (now : Instant) (id event : String)
  (roles : RoleSet) (s : σ)

/-- Why firing an event fails, in the order in which it is found out. -/
inductive RefusesEvent (f : Failure) : Prop where
  | unread (failed : (Store.getDocument id s).1 = .error f)
  | missing (same : f = .documentNotFound id)
  | workflowUnread {d : Document} {s₁ : σ} (found : Store.getDocument id s = (.ok (some d), s₁))
      (failed : (Store.getWorkflow d.workflowId s₁).1 = .error f)
  | workflowMissing {workflowId : String} (same : f = .workflowNotFound workflowId)
  | noMachine {w : Workflow} (failed : w.machine = .error f)
  | denied {d : Document} {w : Workflow} {m : Machine} {s₁ s₂ : σ}
      (found : Store.getDocument id s = (.ok (some d), s₁))
      (stored : Store.getWorkflow d.workflowId s₁ = (.ok (some w), s₂))
      (compiled : Machine.ofWorkflow w = .ok m)
      (failed : d.fire m event roles now = .error f)
  | unwritten {d d' : Document} {w : Workflow} {s₁ s₂ : σ}
      (found : Store.getDocument id s = (.ok (some d), s₁))
      (stored : Store.getWorkflow d.workflowId s₁ = (.ok (some w), s₂))
      (failed : (write id d' s₂).1 = .error f)

end

variable [Store σ] {write : String → Document → Action σ Unit} {now : Instant} {id event : String}
  {roles : RoleSet} {s : σ} {a : Ambient}

/-- Firing an event, case by case in the order in which the cases are tried. -/
theorem applyEvent_eq (modifies : Store.Modifies write) :
    applyEvent now id event roles (s, a) = match Store.getDocument id s with
      | (.error f, s₁) => (.error f, s₁, a.report f)
      | (.ok none, s₁) => (.error (.documentNotFound id), s₁, a)
      | (.ok (some d), s₁) =>
        match Store.getWorkflow d.workflowId s₁ with
        | (.error f, s₂) => (.error f, s₂, a.report f)
        | (.ok none, s₂) => (.error (.workflowNotFound d.workflowId), s₂, a)
        | (.ok (some w), s₂) =>
          match w.machine with
          | .error f => (.error f, s₂, a.report f)
          | .ok m =>
            match d.fire m event roles now with
            | .error f => (.error f, s₂, a.report f)
            | .ok d' =>
              match write id d' s₂ with
              | (.error f, s₃) => (.error f, s₃, a.report f)
              | (.ok _, s₃) => (.ok d', s₃, a.schedule m d') := by
  simp only [applyEvent, reporting_apply, bind_apply, modifies.modifyDocumentThen, modifyThen,
    onFirst_apply]
  rcases Store.getDocument id s with ⟨f | _ | d, s₁⟩
  · rfl
  · rfl
  simp only [getWorkflow, bind_apply, onFirst_apply]
  rcases Store.getWorkflow d.workflowId s₁ with ⟨f | _ | w, s₂⟩
  · rfl
  · rfl
  simp only [pure_apply, machineOf_apply]
  cases w.machine with
  | error f => rfl
  | ok m =>
    simp only [ofExcept_apply]
    cases d.fire m event roles now with
    | error f => rfl
    | ok d' =>
      simp only [onFirst_apply]
      rcases write id d' s₂ with ⟨f | _, s₃⟩ <;> rfl

theorem applyEvent_refuses (modifies : Store.Modifies write)
    (h : (applyEvent now id event roles (s, a)).1 = .error f) :
    RefusesEvent write now id event roles s f := by
  rw [applyEvent_eq modifies] at h
  rcases found : Store.getDocument id s with ⟨f' | _ | d, s₁⟩ <;> simp only [found] at h
  · cases h
    exact .unread (by rw [found])
  · cases h
    exact .missing rfl
  rcases stored : Store.getWorkflow d.workflowId s₁ with ⟨f' | _ | w, s₂⟩ <;>
    simp only [stored] at h
  · cases h
    exact .workflowUnread found (by rw [stored])
  · cases h
    exact .workflowMissing rfl
  cases machine : w.machine with
  | error f' =>
    simp only [machine] at h
    cases h
    exact .noMachine machine
  | ok m =>
    cases fired : d.fire m event roles now with
    | error f' =>
      simp only [machine, fired] at h
      cases h
      exact .denied found stored (Workflow.machine_eq_ok.1 machine) fired
    | ok d' =>
      rcases written : write id d' s₂ with ⟨f' | _, s₃⟩ <;>
        simp only [machine, fired, written] at h
      · cases h
        exact .unwritten found stored (by rw [written])
      · cases h

/-- The transition that the document with an id would take on an event, and whose gate does not let
the actor through. -/
inductive Blocks (s : σ) (id event : String) (roles : RoleSet) (t : Transition) : Prop where
  | intro {d : Document} {w : Workflow} {m : Machine} {s₁ s₂ : σ}
      (found : Store.getDocument id s = (.ok (some d), s₁))
      (stored : Store.getWorkflow d.workflowId s₁ = (.ok (some w), s₂))
      (compiled : Machine.ofWorkflow w = .ok m) (running : m.isTerminal d.current = false)
      (taken : m.transition? d.current event = some t) (shut : t.roles.permits roles = false)

theorem Blocks.shut {t : Transition} (h : Blocks s id event roles t) :
    t.roles.permits roles = false := by
  cases h
  assumption

variable {Reached : σ → σ → Prop} {Cause : σ → StorageError → Prop}
  (accounts : Store.Accounts write Reached Cause)
include accounts

/-- An actor is refused by a gate, and every other failure is accounted for. -/
theorem applyEvent_hasCause (h : (applyEvent now id event roles (s, a)).1 = .error f) :
    (∃ t state, Blocks s id event roles t ∧ f = .forbidden state event t.roles.toList) ∨
      f.HasCause (Cause s) := by
  have started : Reached s s := accounts.start s
  have looked {d : Document} {s₁ : σ} (found : Store.getDocument id s = (.ok (some d), s₁)) :
      Reached s s₁ := by
    have kept := (accounts.getDocument s id s started).1
    rwa [found] at kept
  cases applyEvent_refuses accounts.toModifies h with
  | unread failed => exact .inr ((accounts.getDocument s id s started).2.2 f failed)
  | missing same => exact .inr (same ▸ trivial)
  | workflowUnread found failed =>
    exact .inr ((accounts.getWorkflow s _ _ (looked found)).2.2 f failed)
  | workflowMissing same => exact .inr (same ▸ trivial)
  | noMachine failed => exact .inr (Workflow.machine_hasCause failed)
  | denied found stored compiled failed =>
    refine (Document.fire_eq_error failed).imp_left fun ⟨t, running, taken, shut, same⟩ => ?_
    exact ⟨t, _, ⟨found, stored, compiled, running, taken, shut⟩, same⟩
  | @unwritten d d' w s₁ s₂ found stored failed =>
    have kept := (accounts.getWorkflow s d.workflowId s₁ (looked found)).1
    rw [stored] at kept
    exact .inr ((accounts.write s id _ _ kept).2 f failed)

variable (s)

/-- The store was reached by lookups, whatever is beside it. -/
abbrev Looked (Reached : σ → σ → Prop) (s : σ) : σ × Ambient → Prop :=
  Each (Reached s) fun _ => True

theorem getWorkflow_looks (id : String) :
    Ensures (Looked Reached s) (fun _ => True) (Failure.HasCause (Cause s)) (getWorkflow id) := by
  refine (accounts.getWorkflow s id).onFirst.bind fun found _ => ?_
  cases found with
  | none => exact ensures_throw trivial
  | some w => exact ensures_any w

theorem getMachine_looks (id : String) :
    Ensures (Looked Reached s) (fun _ => True) (Failure.HasCause (Cause s)) (getMachine id) := by
  refine (getWorkflow_looks s accounts id).bind fun w _ => ?_
  rintro ⟨s', a⟩ ⟨reached, -⟩
  rw [reporting_apply, machineOf_apply]
  cases machine : w.machine with
  | ok m => exact ⟨⟨reached, trivial⟩, fun _ _ => trivial, nofun⟩
  | error f =>
    exact ⟨⟨reached, trivial⟩, nofun, fun _ eq =>
      Except.error.inj eq ▸ Workflow.machine_hasCause machine⟩

theorem getDocument_looks (id : String) :
    Ensures (Looked Reached s) (fun _ => True) (Failure.HasCause (Cause s)) (getDocument id) := by
  refine (accounts.getDocument s id).onFirst.bind fun found _ => ?_
  cases found with
  | none => exact ensures_throw trivial
  | some d => exact ensures_any d

theorem availableEvents_looks (id : String) (roles : RoleSet) :
    Ensures (Looked Reached s) (fun _ => True) (Failure.HasCause (Cause s))
      (availableEvents id roles) :=
  (getDocument_looks s accounts id).bind fun d _ =>
    (getMachine_looks s accounts d.workflowId).bind fun _ _ => ensures_any _

theorem createWorkflow_yields (now : Instant) (d : Definition) :
    Yields (Looked Reached s) (fun _ => True) (Failure.HasCause (Cause s))
      (createWorkflow now d) := by
  rintro ⟨s', a⟩ ⟨reached, -⟩
  refine ⟨fun _ _ => trivial, fun f failed => ?_⟩
  rw [createWorkflow_apply] at failed
  cases accepted : d.accept now with
  | error e =>
    rw [accepted] at failed
    cases failed
    exact trivial
  | ok w =>
    cases machine : w.machine with
    | error f' =>
      simp only [accepted, machine] at failed
      cases failed
      exact Workflow.machine_hasCause machine
    | ok m =>
      simp only [accepted, machine] at failed
      exact (accounts.saveWorkflow s w s' reached).2 f failed

theorem createDocument_yields (now : Instant) (workflowId : String) (data : Value) :
    Yields (Looked Reached s) (fun _ => True) (Failure.HasCause (Cause s))
      (createDocument now workflowId data) := by
  unfold createDocument
  refine (getMachine_looks s accounts workflowId).bind_yields fun m _ => ?_
  refine (ensures_ofExcept fun _ => Machine.dueAt_hasCause).bind_yields fun dueAt _ => ?_
  refine (ensures_ofExcept fun _ => Machine.nextReapproval_hasCause).bind_yields
    fun nextReapproval _ => ?_
  dsimp only
  rw [accounts.createDocumentThen]
  exact (createThen_yields (accounts.createDocument s _) _).bind fun _ _ => yields_pure trivial

end Engine

end Signoff
