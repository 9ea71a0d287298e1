import Signoff.Engine
import Signoff.Proofs.Workflow.Machine

/-!
# Documents that fit their workflow

A document fits a workflow (`Document.Fits`) if it is in a declared state and its times are those
that follow from when it was last touched. A document fits when it is made (`newDocument_fits`) and
each time it is moved (`Document.fire_fits`); what a move is says `Document.fire_eq_ok`.
-/

namespace Signoff

/-- The document is in a state of the workflow, and has the times that go with it. -/
structure Document.Fits (d : Document) (w : Workflow) : Prop where
  declared : w.definition.declares d.current = true
  dueAt : Duration.Ends d.updatedAt (w.definition.deadlines.get? d.current) d.dueAt
  nextReapproval :
    Duration.Ends d.updatedAt (w.definition.reapproval.map (·.after)) d.nextReapproval

namespace Engine

/-- A document as it is made in the initial state of a machine. -/
def newDocument (now : Instant) (workflowId : String) (m : Machine) (data : Value)
    (dueAt nextReapproval : Option Instant) : Document :=
  { Document.create workflowId m.initial data now with dueAt, nextReapproval }

theorem newDocument_fits {w : Workflow} {m : Machine} (h : Machine.ofWorkflow w = .ok m)
    {now : Instant} {dueAt nextReapproval : Option Instant}
    (due : m.dueAt m.initial now = .ok dueAt) (next : m.nextReapproval now = .ok nextReapproval)
    (workflowId id : String) (data : Value) :
    ({ newDocument now workflowId m data dueAt nextReapproval with id } : Document).Fits w where
  declared := (Machine.isInitial_initial h).declares
  dueAt := (Machine.dueAt_eq_ok h).1 due
  nextReapproval := (Machine.nextReapproval_eq_ok h).1 next

end Engine

namespace Document

variable {d d' : Document} {m : Machine} {event : String} {roles : RoleSet} {now : Instant}

/-- A move leaves a state that is not terminal along a transition whose gate lets the actor through,
and changes the state and the times only. -/
theorem fire_eq_ok :
    d.fire m event roles now = .ok d' ↔
      m.isTerminal d.current = false ∧ ∃ t dueAt nextReapproval,
        m.transition? d.current event = some t ∧ t.roles.permits roles = true ∧
        m.dueAt t.target now = .ok dueAt ∧ m.nextReapproval now = .ok nextReapproval ∧
        d' = { d with current := t.target, updatedAt := now, dueAt, nextReapproval } := by
  unfold fire
  cases hm : m.isTerminal d.current with
  | true => simp
  | false =>
    cases ht : m.transition? d.current event with
    | none => simp
    | some t =>
      cases hp : t.roles.permits roles with
      | false => simp [hp]
      | true =>
        simp only [Bool.false_eq_true, if_false, if_true, hp, bind_eq_ok, enter, pure, Except.pure,
          Except.ok.injEq, true_and, Option.some.injEq]
        constructor
        · rintro ⟨dueAt, hd, nextReapproval, hn, rfl⟩
          exact ⟨t, dueAt, nextReapproval, rfl, hp, hd, hn, rfl⟩
        · rintro ⟨_, dueAt, nextReapproval, rfl, -, hd, hn, rfl⟩
          exact ⟨dueAt, hd, nextReapproval, hn, rfl⟩

/-- What a move keeps. -/
structure SameOrigin (d d' : Document) : Prop where
  id : d'.id = d.id
  workflowId : d'.workflowId = d.workflowId
  data : d'.data = d.data
  createdAt : d'.createdAt = d.createdAt

theorem SameOrigin.refl (d : Document) : d.SameOrigin d := ⟨rfl, rfl, rfl, rfl⟩

theorem SameOrigin.trans {d d' d'' : Document} (h : d.SameOrigin d') (h' : d'.SameOrigin d'') :
    d.SameOrigin d'' :=
  ⟨h'.id.trans h.id, h'.workflowId.trans h.workflowId, h'.data.trans h.data,
    h'.createdAt.trans h.createdAt⟩

theorem fire_sameOrigin (h : d.fire m event roles now = .ok d') : d.SameOrigin d' := by
  obtain ⟨-, t, dueAt, nextReapproval, -, -, -, -, rfl⟩ := fire_eq_ok.1 h
  exact ⟨rfl, rfl, rfl, rfl⟩

theorem fire_updatedAt (h : d.fire m event roles now = .ok d') : d'.updatedAt = now := by
  obtain ⟨-, t, dueAt, nextReapproval, -, -, -, -, rfl⟩ := fire_eq_ok.1 h
  rfl

theorem fire_fits {w : Workflow} (compiled : Machine.ofWorkflow w = .ok m)
    (checked : w.definition.check = .ok ()) (h : d.fire m event roles now = .ok d') :
    d'.Fits w := by
  obtain ⟨-, t, dueAt, nextReapproval, ht, -, hd, hn, rfl⟩ := fire_eq_ok.1 h
  have ht := (Machine.transition?_eq_some_iff compiled).1 ht
  exact {
    declared := (Definition.check_declared checked t ht.1).2
    dueAt := (Machine.dueAt_eq_ok compiled).1 hd
    nextReapproval := (Machine.nextReapproval_eq_ok compiled).1 hn }

end Document

end Signoff
