import Signoff.Proofs.Engine.Memory
import Signoff.Proofs.Store.Agreement

/-!
# The engine on stores that agree

On two stores of which one simulates the other every operation of the engine gives the same result,
the same timers and the same log.
-/

namespace Signoff

open Signoff.Action

namespace Engine

variable {σ τ α : Type} {P Q : σ → τ → Prop} {Good : α → Prop}

theorem reporting_agree {P : σ × Ambient → τ × Ambient → Prop} {a : Operation σ α}
    {b : Operation τ α} (h : Agree P (Beside Q) Good a b) :
    Agree P (Beside Q) Good (reporting a) (reporting b) := by
  intro s t hP
  obtain ⟨same, left_, good⟩ := h hP
  rw [reporting_apply, reporting_apply]
  generalize a s = out at same left_ good ⊢
  generalize b t = out' at same left_ ⊢
  obtain ⟨r, s', w⟩ := out
  obtain ⟨r', t', w'⟩ := out'
  obtain rfl : r = r' := same
  obtain ⟨related, rfl⟩ : Q s' t' ∧ w = w' := left_
  cases r with
  | error f => exact ⟨rfl, ⟨related, rfl⟩, nofun⟩
  | ok x => exact ⟨rfl, ⟨related, rfl⟩, good⟩

theorem machineOf_agree {P : σ × Ambient → τ × Ambient → Prop} (w : Workflow) :
    Agree P P (fun _ => True) (machineOf w) (machineOf w) :=
  agree_ofExcept fun _ _ => trivial

variable [Store σ] [Store τ] {put : String → Document → Action σ Unit}
  {put' : String → Document → Action τ Unit} {Id : String → Prop} {Data : Value → Prop}
  {Stored : String → Document → Prop} (sim : Store.Simulates put put' Id Data Stored P Q)
include sim

theorem getWorkflow_agree {id : String} (hid : Id id) :
    Agree (Beside P) (Beside P) (fun _ => True) (getWorkflow id) (getWorkflow id) := by
  refine (sim.getWorkflow hid).onFirst.bind (fun h => h) fun found _ => ?_
  cases found with
  | none => exact agree_throw _
  | some w => exact agree_pure trivial

theorem getMachine_agree {id : String} (hid : Id id) :
    Agree (Beside P) (Beside P) (fun _ => True) (getMachine id) (getMachine id) :=
  (getWorkflow_agree sim hid).bind (fun h => h) fun w _ => reporting_agree (machineOf_agree w)

theorem getDocument_agree {id : String} (hid : Id id) :
    Agree (Beside P) (Beside P) (Stored id) (getDocument id) (getDocument id) := by
  refine (sim.getDocument hid).onFirst.bind (fun h => h) fun found stored => ?_
  cases found with
  | none => exact agree_throw _
  | some d => exact agree_pure (stored d rfl)

theorem availableEvents_agree {id : String} (hid : Id id) (roles : RoleSet) :
    Agree (Beside P) (Beside P) (fun _ => True) (availableEvents id roles)
      (availableEvents id roles) :=
  (getDocument_agree sim hid).bind (fun h => h) fun _ stored =>
    (getMachine_agree sim (sim.workflowId stored)).bind (fun h => h) fun _ _ => agree_pure trivial

theorem stays {x : σ × Ambient} {y : τ × Ambient} (h : Beside P x y) : Beside Q x y :=
  ⟨sim.still h.1, h.2⟩

theorem createWorkflow_agree (now : Instant) (d : Definition) :
    Agree (Beside P) (Beside Q) (fun _ => True) (createWorkflow now d) (createWorkflow now d) := by
  unfold createWorkflow
  refine (Agree.forIn (fun state _ => ?_) _).bind (stays sim) fun _ _ => ?_
  · exact (agree_changeSecond _).bind (fun h => h) fun _ _ => agree_pure trivial
  · cases accepted : d.accept now with
    | error e => exact (agree_throw _).weaken (stays sim) fun _ good => good
    | ok w =>
      have noId : w.id.isEmpty = true := by
        rw [(Definition.accept_eq_ok.1 accepted).2]
        rfl
      exact (reporting_agree (machineOf_agree w)).bind (stays sim) fun _ _ =>
        (sim.saveWorkflow noId).onFirst

theorem createDocument_agree (now : Instant) {workflowId : String} (hid : Id workflowId)
    {data : Value} (hdata : Data data) :
    Agree (Beside P) (Beside Q) (fun _ => True) (createDocument now workflowId data)
      (createDocument now workflowId data) := by
  unfold createDocument
  refine (getMachine_agree sim hid).bind (stays sim) fun m _ => ?_
  refine (agree_ofExcept fun _ _ => trivial).bind (stays sim) fun dueAt _ => ?_
  refine (agree_ofExcept fun _ _ => trivial).bind (stays sim) fun nextReapproval _ => ?_
  dsimp only
  rw [sim.joins.createDocumentThen, sim.joins'.createDocumentThen]
  refine (createThen_agree ?_ _).bind (fun h => h) fun _ _ => agree_pure trivial
  exact sim.createDocument hid hdata

theorem applyEvent_agree (now : Instant) {id : String} (hid : Id id) (event : String)
    (roles : RoleSet) :
    Agree (Beside P) (Beside Q) (fun _ => True) (applyEvent now id event roles)
      (applyEvent now id event roles) := by
  unfold applyEvent
  refine reporting_agree ?_
  rw [sim.joins.modifyDocumentThen_eq, sim.joins'.modifyDocumentThen_eq]
  refine (modifyThen_agree sim.still (sim.getDocument hid) (fun d stored => ?_)
    (fun d stored => sim.put stored) _).bind (fun h => h) fun _ _ => agree_pure trivial
  refine (getWorkflow_agree sim (sim.workflowId stored)).bind (fun h => h) fun w _ => ?_
  refine (machineOf_agree w).bind (fun h => h) fun m _ => ?_
  have moves (d' : Document) (fired : d.fire m event roles now = .ok d') : Stored id d' :=
    sim.moved stored (Document.fire_sameOrigin fired)
  exact (agree_ofExcept moves).bind (fun h => h) fun d' moved => agree_pure moved

end Engine

end Signoff
