import Signoff.Proofs.Engine.Memory
import Signoff.Proofs.Store.Sparing

/-!
# The engine on sparing stores

On a sparing store the operations of the engine that only look keep what is seen of the records and
the timers (`seen`), and the others spare it: all that can fail comes before the one operation of
the store that changes something, and that one spares the records itself.

* `Engine.getWorkflow_keeps`, `getDocument_keeps`, `availableEvents_keeps`
* `Engine.createWorkflow_spares`, `createDocument_spares`, `applyEvent_spares`
-/

namespace Signoff

open Signoff.Action

variable {σ α γ : Type} {view : σ → γ}

/-- What is seen of a state of the service: the records through a view, and the timers. -/
def seen (view : σ → γ) : σ × Ambient → γ × Option TimerQueue := fun x => (view x.1, x.2.timers)

theorem Action.Keeps.seen {a : Engine.Operation σ α} (h : Keeps (beside view) a) :
    Keeps (seen view) a :=
  h.comp fun x => (x.1, x.2.timers)

theorem Action.Spares.seen {a : Engine.Operation σ α} (h : Spares (beside view) a) :
    Spares (seen view) a :=
  h.comp fun x => (x.1, x.2.timers)

namespace Engine

theorem reporting_keeps {a : Operation σ α} (h : Keeps (seen view) a) :
    Keeps (seen view) (reporting a) := by
  intro s
  have kept := h s
  rw [reporting_apply]
  generalize a s = out at kept ⊢
  obtain ⟨f | x, s'⟩ := out
  · rw [← kept]
    exact congrArg ((view s'.1, ·)) (Ambient.report_timers s'.2 f)
  · exact kept

theorem reporting_spares {a : Operation σ α} (h : Spares (seen view) a) :
    Spares (seen view) (reporting a) := by
  intro s e failed
  have spared := h s
  rw [reporting_apply] at failed ⊢
  generalize a s = out at spared failed ⊢
  obtain ⟨f | x, s'⟩ := out
  · rw [← spared f rfl]
    exact congrArg ((view s'.1, ·)) (Ambient.report_timers s'.2 f)
  · cases failed

theorem machineOf_keeps {δ : Type} {see : σ × Ambient → δ} (w : Workflow) :
    Keeps see (machineOf w) :=
  keeps_ofExcept _

variable [Store σ] (sparing : Store.Sparing view)
include sparing

theorem getWorkflow_keeps (id : String) : Keeps (beside view) (getWorkflow id) := by
  refine (sparing.getWorkflow id).onFirst.bind fun found => ?_
  cases found with
  | none => exact keeps_throw _
  | some w => exact keeps_pure _

theorem getDocument_keeps (id : String) : Keeps (seen view) (getDocument id) := by
  refine (sparing.getDocument id).onFirst.seen.bind fun found => ?_
  cases found with
  | none => exact keeps_throw _
  | some d => exact keeps_pure _

theorem getMachine_keeps (id : String) : Keeps (seen view) (getMachine id) :=
  (getWorkflow_keeps sparing id).seen.bind fun w => reporting_keeps (machineOf_keeps w)

theorem availableEvents_keeps (id : String) (roles : RoleSet) :
    Keeps (seen view) (availableEvents id roles) :=
  (getDocument_keeps sparing id).bind fun d =>
    (getMachine_keeps sparing d.workflowId).bind fun _ => keeps_pure _

theorem createWorkflow_spares (now : Instant) (d : Definition) :
    Spares (seen view) (createWorkflow now d) := by
  unfold createWorkflow
  refine Keeps.bind_spares (Keeps.forIn (fun state _ => ?_) _) fun _ => ?_
  · -- a warning goes into the log, where it is not seen
    exact Keeps.bind (fun _ => rfl) fun _ => keeps_pure _
  · cases d.accept now with
    | error e => exact (keeps_throw _).spares
    | ok w =>
      refine (reporting_keeps (machineOf_keeps w)).bind_spares fun _ => ?_
      exact (sparing.saveWorkflow w).onFirst.seen

theorem createDocument_spares (now : Instant) (workflowId : String) (data : Value) :
    Spares (seen view) (createDocument now workflowId data) := by
  unfold createDocument
  refine (getMachine_keeps sparing workflowId).bind_spares fun m => ?_
  refine (keeps_ofExcept _).bind_spares fun dueAt => ?_
  refine (keeps_ofExcept _).bind_spares fun nextReapproval => ?_
  exact (sparing.createDocumentThen _ _).seen.bind_succeeds fun _ => fun _ => ⟨_, rfl⟩

theorem applyEvent_spares (now : Instant) (id event : String) (roles : RoleSet) :
    Spares (seen view) (applyEvent now id event roles) := by
  unfold applyEvent
  refine reporting_spares ?_
  refine (sparing.modifyDocumentThen id _ _ fun d => ?_).seen.bind_succeeds
    fun _ => fun _ => ⟨_, rfl⟩
  refine (getWorkflow_keeps sparing d.workflowId).bind fun w => ?_
  refine (machineOf_keeps w).bind fun m => ?_
  exact (keeps_ofExcept _).bind fun _ => keeps_pure _

end Engine

end Signoff
