import Signoff.Proofs.Engine.Agreement

/-!
# The engine does not see timers

What the engine gives and what it leaves in its store depend on the store alone: the timers and the
log beside it are told about documents, and never asked (`Action.Blind`). So every operation of the
engine is blind on a store that joins commitments in the general way
(`Engine.createDocument_blind`, `applyEvent_blind` and so on).
-/

namespace Signoff

namespace Action

variable {ε σ ω α β : Type}

/-- The first parts are the same. -/
def SameFirst (x y : σ × ω) : Prop := x.1 = y.1

/-- What the action gives and what it leaves in the first part does not depend on the second. -/
def Blind (a : ExceptT ε (StateM (σ × ω)) α) : Prop :=
  Agree SameFirst SameFirst (fun _ => True) a a

variable {a : ExceptT ε (StateM (σ × ω)) α}

theorem Blind.bind {f : α → ExceptT ε (StateM (σ × ω)) β} (ha : Blind a) (hf : ∀ x, Blind (f x)) :
    Blind (a >>= f) :=
  Agree.bind ha (fun h => h) fun x _ => hf x

theorem blind_pure (x : α) : Blind (pure x : ExceptT ε (StateM (σ × ω)) α) := agree_pure trivial

theorem blind_throw (e : ε) : Blind (throw e : ExceptT ε (StateM (σ × ω)) α) := agree_throw e

theorem blind_ofExcept (r : Except Failure α) : Blind (ofExcept r : Action (σ × ω) α) :=
  agree_ofExcept fun _ _ => trivial

theorem blind_onFirst (a : Action σ α) : Blind (a.onFirst : Action (σ × ω) α) := by
  rintro ⟨s, w⟩ ⟨_, w'⟩ rfl
  exact ⟨rfl, rfl, fun _ _ => trivial⟩

theorem blind_changeSecond (f : ω → ω) : Blind (changeSecond f : Action (σ × ω) Unit) :=
  fun _ _ same => ⟨rfl, same, fun _ _ => trivial⟩

end Action

open Signoff.Action

variable {σ ω α β : Type}

theorem createThen_blind (create : Document → Action σ String) (d : Document)
    (committed : Document → ω → ω) : Blind (createThen create d committed) :=
  (blind_onFirst _).bind fun _ => (blind_changeSecond _).bind fun _ => blind_pure _

theorem modifyThen_blind (get : String → Action σ (Option Document))
    (put : Document → Action σ Unit) (id : String)
    {update : Document → Action (σ × ω) (Document × β)} (updated : ∀ d, Blind (update d))
    (committed : Document → β → ω → ω) : Blind (modifyThen get put id update committed) := by
  refine (blind_onFirst _).bind fun found => ?_
  cases found with
  | none => exact blind_throw _
  | some d =>
    refine (updated d).bind fun x => (blind_onFirst _).bind fun _ => ?_
    exact (blind_changeSecond _).bind fun _ => blind_pure _

namespace Engine

theorem reporting_blind {op : Operation σ α} (h : Blind op) : Blind (reporting op) := by
  intro x y same
  obtain ⟨result, left_, -⟩ := h same
  rw [reporting_apply, reporting_apply]
  generalize op x = out at result left_ ⊢
  generalize op y = out' at result left_ ⊢
  obtain ⟨r, s, a⟩ := out
  obtain ⟨r', s', a'⟩ := out'
  obtain rfl : r = r' := result
  obtain rfl : s = s' := left_
  cases r <;> exact ⟨rfl, rfl, fun _ _ => trivial⟩

variable [Store σ]

theorem getWorkflow_blind (id : String) : Blind (getWorkflow id : Operation σ Workflow) := by
  refine (blind_onFirst _).bind fun found => ?_
  cases found with
  | none => exact blind_throw _
  | some w => exact blind_pure _

theorem getMachine_blind (id : String) : Blind (getMachine id : Operation σ Machine) :=
  (getWorkflow_blind id).bind fun _ => reporting_blind (blind_ofExcept _)

theorem getDocument_blind (id : String) : Blind (getDocument id : Operation σ Document) := by
  refine (blind_onFirst _).bind fun found => ?_
  cases found with
  | none => exact blind_throw _
  | some d => exact blind_pure _

theorem availableEvents_blind (id : String) (roles : RoleSet) :
    Blind (availableEvents id roles : Operation σ AvailableEvents) :=
  (getDocument_blind id).bind fun _ => (getMachine_blind _).bind fun _ => blind_pure _

theorem createWorkflow_blind (now : Instant) (d : Definition) :
    Blind (createWorkflow now d : Operation σ String) := by
  rintro ⟨s, a⟩ ⟨_, a'⟩ rfl
  rw [createWorkflow_apply, createWorkflow_apply]
  cases d.accept now with
  | error e => exact ⟨rfl, rfl, fun _ _ => trivial⟩
  | ok w =>
    dsimp only
    cases w.machine <;> exact ⟨rfl, rfl, fun _ _ => trivial⟩

variable {write : String → Document → Action σ Unit} (joins : Store.Joins write)
include joins

theorem createDocument_blind (now : Instant) (workflowId : String) (data : Value) :
    Blind (createDocument now workflowId data : Operation σ Document) := by
  refine (getMachine_blind workflowId).bind fun m => (blind_ofExcept _).bind fun dueAt =>
    (blind_ofExcept _).bind fun nextReapproval => ?_
  dsimp only
  rw [joins.createDocumentThen]
  exact (createThen_blind ..).bind fun _ => blind_pure _

theorem applyEvent_blind (now : Instant) (id event : String) (roles : RoleSet) :
    Blind (applyEvent now id event roles : Operation σ Document) := by
  unfold applyEvent
  refine reporting_blind ?_
  rw [joins.modifyDocumentThen_eq]
  refine (modifyThen_blind _ _ id (fun d => ?_) _).bind fun _ => blind_pure _
  refine (getWorkflow_blind d.workflowId).bind fun w => (blind_ofExcept _).bind fun m => ?_
  exact (blind_ofExcept _).bind fun _ => blind_pure _

end Engine

end Signoff
