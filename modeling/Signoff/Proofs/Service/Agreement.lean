import Signoff.Proofs.Engine.Agreement
import Signoff.Proofs.Service.Refusal

/-!
# The service on stores that agree

On two stores of which one simulates the other every request is answered the same, and leaves the
same timers and the same log, if the request asks for ids and brings data for which the stores agree
(`Request.Names`). What the service says about itself names its store, which is left out where
answers are compared (`Response.toldTo`).
-/

namespace Signoff

open Signoff.Action

/-- The ids of records that a request names and the data that it brings are of some kind. -/
def Request.Names (r : Request) (Id : String → Prop) (Data : Value → Prop) : Prop :=
  match r.operation with
  | .getWorkflow => ∀ p, r.read? GetWorkflowParams.schema = some p → Id p.workflowId
  | .createDocument =>
    ∀ p, r.read? CreateDocumentParams.schema = some p → Id p.workflowId ∧ Data p.data
  | .getDocument => ∀ p, r.read? GetDocumentParams.schema = some p → Id p.documentId
  | .applyEvent => ∀ p, r.read? ApplyEventParams.schema = some p → Id p.documentId
  | .availableEvents => ∀ p, r.read? AvailableEventsParams.schema = some p → Id p.documentId
  | _ => True

theorem Request.names_any (r : Request) : r.Names (fun _ => True) (fun _ => True) := by
  unfold Request.Names
  cases r.operation <;> simp

/-- A result without the name of the store. -/
def withoutBackend (v : Value) : Value :=
  match v.json with
  | .object members => .ofJson (.object (members.filter fun x => x.1 != "storage_backend"))
  | _ => v

/-- What a response tells whoever made a request, but for the name of the store if the request asks
what the service says about itself. -/
def Response.toldTo (r : Request) (response : Response) : Response :=
  if r.operation = .info then { response with result := response.result.map withoutBackend }
  else response

namespace Service

variable {σ τ α β : Type} {P Q : σ → τ → Prop} {Good : α → Prop}

theorem engine_agree {P Q : σ × Ambient → τ × Ambient → Prop} {a : Engine.Operation σ α}
    {b : Engine.Operation τ α} (h : Agree P Q Good a b) : Agree P Q Good (engine a) (engine b) := by
  intro s t hP
  obtain ⟨same, left_, good⟩ := h hP
  rw [engine_apply, engine_apply, same]
  exact ⟨rfl, left_, fun x e => good x (same.trans (mapError_eq_ok.1 e))⟩

theorem readParams_agree {P : σ × Ambient → τ × Ambient → Prop} (schema : Json.Schema α)
    (r : Request) :
    Agree P P (fun p => r.read? schema = some p) (readParams schema r.params)
      (readParams schema r.params) := by
  intro s t hP
  unfold readParams Request.read?
  cases schema.ofValue (if r.params.isNull = true then .ofJson (.object []) else r.params) with
  | ok p => exact ⟨rfl, hP, fun _ e => by cases e; rfl⟩
  | error e => exact ⟨rfl, hP, nofun⟩

/-- Parameters for operations of the engine that agree, and a result made from theirs. -/
theorem agree_of_engine {P Q : σ × Ambient → τ × Ambient → Prop} (schema : Json.Schema α)
    (r : Request) (stays : ∀ {s t}, P s t → Q s t) {op : α → Engine.Operation σ β}
    {op' : α → Engine.Operation τ β}
    (h : ∀ p, r.read? schema = some p → Agree P Q (fun _ => True) (op p) (op' p))
    (result : β → Value) :
    Agree P Q (fun _ => True)
      (do
        let p ← readParams schema r.params
        let b ← engine (op p)
        return result b : Operation σ Value)
      (do
        let p ← readParams schema r.params
        let b ← engine (op' p)
        return result b : Operation τ Value) :=
  (readParams_agree schema r).bind stays fun p read =>
    (engine_agree (h p read)).bind (fun h => h) fun _ _ => agree_pure trivial

/-- Polling timers does not touch the records. -/
theorem pollTimers_apply (now : Instant) (params : Value) (s : σ) (a : Ambient) :
    pollTimers now params (s, a) =
      ((pollTimers now params ((), a)).1, s, (pollTimers now params ((), a)).2.2) := by
  unfold pollTimers
  rw [bind_apply, bind_apply, get_apply, get_apply]
  dsimp only
  cases a.timers with
  | none => rfl
  | some q =>
    dsimp only
    rw [bind_apply, bind_apply]
    unfold readParams
    cases PollTimersParams.schema.ofValue
      (if params.isNull = true then .ofJson (.object []) else params) <;> rfl

variable [Store σ] [Store τ] {put : String → Document → Action σ Unit}
  {put' : String → Document → Action τ Unit} {Id : String → Prop} {Data : Value → Prop}
  {Stored : String → Document → Prop}

/-- Every operation but the one that tells about the service has the same result. -/
theorem perform_agree (sim : Store.Simulates put put' Id Data Stored P Q) (info : ServiceInfo)
    (name : String) (now : Instant) {r : Request} (names : r.Names Id Data)
    (other : r.operation ≠ .info) :
    Agree (Beside P) (Beside Q) (fun _ => True) (perform info now r.operation r.params)
      (perform { info with storage := name } now r.operation r.params) := by
  have stays {x : σ × Ambient} {y : τ × Ambient} (h : Beside P x y) : Beside Q x y :=
    Engine.stays sim h
  unfold Request.Names at names
  cases op : r.operation with
  | ping => exact (agree_pure trivial).weaken stays fun _ good => good
  | info => exact absurd op other
  | createWorkflow =>
    refine (readParams_agree _ r).bind stays fun p _ => ?_
    have same : Agree (Beside P) (Beside P) (fun _ => True)
        (readDefinition info p.definition : Operation σ Definition)
        (readDefinition { info with storage := name } p.definition) := by
      intro s t hP
      rw [readDefinition_apply, readDefinition_apply]
      exact ⟨rfl, hP, fun _ _ => trivial⟩
    refine same.bind stays fun d _ => ?_
    exact (engine_agree (Engine.createWorkflow_agree sim now d)).bind (fun h => h) fun _ _ =>
      agree_pure trivial
  | getWorkflow =>
    rw [op] at names
    exact (agree_of_engine _ r (fun h => h)
      (fun p read => Engine.getWorkflow_agree sim (names p read)) _).weaken stays fun _ good => good
  | createDocument =>
    rw [op] at names
    exact agree_of_engine _ r stays (fun p read =>
      Engine.createDocument_agree sim now (names p read).1 (names p read).2) _
  | getDocument =>
    rw [op] at names
    refine (agree_of_engine _ r (fun h => h) (fun p read => ?_) _).weaken stays fun _ good => good
    exact (Engine.getDocument_agree sim (names p read)).weaken (fun h => h) fun _ _ => trivial
  | applyEvent =>
    rw [op] at names
    exact agree_of_engine _ r stays (fun p read =>
      Engine.applyEvent_agree sim now (names p read) _ _) _
  | availableEvents =>
    rw [op] at names
    exact (agree_of_engine _ r (fun h => h) (fun p read =>
      Engine.availableEvents_agree sim (names p read) _) _).weaken stays fun _ good => good
  | pollTimers =>
    intro x y h
    obtain ⟨s, a⟩ := x
    obtain ⟨t, a'⟩ := y
    obtain ⟨related, rfl⟩ : P s t ∧ a = a' := h
    show (pollTimers now r.params (s, a)).1 = (pollTimers now r.params (t, a)).1 ∧ _
    rw [perform, perform, pollTimers_apply now r.params s, pollTimers_apply now r.params t]
    exact ⟨rfl, ⟨sim.still related, rfl⟩, fun _ _ => trivial⟩

omit [Store τ] in
/-- What the service says about itself. -/
theorem handle_info (info : ServiceInfo) (now : Instant) {r : Request} (op : r.operation = .info)
    (x : σ × Ambient) :
    handle info now r x = ((Response.ok r.id (.ofJson (.object [
      ("server_name", .string info.name), ("server_version", .string info.version),
      ("protocol_version", .ofNat protocolVersion), ("storage_backend", .string info.storage),
      ("timers_enabled", .bool x.2.timers.isSome),
      ("max_definition_bytes", .ofNat info.maxDefinitionBytes)]))).at_ now, x) := by
  unfold handle
  rw [op]
  rfl

/-- A request is answered the same, but for the name of the store. -/
theorem handle_agree (sim : Store.Simulates put put' Id Data Stored P Q) (info : ServiceInfo)
    (name : String) (now : Instant) {r : Request} (names : r.Names Id Data) {s : σ} {t : τ}
    (related : P s t) (a : Ambient) :
    let out := handle info now r (s, a)
    let out' := handle { info with storage := name } now r (t, a)
    out.1.toldTo r = out'.1.toldTo r ∧ Q out.2.1 out'.2.1 ∧ out.2.2 = out'.2.2 := by
  intro out out'
  by_cases op : r.operation = .info
  · rw [show out = _ from handle_info info now op (s, a),
      show out' = _ from handle_info _ now op (t, a)]
    refine ⟨?_, sim.still related, rfl⟩
    rw [Response.toldTo, Response.toldTo, if_pos op, if_pos op]
    rfl
  · obtain ⟨same, left_, -⟩ := perform_agree sim info name now names op (s := (s, a)) (t := (t, a))
      ⟨related, rfl⟩
    rw [Response.toldTo, Response.toldTo, if_neg op, if_neg op]
    show (handle info now r (s, a)).1 = (handle { info with storage := name } now r (t, a)).1 ∧
      Beside Q (handle info now r (s, a)).2 (handle { info with storage := name } now r (t, a)).2
    unfold handle
    generalize perform info now r.operation r.params (s, a) = done at same left_ ⊢
    generalize perform _ now r.operation r.params (t, a) = done' at same left_ ⊢
    obtain ⟨result, x⟩ := done
    obtain ⟨result', y⟩ := done'
    obtain rfl : result = result' := same
    cases result with
    | ok v => exact ⟨rfl, left_⟩
    | error fault => exact ⟨rfl, left_⟩

end Service

end Signoff
