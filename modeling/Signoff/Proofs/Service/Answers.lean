import Signoff.Proofs.Engine.Causes
import Signoff.Proofs.RoleSet
import Signoff.Proofs.Service.Session

/-!
# What every answer looks like

Whatever is asked for and whatever is stored, a response answers its request, and carries a result
with the time of the service or an error with the status of its code (`Response.Answers`). An error
tells what it is about (`ResponseError.Explains`): if an actor is refused, the roles that the
transition in the way asks for, and whether trying again may help only if a disk did not work.

* `Service.perform_told`: what the operations give and why they fail.
* `Service.answers_well_formed`: the responses of the service, for every store.
-/

namespace Signoff

open Signoff.Action

/-- A fault has a cause in the storage if it is about storage, and does not refuse an actor. -/
def Fault.HasCause (Cause : StorageError → Prop) : Fault → Prop
  | .failure f => f.HasCause Cause
  | .storage e => Cause e
  | _ => True

/-- Trying again may help if the cause lies with a disk. -/
theorem StorageError.isRetryable_iff {c : StorageError} :
    c.isRetryable = true ↔ ∃ failed, c = .disk failed := by
  cases c with
  | disk e => exact ⟨fun _ => ⟨e, rfl⟩, fun _ => rfl⟩
  | json | corruption => exact ⟨nofun, nofun⟩

/-- What an error tells about its reasons: the causes that storage has, and the transitions that
block the request. -/
structure ResponseError.Explains (Cause : StorageError → Prop) (Blocks : Transition → Prop)
    (e : ResponseError) : Prop where
  /-- There are no details but for an actor who is refused. -/
  plain : e.code ≠ .forbidden → e.details = .empty
  /-- An actor who is refused is told the roles that the transition asks for. -/
  refused : e.code = .forbidden → ∃ t, Blocks t ∧ e.details =
    .ofList [("required_roles", .ofJson (.array (t.roles.toList.map .string)))]
  /-- Trying again may help if the cause lies with a disk, and not if a record is unreadable. -/
  storage : e.code = .storageError → ∃ c, Cause c ∧ e.message = c.toFailure.message ∧
    (e.retryable = true ↔ ∃ failed, c = .disk failed)
  /-- Where storage is not the matter, trying again does not help. -/
  lasting : e.code ≠ .storageError → e.retryable = false

/-- The response is one to the request, at a time of the service. -/
structure Response.Answers (now : Instant) (r : Request) (Cause : StorageError → Prop)
    (Blocks : Transition → Prop) (response : Response) : Prop where
  kind : response.kind = .response
  id : response.id = r.id
  granted : response.status = .ok →
    (∃ v, response.result = some v ∧ v.isNull = false) ∧ response.error = none ∧
      response.meta_ = ⟨some now, none⟩
  refused : response.status = .error →
    response.result = none ∧ ∃ e, response.error = some e ∧
      response.meta_ = ⟨none, some e.code.httpStatus⟩ ∧ e.Explains Cause Blocks

namespace Service

/-- The transition whose gate keeps the actor of a request from the event that it asks for. Its
roles are listed in increasing order, there are some, and the actor has none of them. -/
def BlockedBy {σ : Type} [Store σ] (s : σ) (r : Request) (t : Transition) : Prop :=
  ∃ p, r.operation = .applyEvent ∧ r.read? ApplyEventParams.schema = some p ∧
    Engine.Blocks s p.documentId p.event (.ofList p.roles) t ∧
    t.roles.toList.Pairwise (· < ·) ∧ t.roles.toList ≠ [] ∧ ∀ role ∈ t.roles.toList, role ∉ p.roles

variable {σ α β : Type}

/-! ## Errors and their reasons -/

/-- A fault that has a cause is told without details. -/
theorem errorOf_explains {Cause : StorageError → Prop} {Blocks : Transition → Prop} {fault : Fault}
    (h : fault.HasCause Cause) : (errorOf fault).Explains Cause Blocks := by
  have other {code : ErrorCode} {message : String} (granted : code ≠ .forbidden)
      (apart : code ≠ .storageError) :
      (ResponseError.mk code message false .empty).Explains Cause Blocks :=
    ⟨fun _ => rfl, fun about => absurd about granted, fun about => absurd about apart, fun _ => rfl⟩
  have storage {c : StorageError} (cause : Cause c) :
      (ResponseError.mk .storageError c.toFailure.message c.isRetryable .empty).Explains Cause
        Blocks :=
    ⟨fun _ => rfl, nofun, fun _ => ⟨c, cause, rfl, c.isRetryable_iff⟩, fun apart =>
      absurd rfl apart⟩
  cases fault with
  | failure f =>
    cases f with
    | storage reason retryable =>
      obtain ⟨c, cause, same⟩ := h
      cases same
      exact storage cause
    | forbidden => exact h.elim
    | _ => exact other nofun nofun
  | storage e => exact storage h
  | _ => exact other nofun nofun

theorem errorOf_forbidden_explains {Cause : StorageError → Prop} {Blocks : Transition → Prop}
    {t : Transition} (h : Blocks t) (state event : String) :
    (errorOf (.failure (.forbidden state event t.roles.toList))).Explains Cause Blocks where
  plain other := absurd rfl other
  refused _ := ⟨t, h, rfl⟩
  storage about := by cases about
  lasting _ := rfl

/-! ## The operations -/

/-- A result that is there. -/
def IsSome (v : Value) : Prop := v.isNull = false

theorem isSome_object (members : List (String × Json)) : IsSome (.ofJson (.object members)) := rfl

section

variable {K : σ × Ambient → Prop} {Cause : StorageError → Prop} {Good : α → Prop}

theorem engine_yields {op : Engine.Operation σ α}
    (h : Yields K Good (Failure.HasCause Cause) op) :
    Yields K Good (Fault.HasCause Cause) (engine op) := by
  intro x holds
  obtain ⟨good, fine⟩ := h x holds
  rw [engine_apply]
  refine ⟨fun y ok => good y (mapError_eq_ok.1 ok), fun fault refused => ?_⟩
  obtain ⟨f, failed, rfl⟩ := mapError_eq_error.1 refused
  exact fine f failed

theorem readParams_looks (schema : Json.Schema α) (params : Value) :
    Ensures K (fun _ => True) (Fault.HasCause Cause) (readParams schema params) := by
  unfold readParams
  dsimp only
  split
  · exact ensures_any _
  · exact ensures_throw trivial

theorem readDefinition_looks (info : ServiceInfo) (v : Value) :
    Ensures K (fun _ => True) (Fault.HasCause Cause) (readDefinition info v) := by
  intro x holds
  rw [readDefinition_apply]
  refine ⟨holds, fun _ _ => trivial, fun fault refused => ?_⟩
  have sized {size : Nat} {read : Except Json.Error Definition}
      (h : (if info.maxDefinitionBytes < size then .error (.tooLarge size info.maxDefinitionBytes)
        else (read.mapError unreadable).mapError .failure) = .error fault) :
      fault.HasCause Cause := by
    split at h
    · cases h
      exact trivial
    · obtain ⟨f, failed, rfl⟩ := mapError_eq_error.1 h
      obtain ⟨e, -, rfl⟩ := mapError_eq_error.1 failed
      exact trivial
  unfold definitionOf at refused
  generalize v.json = j at refused
  cases j <;> exact sized refused

/-- Parameters for an operation of the engine, and a result made from its. -/
theorem yields_of_engine (schema : Json.Schema α) (params : Value) {op : α → Engine.Operation σ β}
    (h : ∀ p, Yields K (fun _ => True) (Failure.HasCause Cause) (op p)) {result : β → Value}
    (some_ : ∀ b, IsSome (result b)) :
    Yields K IsSome (Fault.HasCause Cause) (do
      let p ← readParams schema params
      let b ← engine (op p)
      return result b : Operation σ Value) :=
  (readParams_looks schema params).bind_yields fun p _ =>
    (engine_yields (h p)).bind fun b _ => yields_pure (some_ b)

theorem pollTimers_yields (now : Instant) (params : Value) :
    Yields K IsSome (Fault.HasCause Cause) (pollTimers now params) := by
  refine ensures_get.bind_yields fun x _ => ?_
  cases x.2.timers with
  | none => exact (ensures_throw trivial).yields
  | some q =>
    refine (readParams_looks _ params).bind_yields fun p _ => ?_
    dsimp only
    have taken : Action.Succeeds (modify fun (x : σ × Ambient) =>
        (x.1, { x.2 with timers := some (q.popDue (p.now.getD now)).2 }) : Operation σ PUnit) :=
      fun _ => ⟨_, rfl⟩
    exact taken.yields.bind fun _ _ => yields_pure (isSome_object _)

end

section

variable [Store σ] {write : String → Document → Action σ Unit} {Reached : σ → σ → Prop}
  {Cause : σ → StorageError → Prop} (accounts : Store.Accounts write Reached Cause)
  (info : ServiceInfo) (now : Instant) {r : Request} (s : σ)
include accounts

/-- Every operation but the one that asks what an actor may do gives a result or fails for a cause
that is not about actors. -/
theorem perform_yields (other : r.operation ≠ .applyEvent) :
    Yields (Engine.Looked Reached s) IsSome (Fault.HasCause (Cause s))
      (perform info now r.operation r.params) := by
  cases op : r.operation with
  | ping => exact yields_pure rfl
  | info =>
    refine ensures_get.bind_yields fun x _ => ?_
    exact yields_pure rfl
  | createWorkflow =>
    refine (readParams_looks CreateWorkflowParams.schema r.params).bind_yields fun p _ =>
      (readDefinition_looks info p.definition).bind_yields fun d _ => ?_
    exact (engine_yields (Engine.createWorkflow_yields s accounts now d)).bind fun id _ =>
      yields_pure rfl
  | getWorkflow =>
    exact yields_of_engine GetWorkflowParams.schema r.params
      (fun p => (Engine.getWorkflow_looks s accounts p.workflowId).yields) fun _ => isSome_object _
  | createDocument =>
    exact yields_of_engine CreateDocumentParams.schema r.params
      (fun p => Engine.createDocument_yields s accounts now p.workflowId p.data) fun _ =>
        isSome_object _
  | getDocument =>
    exact yields_of_engine GetDocumentParams.schema r.params
      (fun p => (Engine.getDocument_looks s accounts p.documentId).yields) fun _ => isSome_object _
  | applyEvent => exact absurd op other
  | availableEvents =>
    exact yields_of_engine AvailableEventsParams.schema r.params
      (fun p => (Engine.availableEvents_looks s accounts p.documentId (.ofList p.roles)).yields)
      fun _ => isSome_object _
  | pollTimers => exact pollTimers_yields now r.params

omit accounts in
/-- A gate that does not let an actor through has roles, and none of the actor's. -/
theorem blockedBy_of_blocks {p : ApplyEventParams} {t : Transition}
    (op : r.operation = .applyEvent) (read : r.read? ApplyEventParams.schema = some p)
    (h : Engine.Blocks s p.documentId p.event (.ofList p.roles) t) : BlockedBy s r t := by
  have shut : ¬ t.roles.permits (.ofList p.roles) = true := by rw [h.shut]; exact Bool.false_ne_true
  rw [RoleSet.permits_iff, not_or] at shut
  obtain ⟨gated, alien⟩ := shut
  refine ⟨p, op, read, h, t.roles.toList_increasing, fun none_ => ?_, fun role asked has => ?_⟩
  · exact gated (List.isEmpty_iff.2 (List.map_eq_nil_iff.1 none_))
  · exact alien ⟨role, RoleSet.mem_toList.1 asked, RoleSet.contains_ofList_iff.2 has⟩

/-- The result is there, or it is told why there is none. -/
def Told (s : σ) (r : Request) (Cause : StorageError → Prop) (result : Except Fault Value) : Prop :=
  match result with
  | .ok v => IsSome v
  | .error fault => (errorOf fault).Explains Cause (BlockedBy s r)

theorem applyEvent_told (op : r.operation = .applyEvent) (a : Ambient) :
    Told s r (Cause s) (applyEvent now r.params (s, a)).1 := by
  rw [applyEvent, bind_apply]
  obtain ⟨p, read, params⟩ | ⟨fault, params⟩ := readParams_apply ApplyEventParams.schema r (s, a)
  · simp only [params, bind_apply, engine_apply]
    rcases fired : Engine.applyEvent now p.documentId p.event (.ofList p.roles) (s, a) with
      ⟨f | d, x⟩
    · show (errorOf (.failure f)).Explains (Cause s) (BlockedBy s r)
      obtain ⟨t, state, blocks, rfl⟩ | cause :=
        Engine.applyEvent_hasCause accounts (congrArg Prod.fst fired)
      · exact errorOf_forbidden_explains (blockedBy_of_blocks s op read blocks) state _
      · exact errorOf_explains cause
    · exact isSome_object _
  · have looked : Ensures (fun _ => True) (fun _ => True) (Fault.HasCause (Cause s))
        (readParams ApplyEventParams.schema r.params : Operation σ _) := readParams_looks _ _
    rw [params]
    exact errorOf_explains ((looked (s, a) trivial).2.2 fault (by rw [params]))

theorem perform_told (a : Ambient) :
    Told s r (Cause s) (perform info now r.operation r.params (s, a)).1 := by
  by_cases op : r.operation = .applyEvent
  · have told := applyEvent_told accounts now s op a
    rwa [show applyEvent now r.params (s, a) = perform info now r.operation r.params (s, a) by
      rw [op]; rfl] at told
  · obtain ⟨given, fails⟩ := perform_yields accounts info now s op (s, a)
      ⟨accounts.start s, trivial⟩
    cases result : (perform info now r.operation r.params (s, a)).1 with
    | ok v => exact given v result
    | error fault => exact errorOf_explains (fails fault result)

theorem handle_answers (a : Ambient) :
    (handle info now r (s, a)).1.Answers now r (Cause s) (BlockedBy s r) := by
  have told := perform_told accounts info now s a (r := r)
  unfold handle
  generalize perform info now r.operation r.params (s, a) = out at told ⊢
  obtain ⟨fault | v, x⟩ := out
  · exact ⟨rfl, rfl, nofun, fun _ => ⟨rfl, _, rfl, rfl, told⟩⟩
  · exact ⟨rfl, rfl, fun _ => ⟨⟨v, rfl, told⟩, rfl, rfl⟩, nofun⟩

end

/-- Every response answers its request, and every error tells why the request was refused: for
records in memory and in two maps, where trying again never helps, because no storage fails; for
records in files, whatever they hold and whatever faults befall them; and for any other store that
accounts for its failures. -/
theorem answers_well_formed (info : ServiceInfo) (now : Instant) (r : Request) (a : Ambient) :
    (∀ s : MemoryStore,
      (handle info now r (s, a)).1.Answers now r (NoCause s) (BlockedBy s r) ∧
        ∀ e, (handle info now r (s, a)).1.error = some e → e.retryable = false) ∧
    (∀ s : PlainStore,
      (handle info now r (s, a)).1.Answers now r (NoCause s) (BlockedBy s r)) ∧
    (∀ s : FileStore, (handle info now r (s, a)).1.Answers now r s.Cause (BlockedBy s r)) ∧
    ∀ {σ : Type} [Store σ] {write : String → Document → Action σ Unit} {Reached : σ → σ → Prop}
      {Cause : σ → StorageError → Prop}, Store.Accounts write Reached Cause → ∀ s : σ,
        (handle info now r (s, a)).1.Answers now r (Cause s) (BlockedBy s r) := by
  refine ⟨fun s => ?_, fun s => handle_answers PlainStore.accounts info now s a,
    fun s => handle_answers FileStore.accounts info now s a,
    fun accounts s => handle_answers accounts info now s a⟩
  have answers : (handle info now r (s, a)).1.Answers now r (NoCause s) (BlockedBy s r) :=
    handle_answers MemoryStore.accounts info now s a
  refine ⟨answers, fun e some_ => ?_⟩
  have refused : (handle info now r (s, a)).1.status = .error := by
    cases status : (handle info now r (s, a)).1.status with
    | error => rfl
    | ok =>
      rw [(answers.granted status).2.1] at some_
      cases some_
  obtain ⟨-, e', some', -, explains⟩ := answers.refused refused
  cases some_.symm.trans some'
  refine explains.lasting fun about => ?_
  obtain ⟨c, cause, -⟩ := explains.storage about
  exact cause

namespace Session

/-- Asks to move the document behind a gate, for an actor that the gate does not know. -/
def endAsAuditor : Request :=
  ask .applyEvent [("document_id", .string "d"), ("event", .string "end"),
    ("roles", .array [.string "aud"])]

/-- Asks for a document. -/
def getIt : Request := ask .getDocument [("document_id", .string "d")]

/-- Records in files on a disk that fails. -/
def struckRecords : FileStore :=
  ⟨{ Disk.empty with faults := [some .faulty] }, "", 0, 0, .numbering⟩

/-- The auditor is told the roles that are asked for, and whoever meets the disk that fails is told
to try again. -/
theorem auditor_and_struck_told :
    (∃ e t, (handle reviewer .epoch endAsAuditor
        (Engine.uncheckedRecords, .start true)).1.error = some e ∧
      e.code = .forbidden ∧ BlockedBy Engine.uncheckedRecords endAsAuditor t ∧
      e.details = .ofList [("required_roles", .ofJson (.array (t.roles.toList.map .string)))]) ∧
    ∃ e failed, (handle reviewer .epoch getIt (struckRecords, .start true)).1.error = some e ∧
      e.retryable = true ∧ e.code = .storageError ∧ struckRecords.Cause (.disk failed) := by
  have gated : (handle reviewer .epoch endAsAuditor
      (Engine.uncheckedRecords, .start true)).1.status = .error ∧ (handle reviewer .epoch
        endAsAuditor (Engine.uncheckedRecords, .start true)).1.error.map (·.code) =
      some .forbidden := by decide +kernel
  have struck : (handle reviewer .epoch getIt (struckRecords, .start true)).1.status = .error ∧
      (handle reviewer .epoch getIt (struckRecords, .start true)).1.error.map
        (fun e => (e.code, e.retryable)) = some (.storageError, true) := by decide +kernel
  constructor
  · have answers := ((answers_well_formed reviewer .epoch endAsAuditor (.start true)).1
      Engine.uncheckedRecords).1
    obtain ⟨-, e, told, -, explains⟩ := answers.refused gated.1
    have code : e.code = .forbidden := by
      have known := gated.2
      rw [told] at known
      exact Option.some.inj known
    obtain ⟨t, blocks, details⟩ := explains.refused code
    exact ⟨e, t, told, code, blocks, details⟩
  · have answers := (answers_well_formed reviewer .epoch getIt (.start true)).2.2.1 struckRecords
    obtain ⟨-, e, told, -, explains⟩ := answers.refused struck.1
    obtain ⟨code, retryable⟩ : e.code = .storageError ∧ e.retryable = true := by
      have known := struck.2
      rw [told] at known
      exact Prod.mk.inj (Option.some.inj known)
    obtain ⟨c, cause, -, helps⟩ := explains.storage code
    obtain ⟨failed, rfl⟩ := helps.1 retryable
    exact ⟨e, failed, told, retryable, code, cause⟩

end Session

end Service

end Signoff
