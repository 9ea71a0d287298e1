import Signoff.Proofs.Engine.Accepting
import Signoff.Proofs.Service.Session
import Signoff.Proofs.Store.Vetting
import Signoff.Proofs.Workflow.Times

/-!
# Errors that should not happen

A client may submit any definition, and a store may fail, but no request is answered with an
internal error and nothing is logged as one (`Service.internal_errors_unreachable`): a workflow that
is stored was accepted, an accepted definition has a machine, and the times that the machine
computes are in range as long as the clock leaves room for the longest duration.

Every operation of the engine on a store that vets its workflows fails as expected only
(`Engine.createDocument_ensures`, `applyEvent_ensures` and so on), and so does every request
(`Service.perform_ensures`).
-/

namespace Signoff

open Signoff.Action

/-- No line of the log tells about an error. -/
def Ambient.Quiet (a : Ambient) : Prop := ∀ line ∈ a.log, line.severity ≠ .error

theorem Ambient.quiet_start (withTimers : Bool) : (start withTimers).Quiet :=
  fun _ listed => by cases listed

theorem Ambient.Quiet.schedule {a : Ambient} (h : a.Quiet) (m : Machine) (d : Document) :
    (a.schedule m d).Quiet := h

theorem Ambient.Quiet.warn {a : Ambient} (h : a.Quiet) (d : Definition) : (a.warn d).Quiet := by
  intro line listed
  rcases List.mem_append.1 listed with before | warning
  · exact h line before
  · obtain ⟨state, -, rfl⟩ := List.mem_map.1 warning
    exact nofun

theorem Ambient.Quiet.report {a : Ambient} (h : a.Quiet) {f : Failure} (expected : f.IsExpected) :
    (a.report f).Quiet := by
  rw [Ambient.report, if_neg (by rw [expected]; exact Bool.false_ne_true)]
  exact h

theorem Failure.isExpected_of_deniesEvent {f : Failure} (h : f.deniesEvent = true) :
    f.IsExpected := by
  cases f <;> first | rfl | cases h

/-- The machine is that of some workflow. -/
def Machine.IsCompiled (m : Machine) : Prop := ∃ w, Machine.ofWorkflow w = .ok m

/-! ## The engine -/

namespace Engine

variable {σ α : Type} {I : σ → Prop} {Good : α → Prop}

theorem reporting_ensures {op : Operation σ α}
    (h : Ensures (Each I Ambient.Quiet) Good Failure.IsExpected op) :
    Ensures (Each I Ambient.Quiet) Good Failure.IsExpected (reporting op) := by
  intro x holds
  obtain ⟨kept, good, expected⟩ := h x holds
  rw [reporting_apply]
  generalize op x = out at kept good expected ⊢
  obtain ⟨f | y, s, a⟩ := out
  · exact ⟨⟨kept.1, kept.2.report (expected f rfl)⟩, nofun, expected⟩
  · exact ⟨kept, good, nofun⟩

/-- An accepted workflow has a machine. -/
theorem machineOf_ensures {K : σ × Ambient → Prop} {w : Workflow} (accepted : w.IsAccepted) :
    Ensures K Machine.IsCompiled Failure.IsExpected (machineOf w) := by
  obtain ⟨m, compiled⟩ := Machine.ofWorkflow_of_sound (Definition.sound_of_check accepted)
  intro x holds
  rw [machineOf_apply, Workflow.machine_eq_ok.2 compiled]
  exact ⟨holds, fun _ eq => Except.ok.inj eq ▸ ⟨w, compiled⟩, nofun⟩

variable [Store σ] {write : String → Document → Action σ Unit} (vets : Store.Vets write I)
include vets

theorem getWorkflow_ensures (id : String) :
    Ensures (Each I Ambient.Quiet) Workflow.IsAccepted Failure.IsExpected (getWorkflow id) := by
  refine (vets.getWorkflow id).onFirst.bind fun found accepted => ?_
  cases found with
  | none => exact ensures_throw rfl
  | some w => exact ensures_pure (accepted w rfl)

theorem getMachine_ensures (id : String) :
    Ensures (Each I Ambient.Quiet) Machine.IsCompiled Failure.IsExpected (getMachine id) :=
  (getWorkflow_ensures vets id).bind fun _ accepted =>
    reporting_ensures (machineOf_ensures accepted)

theorem getDocument_ensures (id : String) :
    Ensures (Each I Ambient.Quiet) (fun _ => True) Failure.IsExpected (getDocument id) := by
  refine (vets.getDocument id).onFirst.bind fun found _ => ?_
  cases found with
  | none => exact ensures_throw rfl
  | some d => exact ensures_any _

theorem availableEvents_ensures (id : String) (roles : RoleSet) :
    Ensures (Each I Ambient.Quiet) (fun _ => True) Failure.IsExpected (availableEvents id roles) :=
  (getDocument_ensures vets id).bind fun d _ =>
    (getMachine_ensures vets d.workflowId).bind fun _ _ => ensures_any _

theorem createWorkflow_ensures (now : Instant) (d : Definition) :
    Ensures (Each I Ambient.Quiet) (fun _ => True) Failure.IsExpected (createWorkflow now d) := by
  rintro ⟨s, a⟩ ⟨holds, quiet⟩
  rw [createWorkflow_checked]
  cases accepted : d.check with
  | error e => exact ⟨⟨holds, quiet.warn d⟩, nofun, fun _ eq => Except.error.inj eq ▸ rfl⟩
  | ok u =>
    obtain ⟨kept, good, expected⟩ := vets.saveWorkflow (w := ⟨"", d, now⟩) rfl accepted s holds
    exact ⟨⟨kept, quiet.warn d⟩, good, expected⟩

theorem createDocument_ensures {now : Instant} (room : now.HasRoom) (workflowId : String)
    (data : Value) :
    Ensures (Each I Ambient.Quiet) (fun _ => True) Failure.IsExpected
      (createDocument now workflowId data) := by
  unfold createDocument
  refine (getMachine_ensures vets workflowId).bind fun m ⟨w, compiled⟩ => ?_
  refine (ensures_ofExcept fun e failed => ?_).bind fun dueAt _ =>
    (ensures_ofExcept fun e failed => ?_).bind fun nextReapproval _ => ?_
  · exact absurd failed (Machine.dueAt_ne_error compiled room)
  · exact absurd failed (Machine.nextReapproval_ne_error compiled room)
  dsimp only
  rw [vets.joins.createDocumentThen]
  refine (createThen_ensures (vets.createDocument _) fun d a quiet => ?_).bind fun _ _ =>
    ensures_any _
  exact quiet.schedule m d

theorem applyEvent_ensures {now : Instant} (room : now.HasRoom) (id event : String)
    (roles : RoleSet) :
    Ensures (Each I Ambient.Quiet) (fun _ => True) Failure.IsExpected
      (applyEvent now id event roles) := by
  unfold applyEvent
  refine reporting_ensures ?_
  rw [vets.joins.modifyDocumentThen_eq]
  refine (modifyThen_ensures (fun _ => True) (vets.getDocument id) rfl (fun d => ?_)
    (vets.write id) fun d m a quiet => quiet.schedule m d).bind fun _ _ => ensures_any _
  refine (getWorkflow_ensures vets d.workflowId).bind fun w accepted => ?_
  refine (machineOf_ensures accepted).bind fun m ⟨w', compiled⟩ => ?_
  refine (ensures_ofExcept fun f failed => ?_).bind fun _ _ => ensures_any _
  exact Failure.isExpected_of_deniesEvent (Document.fire_error compiled room failed)

end Engine

/-! ## The service -/

/-- The fault does not say that the service is wrong. -/
def Fault.IsExpected (fault : Fault) : Prop := fault.code ≠ .internalError

theorem Failure.IsExpected.fault {f : Failure} (h : f.IsExpected) :
    (Fault.failure f).IsExpected := by
  cases f with
  | compilation | invariant => cases h
  | _ => exact nofun

namespace Service

variable {σ α β : Type} {K : σ × Ambient → Prop} {Good : α → Prop}

theorem engine_ensures {op : Engine.Operation σ α} (h : Ensures K Good Failure.IsExpected op) :
    Ensures K Good Fault.IsExpected (engine op) := by
  intro x holds
  obtain ⟨kept, good, expected⟩ := h x holds
  rw [engine_apply]
  refine ⟨kept, fun y ok => good y (mapError_eq_ok.1 ok), fun fault refused => ?_⟩
  obtain ⟨f, failed, rfl⟩ := mapError_eq_error.1 refused
  exact (expected f failed).fault

theorem readParams_ensures (schema : Json.Schema α) (params : Value) :
    Ensures K (fun _ => True) Fault.IsExpected (readParams schema params) := by
  unfold readParams
  dsimp only
  split
  · exact ensures_any _
  · exact ensures_throw nofun

theorem definitionOf_expected {info : ServiceInfo} {v : Value} {fault : Fault}
    (h : definitionOf info v = .error fault) : fault.IsExpected := by
  have sized (size : Nat) (read : Except Json.Error Definition)
      (h : (if info.maxDefinitionBytes < size then .error (.tooLarge size info.maxDefinitionBytes)
        else (read.mapError unreadable).mapError .failure) = .error fault) : fault.IsExpected := by
    split at h
    · cases h
      exact nofun
    · obtain ⟨f, failed, rfl⟩ := mapError_eq_error.1 h
      obtain ⟨e, -, rfl⟩ := mapError_eq_error.1 failed
      exact nofun
  unfold definitionOf at h
  generalize v.json = j at h
  cases j <;> exact sized _ _ h

theorem readDefinition_ensures (info : ServiceInfo) (v : Value) :
    Ensures K (fun _ => True) Fault.IsExpected (readDefinition info v) := by
  intro x holds
  rw [readDefinition_apply]
  exact ⟨holds, fun _ _ => trivial, fun _ => definitionOf_expected⟩

/-- Parameters for an operation of the engine, and a result made from its. -/
theorem ensures_of_engine (schema : Json.Schema α) (params : Value)
    {op : α → Engine.Operation σ β}
    (h : ∀ p, Ensures K (fun _ => True) Failure.IsExpected (op p)) (result : β → Value) :
    Ensures K (fun _ => True) Fault.IsExpected (do
      let p ← readParams schema params
      let b ← engine (op p)
      return result b : Operation σ Value) :=
  (readParams_ensures schema params).bind fun p _ =>
    (engine_ensures (h p)).bind fun _ _ => ensures_any _

/-- Polling timers leaves the records and the log. -/
theorem pollTimers_ensures {I : σ → Prop} (now : Instant) (params : Value) :
    Ensures (Each I Ambient.Quiet) (fun _ => True) Fault.IsExpected (pollTimers now params) := by
  unfold pollTimers
  refine ensures_get.bind fun x _ => ?_
  cases x.2.timers with
  | none => exact ensures_throw nofun
  | some q =>
    refine (readParams_ensures _ params).bind fun p _ => ?_
    exact (ensures_modify fun x holds => ⟨holds.1, holds.2⟩).bind fun _ _ => ensures_any _

theorem errorOf_code (fault : Fault) : (errorOf fault).code = fault.code := by
  unfold errorOf
  split <;> rfl

variable {I : σ → Prop} [Store σ] {write : String → Document → Action σ Unit}
  (vets : Store.Vets write I) {info : ServiceInfo} {now : Instant}
include vets

/-- A request fails as expected, if it fails. -/
theorem perform_ensures (info : ServiceInfo) (room : now.HasRoom)
    (operation : Signoff.Operation) (params : Value) :
    Ensures (Each I Ambient.Quiet) (fun _ => True) Fault.IsExpected
      (perform info now operation params) := by
  cases operation with
  | ping => exact ensures_any _
  | info => exact ensures_get.bind fun _ _ => ensures_any _
  | createWorkflow =>
    exact (readParams_ensures _ params).bind fun p _ =>
      (readDefinition_ensures info p.definition).bind fun d _ =>
        (engine_ensures (Engine.createWorkflow_ensures vets now d)).bind fun _ _ =>
          ensures_any _
  | getWorkflow =>
    exact ensures_of_engine _ params (fun p =>
      (Engine.getWorkflow_ensures vets _).weaken fun _ _ => trivial) _
  | createDocument =>
    exact ensures_of_engine _ params (fun p => Engine.createDocument_ensures vets room _ _) _
  | getDocument =>
    exact ensures_of_engine _ params (fun p => Engine.getDocument_ensures vets _) _
  | applyEvent =>
    exact ensures_of_engine _ params (fun p => Engine.applyEvent_ensures vets room _ _ _) _
  | availableEvents =>
    exact ensures_of_engine _ params (fun p => Engine.availableEvents_ensures vets _ _) _
  | pollTimers => exact pollTimers_ensures now params

/-- No request is answered with an internal error, and the log stays quiet. -/
theorem handle_expected (info : ServiceInfo) (room : now.HasRoom) (r : Request) {s : σ}
    {a : Ambient} (holds : I s) (quiet : a.Quiet) :
    let out := handle info now r (s, a)
    I out.2.1 ∧ out.2.2.Quiet ∧ ∀ e, out.1.error = some e → e.code ≠ .internalError := by
  intro out
  obtain ⟨kept, -, expected⟩ :=
    perform_ensures vets info room r.operation r.params (s, a) ⟨holds, quiet⟩
  have run : out = handle info now r (s, a) := rfl
  unfold handle at run
  generalize perform info now r.operation r.params (s, a) = done at run kept expected
  obtain ⟨fault | v, s', a'⟩ := done
  · rw [run]
    refine ⟨kept.1, kept.2, fun e refused => ?_⟩
    rw [← Option.some.inj refused, errorOf_code]
    exact expected fault rfl
  · rw [run]
    exact ⟨kept.1, kept.2, fun e refused => by cases refused⟩

/-! ## Runs -/

/-- If a request is carried out, the clock leaves room for the longest duration. -/
def Moment.Timely (x : Moment σ) : Prop := ∀ r, x.input = .request r → x.before.now.HasRoom

/-- No request is answered with an internal error, and none is logged. -/
def Moment.Untroubled (x : Moment σ) : Prop :=
  (∀ response, x.answer = some response → ∀ e, response.error = some e →
    e.code ≠ .internalError) ∧ x.after.ambient.Quiet

/-- What holds of the records and the log before an input holds after it. -/
theorem moment_untroubled (s : Session σ) (input : Input) (holds : I s.records)
    (quiet : s.ambient.Quiet) (timely : (s.moment info input).Timely) :
    (I (s.next info input).records ∧ (s.next info input).ambient.Quiet) ∧
      (s.moment info input).Untroubled := by
  cases input with
  | clock t => exact ⟨⟨holds, quiet⟩, fun _ answered => (by cases answered), quiet⟩
  | request r =>
    obtain ⟨kept, still, expected⟩ :=
      handle_expected vets info (timely r rfl) r holds quiet
    refine ⟨⟨kept, still⟩, fun response answered => ?_, still⟩
    cases answered
    exact expected

/-- A run of requests on a store that vets its workflows is untroubled. -/
theorem moments_untroubled (s : Session σ) (inputs : List Input) (holds : I s.records)
    (quiet : s.ambient.Quiet) (timely : ∀ x ∈ s.moments info inputs, x.Timely) :
    ∀ x ∈ s.moments info inputs, x.Untroubled := by
  induction inputs generalizing s with
  | nil => exact fun _ listed => by cases listed
  | cons input rest ih =>
    obtain ⟨first, later⟩ := List.forall_mem_cons.1 timely
    obtain ⟨⟨holds', quiet'⟩, untroubled⟩ := moment_untroubled vets s input holds quiet first
    exact List.forall_mem_cons.2 ⟨untroubled, ih _ holds' quiet' later⟩

omit vets in
/-- The clock of a run shows the time at its start and then the times to which it is set. -/
theorem moments_timely {s : Session σ} {inputs : List Input} (room : s.now.HasRoom)
    (set : ∀ t, .clock t ∈ inputs → t.HasRoom) : ∀ x ∈ s.moments info inputs, x.Timely := by
  induction inputs generalizing s with
  | nil => exact fun _ listed => by cases listed
  | cons input rest ih =>
    have later (t : Instant) (h : .clock t ∈ rest) : t.HasRoom := set t (List.mem_cons_of_mem _ h)
    refine List.forall_mem_cons.2 ⟨fun _ _ => room, ih ?_ later⟩
    cases input with
    | clock t => exact set t (List.mem_cons_self ..)
    | request r => exact room

end Service

/-- However clients use the service, from records that are empty or files without a workflow, and
whatever faults befall the files: no request is answered with an internal error and no error is
logged, if the clock leaves room for the longest duration whenever a request is carried out. -/
theorem Service.internal_errors_unreachable (info : ServiceInfo) (t : Instant) (withTimers : Bool)
    (ids : IdSource) (inputs : List Input) :
    (let moments := (Session.start t withTimers ids).moments info inputs
     (∀ x ∈ moments, x.Timely) → ∀ x ∈ moments, x.Untroubled) ∧
    ∀ files : FileStore, files.NoWorkflows →
      let moments := (⟨t, files, .start withTimers⟩ : Session FileStore).moments info inputs
      (∀ x ∈ moments, x.Timely) → ∀ x ∈ moments, x.Untroubled :=
  have quiet := Ambient.quiet_start withTimers
  ⟨moments_untroubled MemoryStore.vets _ inputs (MemoryStore.vetted_empty ids) quiet,
    fun _ bare => moments_untroubled FileStore.vets _ inputs bare.vetted quiet⟩

/-- In the small session nothing goes wrong, in memory and in files. -/
theorem Service.reviewRun_untroubled :
    (∀ x ∈ (Session.start .epoch true).moments Session.reviewer Session.reviewRun, x.Untroubled) ∧
    ∀ x ∈ (⟨.epoch, .first, .start true⟩ : Session FileStore).moments Session.reviewer
      Session.reviewRun, x.Untroubled := by
  have room : Instant.epoch.HasRoom := by decide
  have set : ∀ t, .clock t ∈ Session.reviewRun → t.HasRoom := by
    intro t listed
    simp only [Session.reviewRun, List.mem_cons, reduceCtorEq, Input.clock.injEq, List.not_mem_nil,
      or_false, false_or] at listed
    subst listed
    decide
  obtain ⟨memory, files⟩ :=
    Service.internal_errors_unreachable Session.reviewer .epoch true .numbering Session.reviewRun
  exact ⟨memory (moments_timely room set),
    files .first FileStore.fresh_first.noWorkflows (moments_timely room set)⟩

end Signoff
