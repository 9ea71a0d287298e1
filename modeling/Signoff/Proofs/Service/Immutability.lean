import Signoff.Proofs.Engine.Accepting
import Signoff.Proofs.Engine.Availability
import Signoff.Proofs.Service.Agreement
import Signoff.Proofs.Store.Archive

/-!
# Workflows never change

A workflow that a service has created is shown the same ever after, and what is shown of it is
accepted as a definition again, with the same checksum (`workflows_never_change`).

* `createWorkflow_granted`, `getWorkflow_granted`: when the two requests are answered ok, and how.
* `Session.run_preserves`: a run keeps what the plain operations of the store keep.
* `Session.keepsWorkflows`: so a service on an archive keeps its workflows.
-/

namespace Signoff

open Signoff.Action

/-- On any store a definition is saved just if it has no defect. -/
theorem Engine.createWorkflow_ok {σ : Type} [Store σ] {now : Instant} {d : Definition} {s s' : σ}
    {a : Ambient} {id : String} :
    (∃ a', createWorkflow now d (s, a) = (.ok id, s', a')) ↔
      d.check = .ok () ∧ Store.saveWorkflow ⟨"", d, now⟩ s = (.ok id, s') := by
  rw [createWorkflow_checked]
  cases d.check with
  | error e => exact ⟨fun ⟨_, refused⟩ => (nomatch refused), fun ⟨defect, _⟩ => (nomatch defect)⟩
  | ok u =>
    constructor
    · rintro ⟨a', created⟩
      injection created with result rest
      injection rest with left_ _
      exact ⟨rfl, Prod.ext result left_⟩
    · rintro ⟨-, saved⟩
      dsimp only
      rw [saved]
      exact ⟨_, rfl⟩

namespace Service

variable {σ : Type}

/-- The session answers a request ok, with a result. -/
def Session.Grants [Store σ] (info : ServiceInfo) (s : Session σ) (r : Request) (result : Value) :
    Prop :=
  (s.step info (.request r)).1 = some ((Response.ok r.id result).at_ s.now)

section

variable [Store σ] {info : ServiceInfo} {s : Session σ} {r : Request} {v : Value}

/-- A request whose operation succeeds is answered ok. -/
theorem Session.grants_of_perform {s' : σ} {a' : Ambient}
    (h : perform info s.now r.operation r.params (s.records, s.ambient) = (.ok v, s', a')) :
    s.Grants info r v ∧ (s.next info (.request r)).records = s' := by
  have handled : handle info s.now r (s.records, s.ambient) =
      ((Response.ok r.id v).at_ s.now, s', a') := by
    rw [handle, h]
  constructor
  · exact congrArg (fun out : Response × σ × Ambient => some out.1) handled
  · exact congrArg (fun out : Response × σ × Ambient => out.2.1) handled

theorem Session.perform_of_grants (h : s.Grants info r v) :
    ∃ a', perform info s.now r.operation r.params (s.records, s.ambient) =
      (.ok v, (s.next info (.request r)).records, a') := by
  have left_ : (s.next info (.request r)).records =
      (handle info s.now r (s.records, s.ambient)).2.1 := rfl
  have answered : some (handle info s.now r (s.records, s.ambient)).1 =
      some ((Response.ok r.id v).at_ s.now) := h
  rw [left_]
  unfold handle at answered ⊢
  generalize perform info s.now r.operation r.params (s.records, s.ambient) = out at answered
  obtain ⟨_ | v', s', a'⟩ := out
  · cases answered
  · injection answered with answered
    injection answered with _ _ _ result _ _
    cases result
    exact ⟨a', rfl⟩

/-- A request keeps what the plain operations of the store keep. -/
theorem handle_preserves {write : String → Document → Action σ Unit} {I : σ → Prop}
    (h : Store.Preserves write I) {now : Instant} {records : σ} (hI : I records) (a : Ambient) :
    I (handle info now r (records, a)).2.1 := by
  have same : Store.Same I records records := ⟨rfl, hI⟩
  exact (handle_agree h.simulates info info.storage now r.names_any same a).2.1.2

theorem Session.run_preserves {write : String → Document → Action σ Unit} {I : σ → Prop}
    (h : Store.Preserves write I) (hI : I s.records) (inputs : List Input) :
    I (s.run info inputs).records := by
  refine run_induction (P := fun s : Session σ => I s.records) hI (fun s input hI => ?_) inputs
  cases input with
  | clock => exact hI
  | request r => exact handle_preserves h hI s.ambient

/-! ## Creating and getting workflows -/

theorem createWorkflowResult_inj {x y : CreateWorkflowResult}
    (h : Value.ofJson x.toJson = Value.ofJson y.toJson) : x = y := by
  have kept (x : CreateWorkflowResult) : (Value.ofJson x.toJson).json =
      .object [("checksum", .string x.checksum), ("workflow_id", .string x.workflowId)] := rfl
  have members := congrArg Value.json h
  rw [kept, kept] at members
  injection members with members
  injection members with first rest
  injection rest with second
  injection first with _ first
  injection second with _ second
  injection first with checksum
  injection second with workflowId
  cases x
  cases y
  cases checksum
  cases workflowId
  rfl

/-- A definition that can be read and has no defect is granted if the store saves it. -/
theorem createWorkflow_grants (op : r.operation = .createWorkflow) {p : CreateWorkflowParams}
    {d : Definition} {id : String} {s' : σ} (read : r.read? CreateWorkflowParams.schema = some p)
    (defined : definitionOf info p.definition = .ok d) (checked : d.check = .ok ())
    (saved : Store.saveWorkflow ⟨"", d, s.now⟩ s.records = (.ok id, s')) :
    s.Grants info r (.ofJson (CreateWorkflowResult.toJson ⟨id, d.checksum⟩)) ∧
      (s.next info (.request r)).records = s' := by
  obtain ⟨a', created⟩ := (Engine.createWorkflow_ok (a := s.ambient)).2 ⟨checked, saved⟩
  have done : createWorkflow info s.now r.params (s.records, s.ambient) =
      (.ok (.ofJson (CreateWorkflowResult.toJson ⟨id, d.checksum⟩)), s', a') := by
    rw [createWorkflow, bind_apply, readParams_ok.2 ⟨read, rfl⟩]
    dsimp only
    rw [bind_apply, readDefinition_apply, defined]
    dsimp only
    rw [bind_apply, engine_ok.2 created]
    rfl
  exact Session.grants_of_perform (by rw [op]; exact done)

/-- What stands behind a workflow that was granted. -/
theorem createWorkflow_granted (op : r.operation = .createWorkflow) {id c : String}
    (h : s.Grants info r (.ofJson (CreateWorkflowResult.toJson ⟨id, c⟩))) :
    ∃ p d, r.read? CreateWorkflowParams.schema = some p ∧
      definitionOf info p.definition = .ok d ∧ d.check = .ok () ∧ c = d.checksum ∧
      Store.saveWorkflow ⟨"", d, s.now⟩ s.records =
        (.ok id, (s.next info (.request r)).records) := by
  obtain ⟨a', created⟩ := Session.perform_of_grants h
  rw [op] at created
  generalize (s.next info (.request r)).records = s' at created
  obtain ⟨p, s₁, got, created⟩ := bind_apply_ok created
  obtain ⟨d, s₂, defined, created⟩ := bind_apply_ok created
  obtain ⟨id', ⟨s₃, a₃⟩, saved, answered⟩ := bind_apply_ok created
  obtain ⟨read, rfl⟩ := readParams_ok.1 got
  rw [readDefinition_apply] at defined
  injection defined with defined same
  subst same
  obtain ⟨checked, saved⟩ := Engine.createWorkflow_ok.1 ⟨a₃, engine_ok.1 saved⟩
  injection answered with result left_
  injection left_ with left_
  cases createWorkflowResult_inj (Except.ok.inj result)
  exact ⟨p, d, read, defined, checked, rfl, left_ ▸ saved⟩

/-- A workflow that the store finds is shown. -/
theorem getWorkflow_grants (op : r.operation = .getWorkflow) {id : String} {w : Workflow} {s' : σ}
    (read : r.read? GetWorkflowParams.schema = some ⟨id⟩)
    (found : Store.getWorkflow id s.records = (.ok (some w), s')) :
    s.Grants info r (.ofJson (GetWorkflowResult.toJson ⟨.ofJson w.toJson, w.checksum⟩)) := by
  have done : getWorkflow r.params (s.records, s.ambient) =
      (.ok (.ofJson (GetWorkflowResult.toJson ⟨.ofJson w.toJson, w.checksum⟩)), s', s.ambient) := by
    rw [getWorkflow, bind_apply, readParams_ok.2 ⟨read, rfl⟩]
    dsimp only
    rw [bind_apply, engine_ok.2 (Engine.getWorkflow_apply found)]
    rfl
  exact (Session.grants_of_perform (by rw [op]; exact done)).1

/-- Only workflows that the store finds are shown. -/
theorem getWorkflow_granted (op : r.operation = .getWorkflow) {id : String}
    (read : r.read? GetWorkflowParams.schema = some ⟨id⟩) (h : s.Grants info r v) :
    ∃ w s', Store.getWorkflow id s.records = (.ok (some w), s') ∧
      v = .ofJson (GetWorkflowResult.toJson ⟨.ofJson w.toJson, w.checksum⟩) := by
  obtain ⟨a', shown⟩ := Session.perform_of_grants h
  rw [op] at shown
  generalize (s.next info (.request r)).records = s' at shown
  obtain ⟨p, s₁, got, shown⟩ := bind_apply_ok shown
  obtain ⟨w, s₂, found, answered⟩ := bind_apply_ok shown
  obtain ⟨read', rfl⟩ := readParams_ok.1 got
  cases read.symm.trans read'
  obtain ⟨found?, ⟨s₃, a₃⟩, looked, found⟩ := bind_apply_ok (engine_ok.1 found)
  obtain ⟨stored, -⟩ := onFirst_ok looked
  cases found? with
  | none => cases found
  | some w' =>
    cases found
    cases answered
    exact ⟨w, s', stored, rfl⟩

/-- What is shown of a workflow is read as its definition, if it is not too large. -/
theorem definitionOf_shown (info : ServiceInfo) (w : Workflow) :
    let shown := Value.ofJson w.toJson
    let size := shown.json.compact.utf8ByteSize
    definitionOf info shown = if info.maxDefinitionBytes < size then
      .error (.tooLarge size info.maxDefinitionBytes) else .ok w.definition := by
  intro shown size
  have decoded : Definition.ofValue shown = .ok w.definition := by
    show ((Definition.schema.decode .given w.toJson.canonical).mapError _).mapError _ = _
    rw [w.decode_definition Json.rewrites_canonical]
    rfl
  obtain ⟨members, object, -⟩ := Json.rewrites_canonical.object w.members w.distinctKeys_members
  have object : shown.json = .object members := object
  unfold definitionOf
  rw [object]
  dsimp only
  rw [decoded, ← object]
  rfl

/-! ## Workflows that last -/

namespace Session

/-- Whoever asks for the workflow is shown it with its checksum if the records can be read, and is
never shown anything else. -/
def Shows (info : ServiceInfo) (Readable : σ → Prop) (w : Workflow) (s : Session σ) : Prop :=
  ∀ get : Request, get.operation = .getWorkflow →
    get.read? GetWorkflowParams.schema = some ⟨w.id⟩ →
    let result := Value.ofJson (GetWorkflowResult.toJson ⟨.ofJson w.toJson, w.checksum⟩)
    (Readable s.records → s.Grants info get result) ∧ ∀ v, s.Grants info get v → v = result

/-- What is shown of the workflow is accepted as a definition if it is not too large and the records
can be written, and always with the checksum of the workflow. -/
def Readmits (info : ServiceInfo) (Writable : σ → Prop) (w : Workflow) (s : Session σ) : Prop :=
  ∀ again : Request, again.operation = .createWorkflow →
    again.read? CreateWorkflowParams.schema = some ⟨.ofJson w.toJson⟩ →
    ((Value.ofJson w.toJson).json.compact.utf8ByteSize ≤ info.maxDefinitionBytes →
      Writable s.records →
      ∃ id, s.Grants info again (.ofJson (CreateWorkflowResult.toJson ⟨id, w.checksum⟩))) ∧
    ∀ id c, s.Grants info again (.ofJson (CreateWorkflowResult.toJson ⟨id, c⟩)) → c = w.checksum

/-- Every workflow that a run creates is read back from what is shown of it, and after every further
run it is shown and accepted again. -/
def KeepsWorkflows (info : ServiceInfo) (Readable Writable : σ → Prop) (start : Session σ) : Prop :=
  ∀ (before after : List Input) (create : Request) (id c : String),
    create.operation = .createWorkflow →
    (start.run info before).Grants info create
      (.ofJson (CreateWorkflowResult.toJson ⟨id, c⟩)) →
    ∃ p d, create.read? CreateWorkflowParams.schema = some p ∧
      definitionOf info p.definition = .ok d ∧
      let w : Workflow := ⟨id, d, (start.run info before).now⟩
      let later := start.run info (before ++ .request create :: after)
      c = w.checksum ∧ Workflow.schema.ofValue (.ofJson w.toJson) = .ok w ∧
        later.Shows info Readable w ∧ later.Readmits info Writable w

variable {write : String → Document → Action σ Unit} {Keeps : Workflow → σ → Prop}
  {Sound Readable Writable : σ → Prop} {w : Workflow}

theorem shows_of_keeps (archive : Store.Archive write Keeps Sound Readable Writable)
    (kept : Keeps w s.records) : s.Shows info Readable w := by
  intro get op read result
  constructor
  · intro readable
    obtain ⟨s', found⟩ := archive.found kept readable
    exact getWorkflow_grants op read found
  · intro v granted
    obtain ⟨w', s', found, rfl⟩ := getWorkflow_granted op read granted
    rw [archive.same kept found]

theorem readmits_of_sound (archive : Store.Archive write Keeps Sound Readable Writable)
    (checked : w.definition.check = .ok ()) (sound : Sound s.records) :
    s.Readmits info Writable w := by
  intro again op read
  have defined := definitionOf_shown info w
  dsimp only at defined
  constructor
  · intro fits writable
    rw [if_neg (Nat.not_lt.2 fits)] at defined
    obtain ⟨id, s', saved⟩ := archive.saves (w := ⟨"", w.definition, s.now⟩) rfl sound writable
    exact ⟨id, (createWorkflow_grants op read defined checked saved).1⟩
  · intro id c granted
    obtain ⟨p, d, read', defined', -, rfl, -⟩ := createWorkflow_granted op granted
    cases read.symm.trans read'
    rw [defined'] at defined
    split at defined
    · cases defined
    · cases defined
      rfl

/-- A service on an archive keeps its workflows. -/
theorem keepsWorkflows (archive : Store.Archive write Keeps Sound Readable Writable)
    (sound : Sound s.records) (info : ServiceInfo) : s.KeepsWorkflows info Readable Writable := by
  intro before after create id c op granted
  obtain ⟨p, d, read, defined, checked, rfl, saved⟩ := createWorkflow_granted op granted
  refine ⟨p, d, read, defined, ?_⟩
  intro w later
  have kept : Keeps w later.records := by
    show Keeps w (s.run info (before ++ .request create :: after)).records
    rw [run_append]
    exact run_preserves (archive.keeps w)
      (archive.saved rfl (run_preserves archive.sound sound before) saved) after
  have decoded : Workflow.schema.ofValue (.ofJson w.toJson) = .ok w := by
    show (Workflow.schema.decode .given w.toJson.canonical).mapError _ = _
    rw [w.decode_toJson Json.rewrites_canonical]
    rfl
  exact ⟨rfl, decoded, shows_of_keeps archive kept,
    readmits_of_sound archive checked (run_preserves archive.sound sound _)⟩

end Session

end

/-- Whatever a service is asked, on records in memory and in files that a fresh folder holds: a
workflow that it has created never changes, and what is shown of it is accepted again with the same
checksum. Faults may keep files from being read or written, and change nothing else. -/
theorem workflows_never_change (info : ServiceInfo) (t : Instant) (withTimers : Bool)
    (ids : IdSource) :
    (Session.start t withTimers ids).KeepsWorkflows info (fun _ => True) (fun _ => True) ∧
    ∀ files : FileStore, files.Fresh →
      let s := Session.mk t files (.start withTimers)
      s.KeepsWorkflows info (fun f => f.disk.Spared) FileStore.Writable ∧
        (files.disk.faults = [] → s.KeepsWorkflows info (fun _ => True) FileStore.NextFits) := by
  constructor
  · exact Session.keepsWorkflows (s := .start t withTimers ids) MemoryStore.archive trivial info
  · intro files fresh s
    constructor
    · exact Session.keepsWorkflows (s := s) FileStore.archive fresh.tidy info
    · intro calm
      exact Session.keepsWorkflows (s := s) FileStore.calm_archive ⟨fresh.tidy, calm⟩ info

/-- Asks for the first workflow. -/
def Session.getReview : Request := ask .getWorkflow [("workflow_id", .string (workflowId 1))]

/-- Asks to keep a value as a definition. -/
def Session.keepValue (v : Value) : Request := ask .createWorkflow [("definition", v.json)]

theorem Session.read_keepValue (v : Value) :
    (keepValue v).read? CreateWorkflowParams.schema = some ⟨v⟩ := by
  have kept : (keepValue v).read? CreateWorkflowParams.schema =
      some ⟨.ofJson (Value.ofJson v.json).json⟩ := rfl
  rw [kept, Value.ofJson_json, Value.ofJson_json]

/-- Files that can be written keep a definition, and can be written again if the id after the next
one is not too long. -/
theorem Session.grants_on_files {info : ServiceInfo} {s : Session FileStore} {r : Request}
    (op : r.operation = .createWorkflow) {p : CreateWorkflowParams} {d : Definition}
    (read : r.read? CreateWorkflowParams.schema = some p)
    (defined : definitionOf info p.definition = .ok d) (checked : d.check = .ok ())
    (tidy : s.records.Tidy) (writable : s.records.Writable)
    (short : (s.records.ids.workflowId (s.records.workflowIds + 1 + 1)).utf8ByteSize ≤
      FileStore.maxIdBytes) :
    let id := s.records.ids.workflowId (s.records.workflowIds + 1)
    let later := (s.next info (.request r)).records
    s.Grants info r (.ofJson (CreateWorkflowResult.toJson ⟨id, d.checksum⟩)) ∧
      later.workflowIds = s.records.workflowIds + 1 ∧ later.ids = s.records.ids ∧ later.Tidy ∧
      later.Writable := by
  intro id later
  have room := tidy "workflows" FileStore.workflows_mem_kinds id
    (s.records.ids.workflowId_valid _) writable.2
  obtain ⟨files, saved, wrote⟩ := FileStore.saveWorkflow_wrote (w := ⟨"", d, s.now⟩) rfl writable.1
    room
  let files' : FileStore := { files with workflowIds := s.records.workflowIds + 1 }
  have saved : Store.saveWorkflow ⟨"", d, s.now⟩ s.records = (.ok id, files') := saved
  obtain ⟨granted, left_⟩ := createWorkflow_grants op read defined checked saved
  have left_ : later = files' := left_
  have tidy' : files.Tidy := tidy.touches wrote.toTouches
  rw [left_]
  refine ⟨granted, rfl, wrote.ids, tidy', wrote.calm writable.1, ?_⟩
  rw [FileStore.NextFits, show files'.ids = s.records.ids from wrote.ids]
  exact short

/-- A definition is kept in files twice. A minute later the first workflow is shown, and what is
shown of it is kept as well, with its checksum. -/
theorem review_never_changes :
    let s := Session.mk .epoch FileStore.first (.start true)
    let later := s.run Session.reviewer
      [.request Session.keepReview, .request Session.keepReview, .clock (Session.seconds 60)]
    FileStore.first.Fresh ∧ FileStore.first.disk.faults = [] ∧
      ∃ w : Workflow, w.id = workflowId 1 ∧ w.createdAt = .epoch ∧
      s.Grants Session.reviewer Session.keepReview
        (.ofJson (CreateWorkflowResult.toJson ⟨w.id, w.checksum⟩)) ∧
      later.Grants Session.reviewer Session.getReview
        (.ofJson (GetWorkflowResult.toJson ⟨.ofJson w.toJson, w.checksum⟩)) ∧
      ∃ id, later.Grants Session.reviewer (Session.keepValue (.ofJson w.toJson))
        (.ofJson (CreateWorkflowResult.toJson ⟨id, w.checksum⟩)) := by
  intro s later
  -- the definition is read, has no defect and is not too large once it is shown
  obtain ⟨p, read, d, defined, checked, fits⟩ : ∃ p,
      Session.keepReview.read? CreateWorkflowParams.schema = some p ∧ ∃ d,
        definitionOf Session.reviewer p.definition = .ok d ∧ d.check = .ok () ∧
        (Value.ofJson (Workflow.toJson ⟨workflowId 1, d, .epoch⟩)).json.compact.utf8ByteSize ≤
          Session.reviewer.maxDefinitionBytes := by
    have known : (Session.keepReview.read? CreateWorkflowParams.schema).any (fun p =>
        (definitionOf Session.reviewer p.definition).toOption.any fun d => d.check.isOk &&
          decide ((Value.ofJson
            (Workflow.toJson ⟨workflowId 1, d, .epoch⟩)).json.compact.utf8ByteSize ≤
              Session.reviewer.maxDefinitionBytes)) = true := by decide +kernel
    simp only [Option.any_eq_true, Bool.and_eq_true, decide_eq_true_eq] at known
    obtain ⟨p, read, d, defined, checked, fits⟩ := known
    refine ⟨p, read, d, ?_, Definition.check_of_isOk checked, fits⟩
    cases h : definitionOf Session.reviewer p.definition with
    | error f => rw [h] at defined; cases defined
    | ok d' => rw [h] at defined; cases defined; rfl
  have writable : FileStore.first.Writable := ⟨rfl, by decide⟩
  obtain ⟨granted, counted, source, tidy, writable⟩ := Session.grants_on_files (s := s) rfl read
    defined checked FileStore.fresh_first.tidy writable (by decide)
  have counted : (s.next Session.reviewer (.request Session.keepReview)).records.workflowIds = 1 :=
    counted
  have source : (s.next Session.reviewer (.request Session.keepReview)).records.ids = .numbering :=
    source
  obtain ⟨-, -, -, -, writable⟩ := Session.grants_on_files rfl read defined checked tidy writable
    (by rw [counted, source]; decide)
  have ran (s : Session FileStore) (t : Instant) :
      (s.next Session.reviewer (.clock t)).records = s.records := rfl
  have writable : later.records.Writable := (ran _ (Session.seconds 60)).symm ▸ writable
  have main := ((workflows_never_change Session.reviewer .epoch true .numbering).2 .first
    FileStore.fresh_first).2 rfl
  obtain ⟨p', d', read', defined', same, -, shows, readmits⟩ := main []
    [.request Session.keepReview, .clock (Session.seconds 60)] Session.keepReview _ _ rfl granted
  cases read.symm.trans read'
  cases defined.symm.trans defined'
  have shows : later.Shows Session.reviewer (fun _ => True) ⟨workflowId 1, d, .epoch⟩ := shows
  have readmits : later.Readmits Session.reviewer FileStore.NextFits ⟨workflowId 1, d, .epoch⟩ :=
    readmits
  clear_value later
  refine ⟨FileStore.fresh_first, by rfl, ⟨workflowId 1, d, .epoch⟩, rfl, rfl, granted, ?_, ?_⟩
  · exact (shows Session.getReview rfl (by rfl)).1 trivial
  · exact (readmits _ rfl (Session.read_keepValue _)).1 fits writable.2

end Service

end Signoff
