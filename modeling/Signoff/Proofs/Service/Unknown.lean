import Signoff.Proofs.Service.Immutability
import Signoff.Proofs.Store.Unknown

/-!
# Requests about records that are not there

Whoever asks for a record that is not there is told so with a fault of the client, and nothing is
changed (`Service.AnswersNoWorkflow`, `Service.AnswersNoDocument`). That holds on every store that
looks for the record without trouble: in memory always, and in files unless the id is too long for
the name of a file. Then a fault of the storage is reported that asks the client to try again
(`Service.unknown_ids_not_found`).
-/

namespace Signoff

open Signoff.Action

variable {σ : Type}

/-- The request asks for the workflow with an id. -/
inductive Request.AsksForWorkflow (id : String) (r : Request) : Prop where
  | get (op : r.operation = .getWorkflow) (read : r.read? GetWorkflowParams.schema = some ⟨id⟩)
  | createDocument {data : Value} (op : r.operation = .createDocument)
      (read : r.read? CreateDocumentParams.schema = some ⟨id, data⟩)

/-- The request asks for the document with an id. -/
inductive Request.AsksForDocument (id : String) (r : Request) : Prop where
  | get (op : r.operation = .getDocument) (read : r.read? GetDocumentParams.schema = some ⟨id⟩)
  | applyEvent {p : ApplyEventParams} (op : r.operation = .applyEvent) (same : p.documentId = id)
      (read : r.read? ApplyEventParams.schema = some p)
  | availableEvents {p : AvailableEventsParams} (op : r.operation = .availableEvents)
      (same : p.documentId = id) (read : r.read? AvailableEventsParams.schema = some p)

/-! ## The engine -/

namespace Engine

variable [Store σ] {id : String} {trouble : Option Failure} {s : σ}

theorem getWorkflow_none (h : Store.NoWorkflow id trouble s) (a : Ambient) :
    getWorkflow id (s, a) = (.error (trouble.getD (.workflowNotFound id)), s, a) := by
  rw [getWorkflow, bind_apply, onFirst_apply, h]
  cases trouble <;> rfl

theorem createDocument_none (h : Store.NoWorkflow id trouble s) (now : Instant) (data : Value)
    (a : Ambient) :
    createDocument now id data (s, a) =
      (.error (trouble.getD (.workflowNotFound id)), s, a) := by
  rw [createDocument, bind_apply, getMachine, bind_apply, getWorkflow_none h]

theorem getDocument_none (h : Store.NoDocument id trouble s) (a : Ambient) :
    getDocument id (s, a) = (.error (trouble.getD (.documentNotFound id)), s, a) := by
  rw [getDocument, bind_apply, onFirst_apply, h.looked]
  cases trouble <;> rfl

theorem availableEvents_none (h : Store.NoDocument id trouble s) (roles : RoleSet) (a : Ambient) :
    availableEvents id roles (s, a) =
      (.error (trouble.getD (.documentNotFound id)), s, a) := by
  rw [availableEvents, bind_apply, getDocument_none h]

theorem applyEvent_none (h : Store.NoDocument id trouble s)
    (expected : ∀ f ∈ trouble, f.isInternal = false) (now : Instant) (event : String)
    (roles : RoleSet) (a : Ambient) :
    applyEvent now id event roles (s, a) =
      (.error (trouble.getD (.documentNotFound id)), s, a) := by
  have quiet : a.report (trouble.getD (.documentNotFound id)) = a := by
    cases trouble with
    | none => rfl
    | some f => exact if_neg (by simp [expected f rfl])
  rw [applyEvent, reporting_apply, bind_apply, Store.modifyDocumentThen, h.modified]
  exact congrArg (fun b => (_, s, b)) quiet

end Engine

/-! ## The service -/

namespace Service

variable [Store σ] {id : String} {trouble : Option Failure} {s : σ} {info : ServiceInfo}
  {now : Instant} {r : Request} {a : Ambient}

/-- There is no workflow with the id, and requests that ask for it are told so, or the trouble. They
change nothing. -/
structure AnswersNoWorkflow (s : σ) (id : String) (trouble : Option Failure) : Prop where
  store : Store.NoWorkflow id trouble s
  answer : ∀ info now a r, r.AsksForWorkflow id → handle info now r (s, a) =
    (.refuse r.id (errorOf (.failure (trouble.getD (.workflowNotFound id)))), s, a)

/-- There is no document with the id, and requests that ask for it are told so, or the trouble. They
change nothing. -/
structure AnswersNoDocument (s : σ) (id : String) (trouble : Option Failure) : Prop where
  store : Store.NoDocument id trouble s
  answer : ∀ info now a r, r.AsksForDocument id → handle info now r (s, a) =
    (.refuse r.id (errorOf (.failure (trouble.getD (.documentNotFound id)))), s, a)

/-- A request whose operation of the engine fails is refused with that failure. -/
theorem handle_of_engine_error {α β : Type} {schema : Json.Schema α} {p : α} {f : Failure}
    {op : α → Engine.Operation σ β} {result : α → β → Value}
    (performs : perform info now r.operation r.params = do
      let p ← readParams schema r.params
      let b ← engine (op p)
      return result p b)
    (read : r.read? schema = some p) (failed : op p (s, a) = (.error f, s, a)) :
    handle info now r (s, a) = (.refuse r.id (errorOf (.failure f)), s, a) := by
  have params : readParams schema r.params (s, a) = (.ok p, s, a) := readParams_ok.2 ⟨read, rfl⟩
  unfold handle
  rw [performs, bind_apply, params]
  dsimp only
  rw [bind_apply, engine_apply, failed]
  rfl

theorem answersNoWorkflow (h : Store.NoWorkflow id trouble s) :
    AnswersNoWorkflow s id trouble := by
  refine ⟨h, fun info now a r asks => ?_⟩
  cases asks with
  | get op read =>
    exact handle_of_engine_error (by rw [op]; rfl) read (Engine.getWorkflow_none h a)
  | createDocument op read =>
    exact handle_of_engine_error (by rw [op]; rfl) read (Engine.createDocument_none h now _ a)

theorem answersNoDocument (h : Store.NoDocument id trouble s)
    (expected : ∀ f ∈ trouble, f.isInternal = false) : AnswersNoDocument s id trouble := by
  refine ⟨h, fun info now a r asks => ?_⟩
  cases asks with
  | get op read =>
    exact handle_of_engine_error (by rw [op]; rfl) read (Engine.getDocument_none h a)
  | applyEvent op same read =>
    subst same
    exact handle_of_engine_error (by rw [op]; rfl) read
      (Engine.applyEvent_none h expected now _ _ a)
  | availableEvents op same read =>
    subst same
    exact handle_of_engine_error (by rw [op]; rfl) read (Engine.availableEvents_none h _ a)

/-- The service on a store in files that was opened has its folders after every run, if the disk has
no faults. -/
theorem ready_run {disk : Disk} {folder : String} {workflowIds documentIds : Nat} {ids : IdSource}
    {s : FileStore} (opened : (FileStore.openAt disk folder workflowIds documentIds ids).1 = .ok s)
    (calm : disk.faults = []) (inputs : List Input) :
    (Session.run info ⟨now, s, a⟩ inputs).records.Ready := by
  obtain ⟨⟨same, -, -⟩, -, stands, stays⟩ := FileStore.openAt_ok opened
  have ready : s.Ready := ⟨stays calm, by rw [same]; exact stands⟩
  exact Session.run_preserves (s := ⟨now, s, a⟩) FileStore.ready_preserves ready inputs

/-- A record that is not there is not found, whatever its id, in memory as in files, and every
request that asks for it is told so with a fault that lies with the client; unless its id is one for
files that is too long for the name of a file or for a path. Then the store fails, and the request
is told to try again. Nothing is changed in either case. The folders that this takes for granted are
there after every run of a service that was opened on a disk without faults. -/
theorem unknown_ids_not_found (id : String) :
    (∀ s : MemoryStore,
      (s.workflows.get? id = none → AnswersNoWorkflow s id none) ∧
      (s.documents.get? id = none → AnswersNoDocument s id none)) ∧
    (∀ s : FileStore, s.Ready →
      (s.Vacant "workflows" id → AnswersNoWorkflow s id (s.trouble? "workflows" id)) ∧
      (s.Vacant "documents" id → AnswersNoDocument s id (s.trouble? "documents" id))) ∧
    (∀ (disk : Disk) (folder : String) (workflowIds documentIds : Nat) (ids : IdSource)
      (s : FileStore),
      (FileStore.openAt disk folder workflowIds documentIds ids).1 = .ok s → disk.faults = [] →
      ∀ info now a inputs, (Session.run info ⟨now, s, a⟩ inputs).records.Ready) ∧
    errorOf (.failure (.workflowNotFound id)) =
      ⟨.workflowNotFound, s!"workflow not found: {id}", false, .empty⟩ ∧
    errorOf (.failure (.documentNotFound id)) =
      ⟨.documentNotFound, s!"document not found: {id}", false, .empty⟩ ∧
    ∀ (s : FileStore) (kind : String) (f : Failure), s.trouble? kind id = some f →
      errorOf (.failure f) = ⟨.storageError,
        "storage error: I/O error: File name too long (os error 36)", true, .empty⟩ := by
  refine ⟨fun s => ⟨fun absent => ?_, fun absent => ?_⟩, fun s ready => ⟨fun vacant => ?_,
    fun vacant => ?_⟩, fun _ _ _ _ _ _ opened calm _ _ _ => ready_run opened calm, rfl, rfl,
    fun s kind f same => ?_⟩
  · exact answersNoWorkflow (MemoryStore.noWorkflow absent)
  · exact answersNoDocument (MemoryStore.noDocument absent) nofun
  · exact answersNoWorkflow (FileStore.noWorkflow ready vacant)
  · refine answersNoDocument (FileStore.noDocument ready vacant) fun f trouble => ?_
    rw [FileStore.eq_of_trouble? trouble]
    rfl
  · rw [FileStore.eq_of_trouble? same]
    rfl

theorem ready_first : FileStore.first.Ready := ⟨rfl, FileStore.fresh_first.stands⟩

/-- A document that is kept. -/
def keptDocument : Document :=
  { Document.create "wf" "Open" (.ofJson (.object [("title", .string "t")])) .epoch with id := "d" }

/-- Memory that has the document alone. -/
def keptInMemory : MemoryStore :=
  { MemoryStore.empty with documents := .ofList [("d", keptDocument)] }

/-- Files that have the document alone. -/
def keptInFiles : FileStore :=
  let first := FileStore.first
  let nodes := first.disk.nodes.insert "data/documents/d.json"
    (.file (encode keptDocument.toJson.pretty))
  { first with disk := { first.disk with nodes } }

theorem ready_keptInFiles : keptInFiles.Ready := by
  refine ⟨rfl, fun kind hk => ?_⟩
  simp only [FileStore.kinds, List.mem_cons, List.not_mem_nil, or_false] at hk
  rcases hk with rfl | rfl <;> decide +kernel

/-- Beside a document that is found other ids are not, in memory and in files, and the folders are
there after a run. -/
theorem other_ids_not_found :
    Store.getDocument "d" keptInMemory = (.ok (some keptDocument), keptInMemory) ∧
    AnswersNoDocument keptInMemory "doc" none ∧
    (∃ d, (Store.getDocument "d" keptInFiles).1 = .ok (some d) ∧ d.id = "d") ∧
    keptInFiles.trouble? "workflows" "d" = none ∧
    AnswersNoWorkflow keptInFiles "d" (keptInFiles.trouble? "workflows" "d") ∧
    AnswersNoDocument keptInFiles "doc" (keptInFiles.trouble? "documents" "doc") ∧
    (Session.run ⟨"s", "1", "file", 0⟩ ⟨.epoch, keptInFiles, .start true⟩
      [.request ⟨.request, "1", .ping, .null⟩]).records.Ready := by
  have kept : ((Store.getDocument "d" keptInFiles).1.toOption.join.any fun d => d.id == "d") =
      true := by decide +kernel
  have found : ∃ d, (Store.getDocument "d" keptInFiles).1 = .ok (some d) ∧ d.id = "d" := by
    generalize (Store.getDocument "d" keptInFiles).1 = r at kept ⊢
    obtain _ | _ | d := r
    · cases kept
    · cases kept
    · exact ⟨d, rfl, eq_of_beq kept⟩
  have again := FileStore.openAt_stands (by rfl) ready_keptInFiles.2 0 0 .numbering
  exact ⟨rfl, ((unknown_ids_not_found "doc").1 keptInMemory).2 (by decide +kernel), found,
    by decide +kernel,
    ((unknown_ids_not_found "d").2.1 _ ready_keptInFiles).1 fun _ => by decide +kernel,
    ((unknown_ids_not_found "doc").2.1 _ ready_keptInFiles).2 fun _ => by decide +kernel,
    (unknown_ids_not_found "d").2.2.1 keptInFiles.disk "data" 0 0 .numbering keptInFiles
      (congrArg Prod.fst again) rfl _ _ _ _⟩

theorem isValidId_replicate (n : Nat) :
    FileStore.isValidId (String.ofList (List.replicate (n + 1) 'a')) = true := by
  rw [FileStore.isValidId, String.toList_ofList, List.all_replicate, List.replicate_succ,
    String.ofList_cons]
  simp [FileStore.isIdChar]

/-- An id that is one character too long for the name of a file. -/
def overlongId : String := String.ofList (List.replicate 251 'a')

/-- Nothing is stored under the id that is too long, and memory does not find it. In files looking
for it fails with a failure that may pass, and a request for it is told to try again. -/
theorem overlong_id_fails :
    let fault : Failure := .storage "I/O error: File name too long (os error 36)" true
    let request : Request := ⟨.request, "1", .getDocument,
      .ofJson (.object [("document_id", .string overlongId)])⟩
    (∀ kind ∈ FileStore.kinds, FileStore.first.Vacant kind overlongId) ∧
    Store.getDocument overlongId MemoryStore.empty = (.ok none, .empty) ∧
    Store.getWorkflow overlongId FileStore.first = (.error fault, .first) ∧
    Store.getDocument overlongId FileStore.first = (.error fault, .first) ∧
    request.AsksForDocument overlongId ∧
    ∀ info now a, (handle info now request (FileStore.first, a)).1 =
      .refuse "1" ⟨.storageError, "storage error: I/O error: File name too long (os error 36)",
        true, .empty⟩ := by
  intro fault request
  have vacant (kind : String) (hk : kind ∈ FileStore.kinds) :
      FileStore.first.Vacant kind overlongId := FileStore.fresh_first.vacant hk overlongId
  have trouble : FileStore.first.trouble? "workflows" overlongId = some fault ∧
      FileStore.first.trouble? "documents" overlongId = some fault := by
    have valid : FileStore.isValidId overlongId = true := isValidId_replicate 250
    have long (folder kind : String) : ¬ FileStore.Nameable folder kind overlongId :=
      fun named => absurd named.1 (by decide +kernel)
    exact ⟨if_pos ⟨valid, long _ _⟩, if_pos ⟨valid, long _ _⟩⟩
  have noWorkflow := FileStore.noWorkflow ready_first (vacant _ FileStore.workflows_mem_kinds)
  have noDocument := FileStore.noDocument ready_first (vacant _ FileStore.documents_mem_kinds)
  rw [trouble.1] at noWorkflow
  rw [trouble.2] at noDocument
  have asks : request.AsksForDocument overlongId := .get rfl rfl
  have answers := answersNoDocument noDocument fun f same => by
    obtain rfl := Option.some.inj same
    rfl
  exact ⟨vacant, rfl, noWorkflow, noDocument.looked, asks,
    fun info now a => congrArg Prod.fst (answers.answer info now a request asks)⟩

end Service

end Signoff
