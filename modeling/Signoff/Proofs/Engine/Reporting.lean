import Signoff.Proofs.Engine.Causes
import Signoff.Proofs.Engine.Sparing
import Signoff.Proofs.Store.Vetting
import Signoff.Proofs.Workflow.Exactness

/-!
# Internal failures in the log

A failure that should not happen is to stand in the log, once, and nothing else is to stand there as
an error. An operation that does so on a state reports (`Engine.Reports`). What leaves the log alone
and fails as expected reports, and so do two operations that stand one after the other if both do
(`Reports.bind`): a result calls for no line, so the lines that the first one added are no errors.

Making a document is the exception (`createDocument_reports`). The times that follow from its first
state are computed outside of what is reported, and if one of them is out of range, the failure is
given without a line about it (`createDocument_late`).

The main statement is `internal_failures_reported`, for every store whose own failures may be met.
-/

namespace Signoff

open Signoff.Action

/-! ## Stores that fail as expected -/

/-- The failures of the store itself are those that a client or the host of the service may meet. -/
structure Store.Meets [Store σ] (write : String → Document → Action σ Unit) : Prop
    extends Store.Joins write where
  saveWorkflow : ∀ w, Yields (fun _ => True) (fun _ => True) Failure.IsExpected
    (Store.saveWorkflow w : Action σ String)
  getWorkflow : ∀ id, Yields (fun _ => True) (fun _ => True) Failure.IsExpected
    (Store.getWorkflow id : Action σ (Option Workflow))
  createDocument : ∀ d, Yields (fun _ => True) (fun _ => True) Failure.IsExpected
    (Store.createDocument d : Action σ String)
  getDocument : ∀ id, Yields (fun _ => True) (fun _ => True) Failure.IsExpected
    (Store.getDocument id : Action σ (Option Document))

theorem MemoryStore.meets : Store.Meets MemoryStore.writeDocument where
  toJoins := joins
  saveWorkflow w := by
    refine Succeeds.yields fun s => ?_
    show ∃ id, (saveWorkflow w s).1 = .ok id
    rw [saveWorkflow, bind_apply, get_apply]
    dsimp only
    split <;> exact ⟨_, rfl⟩
  getWorkflow _ := Succeeds.yields fun _ => ⟨_, rfl⟩
  createDocument _ := Succeeds.yields fun _ => ⟨_, rfl⟩
  getDocument _ := Succeeds.yields fun _ => ⟨_, rfl⟩

theorem PlainStore.meets :
    Store.Meets fun _ => (Store.updateDocument : Document → Action PlainStore Unit) where
  toJoins := joins
  saveWorkflow _ := Succeeds.yields fun _ => ⟨_, rfl⟩
  getWorkflow _ := Succeeds.yields fun _ => ⟨_, rfl⟩
  createDocument _ := Succeeds.yields fun _ => ⟨_, rfl⟩
  getDocument _ := Succeeds.yields fun _ => ⟨_, rfl⟩

namespace FileStore

theorem writeRecord_meets (path : String) (j : Json) :
    Yields (fun _ => True) (fun _ => True) Failure.IsExpected (writeRecord path j) :=
  fun s _ => ⟨fun _ _ => trivial, fun _ => writeRecord_expected path j s⟩

theorem saveWorkflow_meets (w : Workflow) :
    Yields (fun _ => True) (fun _ => True) Failure.IsExpected (saveWorkflow w) := by
  refine ensures_get.bind_yields fun s (_ : True) => ?_
  dsimp only
  generalize (if w.id.isEmpty then s.ids.workflowId (s.workflowIds + 1) else w.id) = id
  split
  · refine (writeRecord_meets _ _).bind fun _ _ => Succeeds.yields fun _ => ?_
    split <;> exact ⟨_, rfl⟩
  · exact fun _ _ => ⟨nofun, fun _ failed => Except.error.inj failed ▸ rfl⟩

theorem writeDocument_meets (d : Document) :
    Yields (fun _ => True) (fun _ => True) Failure.IsExpected (writeDocument d) := by
  unfold writeDocument
  split
  · exact ensures_get.bind_yields fun s _ => writeRecord_meets _ _
  · exact fun _ _ => ⟨nofun, fun _ failed => Except.error.inj failed ▸ rfl⟩

theorem createDocument_meets (d : Document) :
    Yields (fun _ => True) (fun _ => True) Failure.IsExpected (createDocument d) :=
  ensures_get.bind_yields fun _ _ =>
    (writeDocument_meets _).bind fun _ _ => Succeeds.yields fun _ => ⟨_, rfl⟩

theorem getWorkflow_expected {id : String} {s : FileStore} {f : Failure}
    (h : (getWorkflow id s).1 = .error f) : f.IsExpected := by
  by_cases valid : isValidId id = true
  · rw [getWorkflow_apply valid] at h
    exact readRecord_expected h
  · rw [getWorkflow, if_neg valid] at h
    cases h

theorem meets : Store.Meets fun _ => writeDocument where
  toJoins := joins
  saveWorkflow := saveWorkflow_meets
  getWorkflow _ _ _ := ⟨fun _ _ => trivial, fun _ => getWorkflow_expected⟩
  createDocument := createDocument_meets
  getDocument _ _ _ := ⟨fun _ _ => trivial, fun _ => getDocument_expected⟩

end FileStore

namespace Engine

/-! ## Operations that report -/

/-- The lines that tell about errors. -/
def errorsIn (lines : List LogLine) : List LogLine := lines.filter (·.severity == .error)

/-- The lines about errors that a result calls for. -/
def calledFor {α : Type} : Except Failure α → List LogLine
  | .ok _ => []
  | .error f => if f.isInternal then [⟨.error, f.message⟩] else []

/-- The operation adds to the log, and what it adds about errors is what its result calls for: one
line with the text of the failure if that is internal, and nothing otherwise. -/
def Reports {σ α : Type} (op : Operation σ α) (x : σ × Ambient) : Prop :=
  ∃ lines, (op x).2.2.log = x.2.log ++ lines ∧ errorsIn lines = calledFor (op x).1

/-- The log beside a store. -/
def logOf {σ : Type} (x : σ × Ambient) : List LogLine := x.2.log

variable {σ α β : Type} {op : Operation σ α} {x : σ × Ambient}

theorem calledFor_of_expected {r : Except Failure α}
    (h : ∀ f, r = .error f → f.IsExpected) : calledFor r = [] := by
  cases r with
  | ok _ => rfl
  | error f => exact if_neg (by rw [h f rfl]; exact Bool.false_ne_true)

theorem reports_of_keeps (quiet : Keeps logOf op) (h : ∀ f, (op x).1 = .error f → f.IsExpected) :
    Reports op x :=
  ⟨[], (quiet x).trans (List.append_nil _).symm, (calledFor_of_expected h).symm⟩

theorem reports_pure (y : α) : Reports (pure y : Operation σ α) x :=
  reports_of_keeps (keeps_pure y) nofun

/-- The first operation adds no errors if it has a result, and if it has none, it is the last. -/
theorem Reports.bind {f : α → Operation σ β} (h : Reports op x)
    (h' : ∀ y x', op x = (.ok y, x') → Reports (f y) x') : Reports (op >>= f) x := by
  obtain ⟨lines, added, errors⟩ := h
  unfold Reports
  rw [bind_apply]
  rcases run : op x with ⟨e | y, x'⟩
  · rw [run] at added errors
    exact ⟨lines, added, errors⟩
  · obtain ⟨lines', added', errors'⟩ := h' y x' run
    rw [run] at added errors
    refine ⟨lines ++ lines', ?_, ?_⟩
    · show (f y x').2.2.log = _
      rw [added', show x'.2.log = _ from added, List.append_assoc]
    · show errorsIn (lines ++ lines') = calledFor (f y x').1
      rw [errorsIn, List.filter_append, ← errors', show lines.filter _ = [] from errors]
      rfl

/-- What leaves the log alone reports if it is told to. -/
theorem reporting_reports (quiet : Keeps logOf op) : Reports (reporting op) x := by
  have same := quiet x
  unfold Reports
  rw [reporting_apply]
  generalize op x = out at same ⊢
  obtain ⟨f | y, s, a⟩ := out
  · have same : a.log = x.2.log := same
    dsimp only
    rw [Ambient.report, calledFor]
    split
    · exact ⟨[⟨.error, f.message⟩], congrArg (· ++ _) same, rfl⟩
    · exact ⟨[], same.trans (List.append_nil _).symm, rfl⟩
  · exact ⟨[], same.trans (List.append_nil _).symm, rfl⟩

theorem onFirst_quiet (a : Action σ α) :
    Keeps logOf (a.onFirst : Action (σ × Ambient) α) := fun _ => rfl

theorem onFirst_reports {a : Action σ α}
    (h : Yields (fun _ => True) (fun _ => True) Failure.IsExpected a) :
    Reports (a.onFirst : Operation σ α) x :=
  reports_of_keeps (onFirst_quiet a) (h x.1 trivial).2

theorem throw_reports {f : Failure} (expected : f.IsExpected) :
    Reports (throw f : Operation σ α) x :=
  reports_of_keeps (keeps_throw f) fun _ failed => Except.error.inj failed ▸ expected

/-- A document that is scheduled is not logged. -/
theorem schedule_quiet (m : Machine) (d : Document) :
    Keeps logOf (changeSecond fun a => a.schedule m d : Action (σ × Ambient) Unit) := fun _ => rfl

/-! ## The operations of the engine -/

variable [Store σ] {write : String → Document → Action σ Unit}

theorem getWorkflow_quiet (id : String) : Keeps logOf (getWorkflow id : Operation σ Workflow) := by
  refine (onFirst_quiet _).bind fun found => ?_
  cases found with
  | none => exact keeps_throw _
  | some w => exact keeps_pure w

/-- Firing an event logs nothing before it has failed. -/
theorem applyEvent_reports (modifies : Store.Modifies write) (now : Instant) (id event : String)
    (roles : RoleSet) : Reports (applyEvent now id event roles) x := by
  unfold applyEvent
  refine reporting_reports ?_
  rw [modifies.modifyDocumentThen_eq]
  refine Keeps.bind (Keeps.bind (onFirst_quiet _) fun found => ?_) fun _ => keeps_pure _
  cases found with
  | none => exact keeps_throw _
  | some d =>
    refine Keeps.bind ((getWorkflow_quiet _).bind fun w => ?_) fun moved => ?_
    · refine (machineOf_keeps w).bind fun m => ?_
      exact (keeps_ofExcept _).bind fun _ => keeps_pure _
    · exact (onFirst_quiet _).bind fun _ => (schedule_quiet _ _).bind fun _ => keeps_pure _

/-- A machine that is found leaves the log alone. -/
theorem getMachine_quiet {id : String} {m : Machine} {x' : σ × Ambient}
    (h : getMachine id x = (.ok m, x')) : x'.2.log = x.2.log := by
  obtain ⟨w, x₁, found, made⟩ := bind_apply_ok h
  have same : x₁.2.log = x.2.log := by
    have kept := getWorkflow_quiet id x
    rwa [found] at kept
  rw [reporting_apply, machineOf_apply] at made
  cases machine : w.machine with
  | error f =>
    rw [machine] at made
    cases made
  | ok m' =>
    rw [machine] at made
    cases made
    exact same

variable (meets : Store.Meets write)
include meets

theorem getMachine_reports (id : String) : Reports (getMachine id) x := by
  refine Reports.bind ?_ fun w _ _ => reporting_reports (machineOf_keeps w)
  refine (onFirst_reports (meets.getWorkflow id)).bind fun found _ _ => ?_
  cases found with
  | none => exact throw_reports rfl
  | some w => exact reports_pure w

theorem availableEvents_reports (id : String) (roles : RoleSet) :
    Reports (availableEvents id roles) x := by
  refine Reports.bind ?_ fun d _ _ =>
    (getMachine_reports meets d.workflowId).bind fun m _ _ => reports_pure _
  refine (onFirst_reports (meets.getDocument id)).bind fun found _ _ => ?_
  cases found with
  | none => exact throw_reports rfl
  | some d => exact reports_pure d

/-- Accepting a definition warns about its deadlines, and a warning is no error. -/
theorem createWorkflow_reports (now : Instant) (d : Definition) :
    Reports (createWorkflow now d) x := by
  have warned : errorsIn (d.strayDeadlines.map fun state => ⟨.warning, d.strayWarning state⟩) =
      [] := by
    simp [errorsIn]
  obtain ⟨s, a⟩ := x
  unfold Reports
  rw [createWorkflow_apply]
  cases d.accept now with
  | error e => exact ⟨_, rfl, warned⟩
  | ok w =>
    dsimp only
    cases w.machine with
    | error f =>
      dsimp only
      rw [Ambient.report, calledFor]
      split
      · refine ⟨_, List.append_assoc .., ?_⟩
        rw [errorsIn, List.filter_append, show List.filter _ _ = [] from warned]
        rfl
      · exact ⟨_, rfl, warned⟩
    | ok m =>
      refine ⟨_, rfl, warned.trans ?_⟩
      exact (calledFor_of_expected (meets.saveWorkflow w s trivial).2).symm

end Engine

/-! ## Documents that are late from the start -/

/-- If a time is out of range, it is found out in one of the two computations. -/
theorem Machine.OutOfRange.eq_error {m : Machine} {state : String} {now : Instant}
    (h : m.OutOfRange state now) :
    ∃ f, f.isInternal = true ∧ (m.dueAt state now = .error f ∨
      ∃ dueAt, m.dueAt state now = .ok dueAt ∧ m.nextReapproval now = .error f) := by
  obtain ⟨after, none_, deadline | policy⟩ := h
  · have overflow := endOf_eq_error.2 ⟨after, deadline, none_, rfl⟩
    exact ⟨_, rfl, .inl ((dueAt_eq ..).trans overflow)⟩
  · cases due : m.dueAt state now with
    | error f =>
      rw [dueAt_eq, endOf_eq_error] at due
      obtain ⟨_, _, _, rfl⟩ := due
      exact ⟨_, rfl, .inl rfl⟩
    | ok dueAt =>
      have overflow := endOf_eq_error.2 ⟨after, policy, none_, rfl⟩
      exact ⟨_, rfl, .inr ⟨dueAt, rfl, (nextReapproval_eq ..).trans overflow⟩⟩

namespace Engine

variable {σ : Type} [Store σ] {write : String → Document → Action σ Unit} {x : σ × Ambient}
  {now : Instant} {workflowId : String} {data : Value}

/-- A time that follows from the first state of a document of the workflow is out of range. -/
def StartsLate (now : Instant) (workflowId : String) (x : σ × Ambient) : Prop :=
  ∃ m, (getMachine workflowId x).1 = .ok m ∧ m.OutOfRange m.initial now

/-- A document that would be late from the start is not made. The failure is an internal one, and
the log stays as it was. -/
theorem createDocument_late (data : Value) (late : StartsLate now workflowId x) :
    ∃ f, (createDocument now workflowId data x).1 = .error f ∧ f.isInternal = true ∧
      (createDocument now workflowId data x).2.2.log = x.2.log := by
  obtain ⟨m, made, late⟩ := late
  rcases run : getMachine workflowId x with ⟨r, x'⟩
  obtain rfl : r = .ok m := by rw [← made, run]
  have quiet := getMachine_quiet run
  obtain ⟨f, internal, failed | ⟨dueAt, read, failed⟩⟩ := late.eq_error
  · have eq : createDocument now workflowId data x = (.error f, x') := by
      rw [createDocument, bind_apply, run]
      simp only [bind_apply, ofExcept_apply, failed]
    exact ⟨f, by rw [eq], internal, by rw [eq]; exact quiet⟩
  · have eq : createDocument now workflowId data x = (.error f, x') := by
      rw [createDocument, bind_apply, run]
      simp only [bind_apply, ofExcept_apply, read, failed]
    exact ⟨f, by rw [eq], internal, by rw [eq]; exact quiet⟩

theorem createDocument_reports (meets : Store.Meets write) :
    Reports (createDocument now workflowId data) x ↔ ¬ StartsLate now workflowId x := by
  constructor
  · rintro ⟨lines, added, errors⟩ late
    obtain ⟨f, failed, internal, quiet⟩ := createDocument_late data late
    have none_ : lines = [] := List.append_right_eq_self.1 (added.symm.trans quiet)
    rw [none_, failed, calledFor, if_pos internal] at errors
    cases errors
  · intro punctual
    have inRange {m : Machine} {x' : σ × Ambient} (run : getMachine workflowId x = (.ok m, x')) :
        ¬ m.OutOfRange m.initial now := fun late => punctual ⟨m, by rw [run], late⟩
    unfold createDocument
    refine (getMachine_reports meets workflowId).bind fun m _ run => ?_
    refine Reports.bind ?_ fun dueAt _ _ => Reports.bind ?_ fun nextReapproval _ _ => ?_
    · exact reports_of_keeps (keeps_ofExcept _) fun f failed =>
        absurd (Machine.dueAt_eq_error (by rwa [ofExcept_apply] at failed)).1 (inRange run)
    · exact reports_of_keeps (keeps_ofExcept _) fun f failed =>
        absurd (Machine.nextReapproval_eq_error (by rwa [ofExcept_apply] at failed)).1
          (inRange run)
    · dsimp only
      rw [meets.createDocumentThen]
      refine Reports.bind ?_ fun _ _ _ => reports_pure _
      refine (onFirst_reports (meets.createDocument _)).bind fun id _ _ => ?_
      exact Reports.bind (reports_of_keeps (schedule_quiet _ _) nofun) fun _ _ _ => reports_pure _

/-- On a store and beside it, the operations of the engine report. -/
structure ReportsAll (x : σ × Ambient) : Prop where
  createWorkflow : ∀ now d, Reports (createWorkflow now d) x
  getMachine : ∀ id, Reports (getMachine id) x
  applyEvent : ∀ now id event roles, Reports (applyEvent now id event roles) x
  availableEvents : ∀ id roles, Reports (availableEvents id roles) x
  createDocument : ∀ now id data, Reports (createDocument now id data) x ↔ ¬ StartsLate now id x
  late : ∀ now id data, StartsLate now id x → ∃ f,
    (Engine.createDocument now id data x).1 = .error f ∧ f.isInternal = true ∧
      (Engine.createDocument now id data x).2.2.log = x.2.log

theorem reportsAll (meets : Store.Meets write) (x : σ × Ambient) : ReportsAll x where
  createWorkflow := createWorkflow_reports meets
  getMachine := getMachine_reports meets
  applyEvent := applyEvent_reports meets.toModifies
  availableEvents := availableEvents_reports meets
  createDocument _ _ _ := createDocument_reports meets
  late _ _ _ := createDocument_late _

/-- Whatever a store keeps, checked or not, and whatever the time, an internal failure of the engine
is logged in one line with its text, and no other line is logged as an error. The one exception is a
document that would be late from the start: its failure is not logged. This holds for records in
memory, in two maps, in files on a disk with any faults, and in any store that creates and modifies
documents in the general way and whose own failures are not internal. -/
theorem internal_failures_reported (a : Ambient) :
    (∀ s : MemoryStore, ReportsAll (s, a)) ∧
    (∀ s : PlainStore, ReportsAll (s, a)) ∧
    (∀ s : FileStore, ReportsAll (s, a)) ∧
    ∀ {σ : Type} [Store σ] (write : String → Document → Action σ Unit), Store.Meets write →
      ∀ s : σ, ReportsAll (s, a) :=
  ⟨fun _ => reportsAll MemoryStore.meets _, fun _ => reportsAll PlainStore.meets _,
    fun _ => reportsAll FileStore.meets _, fun _ meets _ => reportsAll meets _⟩

/-- A workflow in which a document has an hour to leave its first state. -/
def urgent : Workflow where
  id := "w"
  definition :=
    { name := "u"
      states := [⟨"New", true, false⟩]
      transitions := [⟨"New", "New", "again", .empty⟩]
      deadlines := .ofList [("New", "1h")]
      reapproval := none }
  createdAt := .epoch

/-- Records in memory with a document of that workflow. -/
def urgentRecords : MemoryStore where
  workflows := .ofList [("w", urgent)]
  documents := .ofList [("d", { Document.create "w" "New" .null .epoch with id := "d" })]
  workflowIds := 0
  documentIds := 0
  ids := .numbering

/-- The start of the last second. -/
def lastInstant : Instant := (Instant.ofSecond? Instant.lastSecond 0).getD .epoch

/-- The machine of that workflow starts in its only state, which has its deadline and its loop. -/
theorem urgent_machine : ∃ m, urgent.machine = .ok m ∧ m.initial = "New" ∧
    m.deadline? "New" = some ⟨Duration.hour⟩ ∧ m.isTerminal "New" = false ∧
    m.transition? "New" "again" = some ⟨"New", "New", "again", .empty⟩ ∧ m.reapproval = none := by
  have hour : Duration.parse "1h" = .ok ⟨Duration.hour⟩ := by decide +kernel
  obtain ⟨m, compiled⟩ := Machine.ofWorkflow_of_compiles (w := urgent) {
    initial := ⟨_, rfl⟩
    distinct := by decide
    deadlines := fun x hx => by
      obtain rfl : x = ("New", "1h") := List.mem_singleton.1 hx
      exact ⟨_, hour⟩
    reapproval := by rintro _ ⟨⟩ }
  have mirrors := Machine.mirrors compiled
  refine ⟨m, Workflow.machine_eq_ok.2 compiled, ?_, ?_, ?_, ?_, mirrors.reapproval⟩
  · obtain ⟨s, only, name⟩ := mirrors.initial
    cases only
    exact name.symm
  · obtain ⟨d, read, known⟩ := mirrors.deadline "New"
    cases read.symm.trans hour
    exact known
  · refine Bool.eq_false_iff.2 fun terminal => ?_
    have none_ : ∀ s ∈ urgent.definition.states, ¬ s.terminal = true := by decide
    obtain ⟨s, mem, -, isTerminal⟩ := (mirrors.terminal "New").1 terminal
    exact none_ s mem isTerminal
  · exact (mirrors.transition ..).2 ⟨List.mem_cons_self, rfl, rfl⟩

theorem urgent_startsLate (a : Ambient) : StartsLate lastInstant "w" (urgentRecords, a) := by
  obtain ⟨m, made, initial, deadline, -⟩ := urgent_machine
  refine ⟨m, ?_, ⟨Duration.hour⟩, by decide, .inl (initial ▸ deadline)⟩
  rw [getMachine_memory, show urgentRecords.workflows.get? "w" = some urgent from rfl]
  dsimp only
  rw [made]

/-- In the last second a document of that workflow is not made, and the log says nothing about the
internal failure. -/
theorem late_document_unreported :
    (∃ f, (createDocument lastInstant "w" .null (urgentRecords, .start true)).1 = .error f ∧
      f.isInternal = true) ∧
    (createDocument lastInstant "w" .null (urgentRecords, .start true)).2.2.log = [] ∧
    ¬ Reports (createDocument lastInstant "w" .null) (urgentRecords, .start true) := by
  have late := urgent_startsLate (.start true)
  obtain ⟨f, failed, internal, quiet⟩ := createDocument_late .null late
  exact ⟨⟨f, failed, internal⟩, quiet,
    fun reports => (createDocument_reports MemoryStore.meets).1 reports late⟩

/-- The document that is there already cannot move at that time for the same reason, and that the
log says, in a single line. Long before, a document can be made. -/
theorem late_move_reported :
    (∃ f, (applyEvent lastInstant "d" "again" .empty (urgentRecords, .start true)).1 = .error f ∧
      errorsIn (applyEvent lastInstant "d" "again" .empty (urgentRecords, .start true)).2.2.log =
        [⟨.error, f.message⟩]) ∧
    Reports (createDocument .epoch "w" .null) (urgentRecords, .start true) := by
  obtain ⟨m, made, initial, deadline, running, found, policy⟩ := urgent_machine
  have stored : urgentRecords.workflows.get? "w" = some urgent := rfl
  have reports := (internal_failures_reported (.start true)).2.2.2 _ MemoryStore.meets urgentRecords
  constructor
  · obtain ⟨f, overflow, internal⟩ :
        ∃ f, m.dueAt "New" lastInstant = .error f ∧ f.isInternal = true := by
      rw [Machine.dueAt_eq, deadline]
      exact ⟨_, Machine.endOf_eq_error.2 ⟨_, rfl, by decide, rfl⟩, rfl⟩
    have failed : (applyEvent lastInstant "d" "again" .empty (urgentRecords, .start true)).1 =
        .error f := by
      rw [applyEvent_memory]
      simp only [show urgentRecords.documents.get? "d" = some _ from rfl, Document.create, stored,
        made]
      rw [Document.fire_accepted lastInstant ⟨running, found, rfl⟩, overflow]
      rfl
    obtain ⟨lines, added, errors⟩ := reports.applyEvent lastInstant "d" "again" .empty
    rw [failed, calledFor, if_pos internal] at errors
    exact ⟨f, failed, by rw [added]; exact errors⟩
  · refine (reports.createDocument _ _ _).2 ?_
    rintro ⟨m', made', after, none_, late⟩
    rw [getMachine_memory, stored] at made'
    dsimp only at made'
    rw [made] at made'
    cases made'
    rw [initial, deadline, policy] at late
    obtain same | ⟨⟨⟩⟩ := late
    cases same
    revert none_
    decide

end Engine

end Signoff
