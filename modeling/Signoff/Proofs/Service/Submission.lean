import Signoff.Command.Run
import Signoff.Proofs.Definition.Texts
import Signoff.Proofs.Engine.Accepting
import Signoff.Proofs.Service.Session

/-!
# Ways to submit a definition

A definition may be submitted to the service as a value or as the compact text of the value, and the
text may be given to the engine or to the command that validates files. All of them come to the same
verdict (`submissions_agree`): the service measures both forms alike, and whatever it does not find
too large is kept by the service and the engine and found valid by the command, with one checksum,
or refused by all of them.

Each way is one equation that ends in the checks of the definition: `handle_submission`,
`Engine.createWorkflowText_apply` and `Command.runValidate_apply`.
-/

namespace Signoff

/-! ## The engine -/

namespace Engine

/-- In memory a definition without a defect is always saved. -/
theorem createWorkflow_kept (now : Instant) (d : Definition) (s : MemoryStore × Ambient) :
    createWorkflow now d s = match d.check with
      | .error e => (.error (.invalidDefinition e.message), s.1, s.2.warn d)
      | .ok () => (.ok s.1.nextWorkflowId, s.1.addWorkflow ⟨"", d, now⟩, s.2.warn d) := by
  rw [createWorkflow_checked]
  cases d.check with
  | error e => rfl
  | ok u =>
    dsimp only
    rw [MemoryStore.saveWorkflow_apply rfl]

theorem createWorkflowText_apply (now : Instant) (bytes : Bytes) (s : MemoryStore × Ambient) :
    createWorkflowText now bytes s = match Definition.ofBytes bytes with
      | .error f => (.error f, s)
      | .ok d => createWorkflow now d s := by
  rw [createWorkflowText, Action.bind_apply, Action.ofExcept_apply]
  cases Definition.ofBytes bytes <;> rfl

end Engine

/-! ## The command -/

namespace Command

/-- How a report on a valid definition begins. -/
def headline (painted : Bool) (d : Definition) : String :=
  let verdict := Paint.green.apply painted "Valid"
  let name := Paint.cyan.apply painted d.name
  s!"{verdict} {name} (checksum: {d.checksum})\n"

/-- White space at the end of a text is dropped up to a character that is none. -/
theorem prefix_trimEnd (cs rest : List Char) {c : Char} (h : isBlank c = false) :
    cs <+: trimEnd (cs ++ c :: rest) := by
  have kept : c :: cs.reverse <:+ (rest.reverse ++ c :: cs.reverse).dropWhile isBlank := by
    rw [List.dropWhile_append, List.dropWhile_cons_of_neg (by simp [h])]
    split
    · exact List.suffix_refl _
    · exact List.suffix_append _ _
  have whole := List.reverse_prefix.2 kept
  rw [List.reverse_cons, List.reverse_reverse] at whole
  rw [trimEnd, List.reverse_append, List.reverse_cons, List.append_assoc, List.singleton_append]
  exact (List.prefix_append cs [c]).trans whole

/-- A report shows the name and the checksum. -/
theorem describeMachine_begins (painted : Bool) (d : Definition) (m : Machine) :
    (headline painted d).toList <+: (describeMachine painted d m).toList := by
  -- the title of the states keeps the white space of the headline from being trimmed
  obtain ⟨c, title, eq, dark⟩ : ∃ c title,
      (Paint.bold.apply painted "States:" ++ "\n").toList = c :: title ∧ isBlank c = false := by
    cases painted
    · exact ⟨_, _, rfl, rfl⟩
    · exact ⟨_, _, rfl, rfl⟩
  unfold describeMachine
  dsimp only
  rw [String.toList_ofList, String.toList_append, String.toList_append, String.toList_append, eq,
    List.append_assoc, List.append_assoc, List.cons_append]
  exact prefix_trimEnd _ _ dark

/-- The report on the definition that some bytes hold, if they hold one without a defect. -/
def reportOn (painted : Bool) (now : Instant) (bytes : Bytes) : Except Failure String := do
  let d ← Definition.ofBytes bytes
  let w ← (d.accept now).mapError fun e => .invalidDefinition e.message
  let m ← (Machine.ofWorkflow w).mapError (·.toFailure)
  return describeMachine painted d m

/-- The command gives the report on the bytes of the file. -/
theorem runValidate_apply {file : String} {h : Host} {bytes : Bytes}
    (read : (Disk.read file h.disk).1 = .ok bytes) :
    runValidate file h =
      ((reportOn (isPainted h.environment) h.now bytes).mapError Failure.message,
        { h with disk := (Disk.read file h.disk).2 }) := by
  have bytes_ : readBytes file h = (.ok bytes, { h with disk := (Disk.read file h.disk).2 }) := by
    show ((Disk.read file h.disk).1.mapError _, _) = _
    rw [read]
    rfl
  rw [runValidate, Action.bind_apply, bytes_]
  dsimp only
  rw [Action.bind_apply, Action.get_apply]
  dsimp only
  rw [reportOn]
  generalize (Definition.ofBytes bytes >>= fun d => _) = report
  cases report <;> rfl

/-- The command has found the definition valid: its report shows the name and the checksum. -/
structure Confirms (painted : Bool) (d : Definition) (o : Outcome) : Prop where
  code : o.code = 0
  output : (headline painted d).toList <+: o.output.toList
  errors : o.errors = ""

/-- The command has failed: it reports nothing but an error. -/
structure Rejects (o : Outcome) : Prop where
  code : o.code = 1
  output : o.output = ""

/-- Wherever a file holds the bytes, the command finds that they are a valid definition. -/
def Validates (bytes : Bytes) (d : Definition) : Prop :=
  ∀ (settings : Option String) (file : String) (input : List Bytes) (h : Host),
    (Disk.read file h.disk).1 = .ok bytes →
    Confirms (isPainted h.environment) d (perform ⟨settings, .validate file⟩ input h).1

/-- Wherever a file holds the bytes, the command fails on it. -/
def Invalidates (bytes : Bytes) : Prop :=
  ∀ (settings : Option String) (file : String) (input : List Bytes) (h : Host),
    (Disk.read file h.disk).1 = .ok bytes →
    Rejects (perform ⟨settings, .validate file⟩ input h).1

variable {bytes : Bytes} {d : Definition}

theorem validates_of_check (read : Definition.ofBytes bytes = .ok d) (checked : d.check = .ok ()) :
    Validates bytes d := by
  intro settings file input h holds
  obtain ⟨m, compiled⟩ := Machine.ofWorkflow_of_sound (w := ⟨"", d, h.now⟩)
    (Definition.sound_of_check checked)
  have report : reportOn (isPainted h.environment) h.now bytes =
      .ok (describeMachine (isPainted h.environment) d m) :=
    bind_eq_ok.2 ⟨d, read, bind_eq_ok.2 ⟨⟨"", d, h.now⟩,
      mapError_eq_ok.2 (Definition.accept_eq_ok.2 ⟨checked, rfl⟩),
      bind_eq_ok.2 ⟨m, mapError_eq_ok.2 compiled, rfl⟩⟩⟩
  show Confirms _ d (finish _ "\n" (runValidate file) h).1
  rw [finish, runValidate_apply holds, report]
  refine ⟨rfl, (describeMachine_begins _ d m).trans ?_, rfl⟩
  show _ <+: (describeMachine _ d m ++ "\n").toList
  rw [String.toList_append]
  exact List.prefix_append _ _

theorem invalidates_of_reportOn (h : ∀ painted now, ∃ f, reportOn painted now bytes = .error f) :
    Invalidates bytes := by
  intro settings file input host holds
  obtain ⟨f, failed⟩ := h (isPainted host.environment) host.now
  show Rejects (finish _ "\n" (runValidate file) host).1
  rw [finish, runValidate_apply holds, failed]
  exact ⟨rfl, rfl⟩

theorem invalidates_of_unread {f : Failure} (failed : Definition.ofBytes bytes = .error f) :
    Invalidates bytes :=
  invalidates_of_reportOn fun _ _ => ⟨f, bind_eq_error.2 (.inl failed)⟩

theorem invalidates_of_defect (read : Definition.ofBytes bytes = .ok d) {e : Definition.Defect}
    (failed : d.check = .error e) : Invalidates bytes :=
  invalidates_of_reportOn fun _ _ => ⟨_, bind_eq_error.2 (.inr ⟨d, read, bind_eq_error.2 (.inl
    (mapError_eq_error.2 ⟨e, Definition.accept_eq_error.2 failed, rfl⟩))⟩)⟩

end Command

/-! ## The service -/

namespace Service

variable {info : ServiceInfo} {now : Instant} {id : String} {s : MemoryStore × Ambient}

/-- A request to create a workflow by a definition, given as a value or as its text. -/
def submission (id : String) (definition : Value) : Request :=
  ⟨.request, id, .createWorkflow, .ofJson (CreateWorkflowParams.toJson ⟨definition⟩)⟩

/-- The answer to a definition that is kept, and the state it leaves. -/
def creation (now : Instant) (id : String) (d : Definition) (s : MemoryStore × Ambient) :
    Response × MemoryStore × Ambient :=
  ((Response.ok id
      (.ofJson (CreateWorkflowResult.toJson ⟨s.1.nextWorkflowId, d.checksum⟩))).at_ now,
    s.1.addWorkflow ⟨"", d, now⟩, s.2.warn d)

/-- What becomes of a definition that is not too large: it may not be read, and then not pass the
checks. -/
def verdict (now : Instant) (id : String) (s : MemoryStore × Ambient)
    (read : Except Failure Definition) : Response × MemoryStore × Ambient :=
  match read with
  | .error f => (.refuse id (errorOf (.failure f)), s)
  | .ok d =>
    match d.check with
    | .error e => (.refuse id (errorOf (.failure (.invalidDefinition e.message))), s.1, s.2.warn d)
    | .ok () => creation now id d s

/-- The request is refused for its definition, and the records stay as they are. -/
structure IsInvalid (id : String) (s : MemoryStore × Ambient)
    (answer : Response × MemoryStore × Ambient) : Prop where
  refused : ∃ e, answer.1 = .refuse id e ∧ e.code = .invalidDefinition
  kept : answer.2.1 = s.1

theorem read_submission (id : String) (v : Value) :
    (submission id v).read? CreateWorkflowParams.schema = some ⟨v⟩ := by
  have kept : (submission id v).read? CreateWorkflowParams.schema =
      some ⟨.ofJson (Value.ofJson v.json).json⟩ := rfl
  rw [kept, Value.ofJson_json, Value.ofJson_json]

/-- A definition that is submitted is measured, read and checked. -/
theorem handle_submission {v : Value} {size : Nat} {read : Except Failure Definition}
    (defined : definitionOf info v = if info.maxDefinitionBytes < size then
      .error (.tooLarge size info.maxDefinitionBytes) else read.mapError .failure) :
    handle info now (submission id v) s = if info.maxDefinitionBytes < size then
      (.refuse id (errorOf (.tooLarge size info.maxDefinitionBytes)), s)
      else verdict now id s read := by
  have params : readParams CreateWorkflowParams.schema (submission id v).params s = (.ok ⟨v⟩, s) :=
    readParams_ok.2 ⟨read_submission id v, rfl⟩
  have performs : perform info now (submission id v).operation (submission id v).params s =
      createWorkflow info now (submission id v).params s := rfl
  rw [handle, performs, createWorkflow, Action.bind_apply, params]
  dsimp only
  rw [Action.bind_apply, readDefinition_apply, defined]
  by_cases large : info.maxDefinitionBytes < size
  · rw [if_pos large, if_pos large]
    rfl
  rw [if_neg large, if_neg large]
  cases read with
  | error f => rfl
  | ok d =>
    dsimp only [Except.mapError, verdict]
    rw [Action.bind_apply, engine_apply, Engine.createWorkflow_kept]
    cases d.check <;> rfl

/-- A value that is no string is measured by its compact text. -/
theorem definitionOf_structured {v : Value} (structured : ∀ text, v.json ≠ .string text) :
    definitionOf info v = if info.maxDefinitionBytes < v.json.compact.utf8ByteSize then
      .error (.tooLarge v.json.compact.utf8ByteSize info.maxDefinitionBytes)
      else (Definition.ofValue v).mapError .failure := by
  unfold definitionOf
  cases json : v.json with
  | string text => exact absurd json (structured text)
  | _ => rfl

/-- A definition that is read neither as a value nor as bytes is refused as both, by the engine and
by the command. One that is read alike is checked alike. -/
theorem verdicts_agree (now : Instant) (id : String) (s : MemoryStore × Ambient)
    {read : Except Failure Definition} {bytes : Bytes}
    (same : ∀ {d}, Definition.ofBytes bytes = .ok d ↔ read = .ok d)
    (invalid : ∀ {f}, read = .error f → ∃ reason, f = .invalidDefinition reason) :
    let byValue := verdict now id s read
    let byText := verdict now id s (Definition.ofBytes bytes)
    let byEngine := Engine.createWorkflowText now bytes s
    (∃ d, byValue = creation now id d s ∧ byText = creation now id d s ∧
      byEngine = (.ok s.1.nextWorkflowId, (creation now id d s).2) ∧
      Command.Validates bytes d) ∨
    IsInvalid id s byValue ∧ IsInvalid id s byText ∧ byText.2 = byValue.2 ∧
      (∃ reason, byEngine.1 = .error (.invalidDefinition reason)) ∧
      Command.Invalidates bytes := by
  dsimp only
  rw [Engine.createWorkflowText_apply]
  cases unread : Definition.ofBytes bytes with
  | error f =>
    obtain ⟨reason, rfl⟩ := Definition.invalid_of_unreadable unread
    have commanded := Command.invalidates_of_unread unread
    cases other : read with
    | ok d => exact absurd (unread.symm.trans (same.2 other)) nofun
    | error f' =>
      obtain ⟨_, rfl⟩ := invalid other
      exact .inr ⟨⟨⟨_, rfl, rfl⟩, rfl⟩, ⟨⟨_, rfl, rfl⟩, rfl⟩, rfl, ⟨_, rfl⟩, commanded⟩
  | ok d =>
    rw [same.1 unread]
    dsimp only [verdict]
    rw [Engine.createWorkflow_kept]
    cases checked : d.check with
    | ok u => exact .inl ⟨d, rfl, rfl, rfl, Command.validates_of_check unread checked⟩
    | error e =>
      exact .inr ⟨⟨⟨_, rfl, rfl⟩, rfl⟩, ⟨⟨_, rfl, rfl⟩, rfl⟩, rfl, ⟨_, rfl⟩,
        Command.invalidates_of_defect unread checked⟩

end Service

open Service

/-- All ways to submit a definition come to the same verdict. A value that is no string and its
compact text are too large for the service alike. Otherwise the service and the engine keep the same
definition, and the command shows its checksum; or none of them takes it. -/
theorem submissions_agree (v : Value) (structured : ∀ text, v.json ≠ .string text)
    (info : ServiceInfo) (now : Instant) (id : String) (s : MemoryStore × Ambient) :
    let text := v.json.compact
    let byValue := handle info now (submission id v) s
    let byText := handle info now (submission id (.ofJson (.string text))) s
    let byEngine := Engine.createWorkflowText now (encode text) s
    if info.maxDefinitionBytes < text.utf8ByteSize then
      byValue =
        (.refuse id (errorOf (.tooLarge text.utf8ByteSize info.maxDefinitionBytes)), s) ∧
      byText = byValue
    else
      (∃ d, byValue = creation now id d s ∧ byText = creation now id d s ∧
        byEngine = (.ok s.1.nextWorkflowId, (creation now id d s).2) ∧
        Command.Validates (encode text) d) ∨
      IsInvalid id s byValue ∧ IsInvalid id s byText ∧ byText.2 = byValue.2 ∧
        (∃ reason, byEngine.1 = .error (.invalidDefinition reason)) ∧
        Command.Invalidates (encode text) := by
  intro text byValue byText byEngine
  have value : byValue = _ := handle_submission (definitionOf_structured structured)
  have given : byText = if info.maxDefinitionBytes < text.utf8ByteSize then _ else
      verdict now id s (Definition.ofBytes (encode text)) := handle_submission rfl
  rw [value, given]
  split
  · exact ⟨rfl, rfl⟩
  · exact verdicts_agree now id s (Definition.ofBytes_compact v) Definition.invalid_of_unreadable

/-- A definition with a state and a transition in lists, and a state with a member that is not
known. -/
def listed : Value :=
  .ofJson (.object [
    ("name", .string "w"),
    ("states", .array [
      .array [.string "New", .bool true],
      .object [("name", .string "Old"), ("opacity", .array [.number (.real (.zero true))])]]),
    ("transitions", .array [.array [.string "New", .string "Old", .string "go"]]),
    ("sla", .null)])

/-- It is taken in each way. -/
theorem listed_submissions_agree :
    let text := listed.json.compact
    let s := (MemoryStore.empty, Ambient.start false)
    (∀ text, listed.json ≠ .string text) ∧
      ∃ d, handle Session.reviewer .epoch (submission "1" listed) s = creation .epoch "1" d s ∧
        handle Session.reviewer .epoch (submission "1" (.ofJson (.string text))) s =
          creation .epoch "1" d s ∧
        Command.Validates (encode text) d := by
  intro text s
  have structured : ∀ text, listed.json ≠ .string text := by
    intro text same
    have : listed.json.isScalar = false := by decide +kernel
    rw [same] at this
    cases this
  have fits : ¬ Session.reviewer.maxDefinitionBytes < text.utf8ByteSize := by decide +kernel
  have granted : (handle Session.reviewer .epoch (submission "1" listed) s).1.status = .ok := by
    decide +kernel
  have main := submissions_agree listed structured Session.reviewer .epoch "1" s
  dsimp only at main
  rw [if_neg fits] at main
  obtain ⟨d, value, given, -, validates⟩ | ⟨⟨⟨e, refused, -⟩, -⟩, -⟩ := main
  · exact ⟨structured, d, value, given, validates⟩
  · rw [refused] at granted
    cases granted

end Signoff
