import Signoff.Command.Arguments
import Signoff.Command.Report
import Signoff.Service.Lines
import Signoff.Settings.Environment
import Signoff.Store.Files
import Signoff.Store.Memory
/-!
# Running commands

A command runs on a host, which has a disk, an environment and a clock, and ends with an outcome:
what it prints and its exit code. The file store of a host is on its disk; records in memory last as
long as the command.

- `Command.run` runs the program with its arguments on its input.
-/

namespace Signoff

/-- What a command runs on. Ids are numbered over all commands. -/
structure Host where
  disk : Disk
  environment : Environment
  now : Instant
  workflowIds : Nat
  documentIds : Nat

/-- The end of a command. -/
structure Outcome where
  code : UInt8
  output : String
  errors : String
deriving DecidableEq, Repr

namespace Command

/-- The name of the program. -/
def programName : String := "docflow"

/-- The version of the program. -/
def programVersion : String := "0.1.0"

/-- How the program is used. -/
def usage : String :=
  let commands := ", ".intercalate names
  s!"Usage: {programName} [-c FILE] COMMAND\nCommands: {commands}\n"

/-- Text is painted only if the environment insists. -/
def isPainted (e : Environment) : Bool := (e "CLICOLOR_FORCE").any (· != "0")

/-- What the service says about itself with some settings. -/
def infoOf (s : Settings) : ServiceInfo :=
  ⟨programName, programVersion, s.backend.name, s.maxDefinitionBytes⟩

/-- Uses the service with some settings on the records of a host. -/
def onRecords {α : Type} (s : Settings) (h : Host)
    (use : {σ : Type} → [Store σ] → σ × Ambient → α × σ × Ambient) : α × Host :=
  let ambient := Ambient.start s.timersEnabled
  match s.backend with
  | .memory =>
    let records : MemoryStore := ⟨.empty, .empty, h.workflowIds, h.documentIds, .numbering⟩
    let (a, records, _) := use (records, ambient)
    (a, { h with workflowIds := records.workflowIds, documentIds := records.documentIds })
  | .file =>
    let records : FileStore := ⟨h.disk, s.dataFolder, h.workflowIds, h.documentIds, .numbering⟩
    let (a, records, _) := use (records, ambient)
    (a, { h with
      disk := records.disk
      workflowIds := records.workflowIds
      documentIds := records.documentIds })

/-- A step of a command on a host, which may fail with a message. -/
abbrev Step (α : Type) := ExceptT String (StateM Host) α

/-- The bytes of a file. -/
def readBytes (path : String) : Step Bytes := fun h =>
  let (r, disk) := Disk.read path h.disk
  (r.mapError (·.message), { h with disk })

/-- The text of a file. -/
def readText (path : String) : Step String := do
  match decode? (← readBytes path) with
  | some text => return text
  | none => throw Disk.Error.notUtf8.message

/-- The settings of a host. -/
def loadSettings (path : Option String) : ExceptT SettingsError (StateM Host) Settings := fun h =>
  let (r, _, disk) := Settings.load path h.environment h.disk
  (r, { h with disk })

/-- Makes the folders that the records need. -/
def prepare (s : Settings) : ExceptT StorageError (StateM Host) Unit := fun h =>
  match s.backend with
  | .memory => (.ok (), h)
  | .file =>
    let (r, disk) := FileStore.openAt h.disk s.dataFolder h.workflowIds h.documentIds .numbering
    (r.map fun _ => (), { h with disk })

/-- The data of a document, given as JSON or by the name of a file of JSON. -/
def readData (argument : Option String) : Step Json := do
  match argument with
  | none => return .null
  | some argument =>
    let text ←
      match argument.toList with
      | '@' :: path => readText (String.ofList path)
      | _ => pure argument
    match Json.Schema.value.ofText (.ofString text) with
    | .ok v => return v.json
    | .error e => throw e.message

/-- The request that a call makes. -/
def request (c : Call) : Step (Operation × Json) := do
  let roleList (roles : List String) : Json := .array (roles.map .string)
  match c with
  | .createWorkflow file =>
    return (.createWorkflow, .object [("definition", .string (← readText file))])
  | .getWorkflow id => return (.getWorkflow, .object [("workflow_id", .string id)])
  | .createDocument workflow data =>
    return (.createDocument, .object [("workflow_id", .string workflow), ("data", ← readData data)])
  | .getDocument id => return (.getDocument, .object [("document_id", .string id)])
  | .applyEvent document event roles =>
    return (.applyEvent, .object [("document_id", .string document), ("event", .string event),
      ("roles", roleList roles)])
  | .availableEvents document roles =>
    return (.availableEvents, .object [("document_id", .string document),
      ("roles", roleList roles)])

/-- What a call reports about the result of its request. -/
def report (painted : Bool) (c : Call) (result : Json) : String :=
  match c with
  | .createWorkflow _ => describeNewWorkflow painted result
  | .getWorkflow id => describeWorkflow painted id result
  | .createDocument _ _ =>
    Paint.green.apply painted "Created" ++ " " ++ describeDocument painted result
  | .getDocument _ => describeDocument painted result
  | .applyEvent _ _ _ =>
    Paint.green.apply painted "Applied" ++ " " ++ describeDocument painted result
  | .availableEvents id _ => describeEvents painted id result

/-- Has the service answer a request. -/
def ask (s : Settings) (operation : Operation) (params : Json) : Step Json := fun h =>
  let r : Request := ⟨.request, "cli", operation, .ofJson params⟩
  let (response, h) := onRecords s h (Service.handle (infoOf s) h.now r)
  match response.result, response.error with
  | some v, _ => (.ok v.json, h)
  | none, some e => (.error s!"{e.code.name}: {e.message}", h)
  | none, none => (.error "empty response", h)

/-- Makes a call and gives its report. -/
def runCall (settings : Option String) (c : Call) : Step String := do
  let painted := isPainted (← get).environment
  let s ← (loadSettings settings).adapt (·.message)
  (prepare s).adapt fun e => (Fault.storage e).message
  let (operation, params) ← request c
  return report painted c (← ask s operation params)

/-- Checks a file that holds a definition and sums it up. -/
def runValidate (file : String) : Step String := do
  let bytes ← readBytes file
  let h ← get
  let checked : Except Failure String := do
    let d ← Definition.ofBytes bytes
    let w ← (d.accept h.now).mapError fun e => .invalidDefinition e.message
    let m ← (Machine.ofWorkflow w).mapError (·.toFailure)
    return describeMachine (isPainted h.environment) d m
  match checked with
  | .ok text => return text
  | .error f => throw f.message

/-- The settings for serving requests, with all that the records need. Fails with a diagnostic. -/
def startServing (settings : Option String) : Step Settings := do
  let s ← (loadSettings settings).adapt (·.diagnosis)
  (prepare s).adapt (·.diagnosis)
  return s

/-- The lines of responses. -/
def encodeResponses (responses : List Response) : String :=
  String.join (responses.map fun r => encodeLine r.toJson)

/-- Answers requests on the pieces of the input. -/
def runServe (settings : Option String) (input : List Bytes) : Step String := do
  let s ← startServing settings
  let h ← get
  let (responses, h) := onRecords s h (Service.serve (infoOf s) (fun _ => h.now) input)
  set h
  return encodeResponses responses

/-- Ends a command. A message about an error has a title of its own. -/
def finish (title : String) (lineEnd : String) (step : Step String) (h : Host) : Outcome × Host :=
  match step h with
  | (.ok text, h) => (⟨0, text ++ lineEnd, ""⟩, h)
  | (.error message, h) => (⟨1, "", s!"{title}: {message}\n"⟩, h)

/-- Runs a command. -/
def perform (i : Invocation) (input : List Bytes) (h : Host) : Outcome × Host :=
  let title := Paint.red.apply (isPainted h.environment) "Error"
  match i.command with
  | .validate file => finish title "\n" (runValidate file) h
  | .serve => finish "Error" "" (runServe i.settings input) h
  | .call c => finish title "\n" (runCall i.settings c) h

/-- The outcome of arguments that do not make a command. -/
def divert : Detour → Outcome
  | .misuse => ⟨2, "", usage⟩
  | .help => ⟨0, usage, ""⟩
  | .version => ⟨0, s!"{programName} {programVersion}\n", ""⟩

/-- Runs the program with its arguments on its input. -/
def run (arguments : List String) (input : List Bytes) (h : Host) : Outcome × Host :=
  match Invocation.parse (h.environment "DOCFLOW_CONFIG") arguments with
  | .ok i => perform i input h
  | .error detour => (divert detour, h)

end Command

end Signoff
