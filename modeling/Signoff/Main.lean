import Signoff.Command.Run
import Std.Time.DateTime.Timestamp
/-!
# The program

Commands run on the system. What a command may look at is brought from the file system to a disk
before it runs, and what it changed there is written back. Requests are answered line by line as
they come in.
-/

namespace Signoff.Program

/-- The environment variables that matter. -/
def environmentNames : List String :=
  ["DOCFLOW_CONFIG", "DOCFLOW_STORAGE", "DOCFLOW_DATA", "DOCFLOW_MAX_DEFINITION_BYTES",
    "DOCFLOW_TIMERS_ENABLED", "CLICOLOR_FORCE"]

/-- The environment of the system. -/
def environment : IO Environment := do
  let values ← environmentNames.filterMapM fun name => do
    return (← IO.getEnv name).map (name, ·)
  return fun name => values.lookup name

/-- The time on the clock of the system. -/
def now : IO Instant := do
  let t ← Std.Time.Timestamp.now
  let n := t.toNanosecondsSinceUnixEpoch.val
  return (Instant.ofSecond? (n / 1000000000) (n % 1000000000).toNat).getD default

/-- What a path of the system leads to. -/
def look (path : String) : IO (Option Disk.Node) := do
  let path := (← IO.currentDir) / path
  if ← path.isDir then return some .folder
  else if ← path.pathExists then return some (.file (← IO.FS.readBinFile path).toList)
  else return none

/-- Brings what a path leads to, and the folders on the way, from the system to a disk. -/
def bring (disk : Disk) (path : String) : IO Disk := do
  let parts := splitText '/' path
  let mut disk := disk
  for n in [1:parts.length + 1] do
    let path := "/".intercalate (parts.take n)
    unless path.isEmpty do
      if let some node ← look path then disk := disk.setNode path node
  return disk

/-- Brings a folder of records from the system to a disk. -/
def bringRecords (disk : Disk) (folder : String) : IO Disk := do
  let mut disk ← bring disk folder
  let path := (← IO.currentDir) / folder
  if ← path.isDir then
    for entry in ← path.readDir do
      disk ← bring disk (FileStore.join folder entry.fileName)
  return disk

/-- The files that a command names. -/
def filesOf : Command → List String
  | .validate file => [file]
  | .call (.createWorkflow file) => [file]
  | .call (.createDocument _ (some data)) =>
    if data.startsWith "@" then [String.ofList data.toList.tail] else []
  | _ => []

/-- The host for an invocation. -/
def hostFor (e : Environment) (i : Invocation) : IO Host := do
  let folder := (← IO.currentDir).toString
  let mut disk ← bring { Disk.empty with home := Disk.empty.names folder } folder
  for path in filesOf i.command ++ i.settings.toList do
    disk ← bring disk path
  if let (.ok s, _, _) := Settings.load i.settings e disk then
    if s.backend == .file then
      disk ← bringRecords disk (FileStore.join s.dataFolder "workflows")
      disk ← bringRecords disk (FileStore.join s.dataFolder "documents")
      let workflows := disk.entriesIn (FileStore.join s.dataFolder "workflows")
      let documents := disk.entriesIn (FileStore.join s.dataFolder "documents")
      return ⟨disk, e, ← now, lastNumber "wf" workflows, lastNumber "doc" documents⟩
  return ⟨disk, e, ← now, 0, 0⟩

/-- Writes a file of the system beside its place and moves it there. -/
def writeFile (path : String) (content : Bytes) : IO Unit := do
  let beside := path ++ ".tmp"
  IO.FS.writeBinFile beside content.toByteArray
  IO.FS.rename beside path

/-- Writes what has changed on a disk back to the system. -/
def save (before after : Disk) : IO Unit := do
  for (path, node) in after.nodes.entries do
    if before.nodes.get? path != some node then
      match node with
      | .folder => IO.FS.createDirAll ("/" ++ path)
      | .file content => writeFile ("/" ++ path) content

/-- Reads a line of the input with its end. It is empty once the input has ended. -/
partial def readLine (input : IO.FS.Stream) (line : ByteArray) : IO ByteArray := do
  let piece ← input.read 1
  let line := line ++ piece
  if piece.isEmpty || piece[0]? == some lineFeed then return line else readLine input line

/-- Answers the lines of the input. `keep` is told about every change of the records. -/
partial def answerLines {σ : Type} [Store σ] (info : ServiceInfo) (keep : σ → σ → IO Unit)
    (d : LineDecoder) (s : σ × Ambient) : IO Unit := do
  let line ← readLine (← IO.getStdin) .empty
  let output ← IO.getStdout
  let t ← now
  if line.isEmpty then
    let (responses, records, _) := Service.finish info (fun _ => t) 0 d s
    keep s.1 records
    output.putStr (Command.encodeResponses responses)
    output.flush
  else
    let (responses, d, records, ambient) := Service.take info (fun _ => t) 0 line.toList d s
    keep s.1 records
    output.putStr (Command.encodeResponses responses)
    output.flush
    answerLines info keep d (records, ambient)

/-- Answers the requests on the input. -/
def serve (s : Settings) (h : Host) : IO Unit := do
  let ambient := Ambient.start s.timersEnabled
  let decoder := LineDecoder.start Service.maxLineBytes
  match s.backend with
  | .memory =>
    let records : MemoryStore := ⟨.empty, .empty, h.workflowIds, h.documentIds, .numbering⟩
    answerLines (Command.infoOf s) (fun _ _ => return) decoder (records, ambient)
  | .file =>
    let records : FileStore := ⟨h.disk, s.dataFolder, h.workflowIds, h.documentIds, .numbering⟩
    let keep (before after : FileStore) : IO Unit := save before.disk after.disk
    answerLines (Command.infoOf s) keep decoder (records, ambient)

/-- Prints how a command ended and gives its exit code. -/
def conclude (o : Outcome) : IO UInt32 := do
  IO.print o.output
  IO.eprint o.errors
  return o.code.toUInt32

/-- Runs an invocation on the system. -/
def runInvocation (i : Invocation) (h : Host) : IO UInt32 := do
  match i.command, Command.startServing i.settings h with
  | .serve, (.ok s, started) =>
    save h.disk started.disk
    serve s started
    return 0
  | _, _ =>
    let (o, after) := Command.perform i [] h
    save h.disk after.disk
    conclude o

end Signoff.Program

open Signoff in
/-- Runs the program. -/
def main (arguments : List String) : IO UInt32 := do
  let e ← Program.environment
  match Invocation.parse (e "DOCFLOW_CONFIG") arguments with
  | .ok i => Program.runInvocation i (← Program.hostFor e i)
  | .error detour => Program.conclude (Command.divert detour)
