import Signoff.Engine
import Signoff.Message.Response
import Signoff.Service.Fault
/-!
# Carrying out requests

The service carries out requests one at a time on a state: the record store, the timer queue and the
log. Every request is answered, with a result or with the fault that kept it from one.

- `Service.handle` answers a request.
-/

namespace Signoff

/-- What the service says about itself, and its limits. -/
structure ServiceInfo where
  name : String
  version : String
  storage : String
  maxDefinitionBytes : Nat

namespace Service

variable {σ : Type}

/-- The version of the messages. -/
def protocolVersion : Nat := 1

/-- An operation of the service on a state. -/
abbrev Operation (σ α : Type) := ExceptT Fault (StateM (σ × Ambient)) α

/-- Does what the engine does; its failures are faults of the service. -/
def engine {α : Type} (a : Engine.Operation σ α) : Operation σ α := fun s =>
  let (r, s) := a s
  (r.mapError .failure, s)

/-- Reads parameters; null stands for none. -/
def readParams {α : Type} (schema : Json.Schema α) (params : Value) : Operation σ α :=
  let params := if params.isNull then Value.ofJson (.object []) else params
  match schema.ofValue params with
  | .ok a => pure a
  | .error e => throw (.badRequest e.message)

/-- Fails if a definition is too large. -/
def checkSize (info : ServiceInfo) (size : Nat) : Operation σ Unit :=
  if info.maxDefinitionBytes < size then throw (.tooLarge size info.maxDefinitionBytes)
  else pure ()

/-- What the service says about itself. -/
def describe (info : ServiceInfo) : Operation σ Value := do
  let timers := (← get).2.timers
  return .ofJson (.object [("server_name", .string info.name),
    ("server_version", .string info.version), ("protocol_version", .ofNat protocolVersion),
    ("storage_backend", .string info.storage), ("timers_enabled", .bool timers.isSome),
    ("max_definition_bytes", .ofNat info.maxDefinitionBytes)])

/-- Reads a definition, which may be given as its text. -/
def readDefinition (info : ServiceInfo) (v : Value) : Operation σ Definition :=
  match v.json with
  | .string s => do
    checkSize info s.utf8ByteSize
    engine (Action.ofExcept (Definition.ofBytes (encode s)))
  | j => do
    checkSize info j.compact.utf8ByteSize
    engine (Action.ofExcept (Definition.ofValue v))

/-- Takes the due intents out of the timer queue. -/
def pollTimers (now : Instant) (params : Value) : Operation σ Value := do
  match (← get).2.timers with
  | none => throw .timersDisabled
  | some q =>
    let p ← readParams PollTimersParams.schema params
    let (due, q) := q.popDue (p.now.getD now)
    modify fun (s, a) => (s, { a with timers := some q })
    let timers := due.map fun i => Value.ofJson i.toJson
    return .ofJson (PollTimersResult.toJson ⟨timers, q.size, q.nextFireAt⟩)

variable [Store σ]

/-- Creates a workflow. -/
def createWorkflow (info : ServiceInfo) (now : Instant) (params : Value) : Operation σ Value := do
  let p ← readParams CreateWorkflowParams.schema params
  let d ← readDefinition info p.definition
  let id ← engine (Engine.createWorkflow now d)
  return .ofJson (CreateWorkflowResult.toJson ⟨id, d.checksum⟩)

/-- Gets a workflow. -/
def getWorkflow (params : Value) : Operation σ Value := do
  let p ← readParams GetWorkflowParams.schema params
  let w ← engine (Engine.getWorkflow p.workflowId)
  return .ofJson (GetWorkflowResult.toJson ⟨.ofJson w.toJson, w.checksum⟩)

/-- Creates a document. -/
def createDocument (now : Instant) (params : Value) : Operation σ Value := do
  let p ← readParams CreateDocumentParams.schema params
  let d ← engine (Engine.createDocument now p.workflowId p.data)
  return .ofJson d.toJson

/-- Gets a document. -/
def getDocument (params : Value) : Operation σ Value := do
  let p ← readParams GetDocumentParams.schema params
  let d ← engine (Engine.getDocument p.documentId)
  return .ofJson d.toJson

/-- Fires an event on a document. -/
def applyEvent (now : Instant) (params : Value) : Operation σ Value := do
  let p ← readParams ApplyEventParams.schema params
  let d ← engine (Engine.applyEvent now p.documentId p.event (.ofList p.roles))
  return .ofJson d.toJson

/-- Lists the events that an actor may fire on a document. -/
def availableEvents (params : Value) : Operation σ Value := do
  let p ← readParams AvailableEventsParams.schema params
  let a ← engine (Engine.availableEvents p.documentId (.ofList p.roles))
  return .ofJson a.toJson

/-- Carries out an operation. -/
def perform (info : ServiceInfo) (now : Instant) (operation : Signoff.Operation)
    (params : Value) : Operation σ Value :=
  match operation with
  | .ping => pure (.ofJson (.object [("pong", .bool true)]))
  | .info => describe info
  | .createWorkflow => createWorkflow info now params
  | .getWorkflow => getWorkflow params
  | .createDocument => createDocument now params
  | .getDocument => getDocument params
  | .applyEvent => applyEvent now params
  | .availableEvents => availableEvents params
  | .pollTimers => pollTimers now params

/-- What a response tells about a fault. -/
def errorOf (fault : Fault) : ResponseError :=
  let e := { ResponseError.ofCode fault.code fault.message with retryable := fault.isRetryable }
  match fault with
  | .failure (.forbidden _ _ required) =>
    e.withDetail "required_roles" (.ofJson (.array (required.map .string)))
  | _ => e

/-- Answers a request at a time. The clock is read twice for a request, by the operation and for the
server time of its result; `now` stands for both readings, so the clock is taken to stand still
while a request is carried out. -/
def handle (info : ServiceInfo) (now : Instant) (r : Request) (s : σ × Ambient) :
    Response × σ × Ambient :=
  match perform info now r.operation r.params s with
  | (.ok v, s) => ((Response.ok r.id v).at_ now, s)
  | (.error fault, s) => (.refuse r.id (errorOf fault), s)

end Service

end Signoff
