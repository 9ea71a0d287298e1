import Signoff.Log
import Signoff.Definition.Validity
import Signoff.Timer.Queue
import Signoff.Store.Basic
import Signoff.Message.Params
import Signoff.Json.Schema.Reader
/-!
# The engine

The engine accepts definitions, makes documents and moves them along the transitions of their
workflow. It works on any record store and keeps nothing itself: the machine of a workflow is built
from its stored definition every time. Beside the store it has a timer queue, which it tells about
every document that was made or moved, and a log.

- `Document.fire` is the move of one document; it needs no store.
- `Engine.createWorkflow`, `createDocument`, `applyEvent` change the store, `getWorkflow`,
  `getDocument`, `availableEvents` look at it.
-/

namespace Signoff

/-- What the engine has beside its store. Without a timer queue it tells nobody about documents. -/
structure Ambient where
  timers : Option TimerQueue
  log : List LogLine

/-- The ambient with an empty queue, or without one. -/
def Ambient.start (withTimers : Bool) : Ambient :=
  ⟨if withTimers then some .empty else none, []⟩

/-- Schedules the intents of a document in place of those it had. -/
def Ambient.schedule (a : Ambient) (m : Machine) (d : Document) : Ambient :=
  { a with timers := a.timers.map fun q => q.replace d.id (Intent.ofDocument d m) }

/-- Adds a line to the log. -/
def Ambient.note (a : Ambient) (severity : Severity) (text : String) : Ambient :=
  { a with log := a.log ++ [⟨severity, text⟩] }

/-- Moves a document along the transition that an event fires, on behalf of an actor. -/
def Document.fire (d : Document) (m : Machine) (event : String) (roles : RoleSet)
    (now : Instant) : Except Failure Document :=
  if m.isTerminal d.current then .error (.terminalState d.id d.current)
  else
    match m.transition? d.current event with
    | none => .error (.invalidTransition d.current event)
    | some t =>
      if t.roles.permits roles then do
        let d := d.enter t.target now
        let dueAt ← m.dueAt d.current now
        let nextReapproval ← m.nextReapproval now
        return { d with dueAt, nextReapproval }
      else .error (.forbidden d.current event t.roles.toList)

/-- The events that an actor may fire on a document. -/
def Document.events (d : Document) (m : Machine) (roles : RoleSet) : List String :=
  if m.isTerminal d.current then []
  else ((m.transitionsFrom d.current).filter (·.roles.permits roles)).map (·.event)

/-- The failure to read a definition. -/
def unreadable (e : Json.Error) : Failure := .invalidDefinition s!"invalid json: {e.message}"

/-- Reads the text of a definition. -/
def Definition.ofBytes (bytes : Bytes) : Except Failure Definition :=
  (Definition.schema.ofText (.ofBytes bytes)).mapError unreadable

/-- Reads the JSON of a definition. -/
def Definition.ofValue (v : Value) : Except Failure Definition :=
  (Definition.schema.ofValue v).mapError unreadable

namespace Engine

variable {σ : Type}

/-- An operation of the engine on a store. -/
abbrev Operation (σ α : Type) := Action (σ × Ambient) α

/-- Logs the failures that should not happen. -/
def reporting {α : Type} (a : Operation σ α) : Operation σ α := fun s =>
  match a s with
  | (.ok r, s) => (.ok r, s)
  | (.error f, (s, ambient)) =>
    (.error f, (s, if f.isInternal then ambient.note .error f.message else ambient))

/-- The machine of a workflow. -/
def machineOf (w : Workflow) : Operation σ Machine :=
  .ofExcept ((Machine.ofWorkflow w).mapError Machine.Defect.toFailure)

variable [Store σ]

/-- Accepts a definition and keeps it. Gives the id of the workflow. -/
def createWorkflow (now : Instant) (d : Definition) : Operation σ String := do
  for state in d.strayDeadlines do
    Action.changeSecond fun a => a.note .warning (d.strayWarning state)
  match d.accept now with
  | .error e => throw (.invalidDefinition e.message)
  | .ok w =>
    let _ ← reporting (machineOf w)
    (Store.saveWorkflow w).onFirst

/-- Accepts a definition from its text. -/
def createWorkflowText (now : Instant) (bytes : Bytes) : Operation σ String := do
  createWorkflow now (← Action.ofExcept (Definition.ofBytes bytes))

/-- The workflow with an id. -/
def getWorkflow (id : String) : Operation σ Workflow := do
  match ← (Store.getWorkflow id).onFirst with
  | some w => return w
  | none => throw (.workflowNotFound id)

/-- The machine of the workflow with an id. -/
def getMachine (id : String) : Operation σ Machine := do
  let w ← getWorkflow id
  reporting (machineOf w)

/-- Makes a document in the initial state of a workflow. -/
def createDocument (now : Instant) (workflowId : String) (data : Value) :
    Operation σ Document := do
  let m ← getMachine workflowId
  let dueAt ← Action.ofExcept (m.dueAt m.initial now)
  let nextReapproval ← Action.ofExcept (m.nextReapproval now)
  let d := { Document.create workflowId m.initial data now with dueAt, nextReapproval }
  let id ← Store.createDocumentThen d fun d a => a.schedule m d
  return { d with id }

/-- The document with an id. -/
def getDocument (id : String) : Operation σ Document := do
  match ← (Store.getDocument id).onFirst with
  | some d => return d
  | none => throw (.documentNotFound id)

/-- Fires an event on a document on behalf of an actor. -/
def applyEvent (now : Instant) (id event : String) (roles : RoleSet) : Operation σ Document :=
  reporting do
    let (d, _) ← Store.modifyDocumentThen id
      (fun d => do
        let m ← machineOf (← getWorkflow d.workflowId)
        let d ← Action.ofExcept (d.fire m event roles now)
        return (d, m))
      (fun d m a => a.schedule m d)
    return d

/-- The events that an actor may fire on a document. -/
def availableEvents (id : String) (roles : RoleSet) : Operation σ AvailableEvents := do
  let d ← getDocument id
  let m ← getMachine d.workflowId
  return ⟨d.id, d.current, d.events m roles⟩

end Engine

end Signoff
