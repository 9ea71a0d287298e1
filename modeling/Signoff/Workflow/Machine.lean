import Signoff.Definition.Basic
import Signoff.Duration.Parser
import Signoff.Duration.Printer
import Signoff.Failure
/-!
# State machines of workflows

The machine of a workflow is its definition in the form that documents run on: the initial state,
the terminal states, the transition of every state and event, and durations as numbers.

- `Machine.ofWorkflow` builds the machine or says why there is none.
- `Machine.transition?`, `isTerminal`, `deadline?` look a state up.
- `Machine.dueAt` and `nextReapproval` are the times that follow from entering a state.
-/

namespace Signoff

/-- When documents come back for approval, and to which state. -/
structure Machine.Reapproval where
  after : Duration
  target : String
deriving DecidableEq

/-- The form of a workflow that documents run on. -/
structure Machine where
  workflowId : String
  initial : String
  terminals : List String
  transitions : Table String (Table String Transition)
  deadlines : Table String Duration
  reapproval : Option Machine.Reapproval
deriving DecidableEq

namespace Machine

/-- What keeps a workflow from having a machine. -/
inductive Defect where
  | twoInitialStates (workflow first second : String)
  | noInitialState (workflow : String)
  | duplicateTransition (source event : String)
  | badDeadline (state : String) (error : Duration.ParseError)
  | badReapproval (error : Duration.ParseError)
deriving DecidableEq

/-- The failure that a defect amounts to. -/
def Defect.toFailure : Defect → Failure
  | .twoInitialStates workflow first second =>
    .invariant s!"workflow '{workflow}' has two initial states: '{first}' and '{second}'"
  | .noInitialState workflow => .compilation s!"workflow '{workflow}' has no initial state"
  | .duplicateTransition source event =>
    .invariant s!"duplicate transition from '{source}' on event '{event}'"
  | .badDeadline state error =>
    .invariant s!"SLA for state '{state}' does not parse: {error.message}"
  | .badReapproval error => .invariant s!"reapproval.after does not parse: {error.message}"

/-- The only initial state. -/
def findInitial (d : Definition) : Except Defect String :=
  match d.states.filter (·.initial) with
  | [] => .error (.noInitialState d.name)
  | [s] => .ok s.name
  | s :: s' :: _ => .error (.twoInitialStates d.name s.name s'.name)

/-- Adds transitions to a table of transitions by source and event. -/
def addTransitions (table : Table String (Table String Transition)) :
    List Transition → Except Defect (Table String (Table String Transition))
  | [] => .ok table
  | t :: rest =>
    let events := (table.get? t.source).getD .empty
    if events.contains t.event then .error (.duplicateTransition t.source t.event)
    else addTransitions (table.insert t.source (events.insert t.event t)) rest

/-- Reads deadlines and adds them to a table. -/
def addDeadlines (table : Table String Duration) :
    List (String × String) → Except Defect (Table String Duration)
  | [] => .ok table
  | (state, after) :: rest =>
    match Duration.parse after with
    | .ok d => addDeadlines (table.insert state d) rest
    | .error e => .error (.badDeadline state e)

/-- Reads a re-approval policy. -/
def readReapproval : Option Signoff.Reapproval → Except Defect (Option Reapproval)
  | none => .ok none
  | some r =>
    match Duration.parse r.after with
    | .ok d => .ok (some ⟨d, r.target⟩)
    | .error e => .error (.badReapproval e)

/-- The machine of a workflow. -/
def ofWorkflow (w : Workflow) : Except Defect Machine := do
  let d := w.definition
  let initial ← findInitial d
  let transitions ← addTransitions .empty d.transitions
  let deadlines ← addDeadlines .empty d.deadlines.entries
  let reapproval ← readReapproval d.reapproval
  return ⟨w.id, initial, (d.states.filter (·.terminal)).map (·.name), transitions, deadlines,
    reapproval⟩

/-- Documents stay in the state for good. -/
def isTerminal (m : Machine) (state : String) : Bool := m.terminals.contains state

/-- The transition that an event fires in a state. -/
def transition? (m : Machine) (state event : String) : Option Transition :=
  (m.transitions.get? state).bind (·.get? event)

/-- The transitions that leave a state, by event. -/
def transitionsFrom (m : Machine) (state : String) : List Transition :=
  ((m.transitions.get? state).getD .empty).values

/-- The events that fire a transition in a state, increasing. -/
def eventsFrom (m : Machine) (state : String) : List String :=
  (m.transitionsFrom state).map (·.event)

/-- How long a document may stay in a state. -/
def deadline? (m : Machine) (state : String) : Option Duration := m.deadlines.get? state

/-- The instant a duration later. -/
def later (now : Instant) (d : Duration) : Except Failure Instant :=
  match now.after? d with
  | some t => .ok t
  | none => .error (.invariant s!"timestamp overflow adding {d.describe} to {now.describe}")

/-- The time by which a document that enters a state has to leave it, if there is one. -/
def dueAt (m : Machine) (state : String) (now : Instant) : Except Failure (Option Instant) :=
  match m.deadline? state with
  | none => .ok none
  | some d => (later now d).map some

/-- The time at which a document that was touched comes back for approval, if there is one. -/
def nextReapproval (m : Machine) (now : Instant) : Except Failure (Option Instant) :=
  match m.reapproval with
  | none => .ok none
  | some r => (later now r.after).map some

end Machine

end Signoff
