import Signoff.Definition.Basic
import Signoff.Duration.Parser
/-!
# Valid definitions

What a definition must satisfy to be accepted: it has a name and states, the states are named apart
and one of them is initial, transitions go between declared states and no two fire on the same event
in the same state, all durations can be read, and documents come back to a declared state.

- `Definition.check` finds the first defect.
- `Definition.strayDeadlines` lists the deadlines that can never apply; they are no defects.
-/

namespace Signoff.Definition

/-- What keeps a definition from being accepted. -/
inductive Defect where
  | empty
  | unnamedState
  | duplicateState (name : String)
  | initialCount (count : Nat)
  | incompleteTransition
  | unknownSource (name : String)
  | unknownTarget (name : String)
  | duplicateTransition (source event : String)
  | badDeadline (state : String) (error : Duration.ParseError)
  | unknownReapproval (name : String)
  | badReapproval (error : Duration.ParseError)
deriving DecidableEq

/-- The wording of a defect. -/
def Defect.message : Defect → String
  | .empty => "name/states required"
  | .unnamedState => "state without name"
  | .duplicateState name => s!"duplicated state '{name}'"
  | .initialCount count => s!"there must be exactly 1 initial state, found {count}"
  | .incompleteTransition => "transition missing from/to/event"
  | .unknownSource name => s!"transition source '{name}' not in states list"
  | .unknownTarget name => s!"transition target '{name}' not in states list"
  | .duplicateTransition source event =>
    s!"duplicate transition from '{source}' on event '{event}'"
  | .badDeadline state error => s!"invalid SLA duration for state '{state}': {error.message}"
  | .unknownReapproval name => s!"reapproval.toState '{name}' is not a declared state"
  | .badReapproval error => s!"invalid reapproval.after duration: {error.message}"

/-- Fails with a defect unless a condition holds. -/
def require (condition : Bool) (defect : Defect) : Except Defect Unit :=
  if condition then .ok () else .error defect

/-- Every state has a name, and none of the names before. -/
def checkStates : (before : List String) → List State → Except Defect Unit
  | _, [] => .ok ()
  | before, s :: rest => do
    require (!s.name.isEmpty) .unnamedState
    require (!before.contains s.name) (.duplicateState s.name)
    checkStates (s.name :: before) rest

/-- Every transition goes between declared states, and no earlier one has its source and event. -/
def checkTransitions (d : Definition) :
    (before : List (String × String)) → List Transition → Except Defect Unit
  | _, [] => .ok ()
  | before, t :: rest => do
    require (!t.source.isEmpty && !t.target.isEmpty && !t.event.isEmpty) .incompleteTransition
    require (d.declares t.source) (.unknownSource t.source)
    require (d.declares t.target) (.unknownTarget t.target)
    require (!before.contains (t.source, t.event)) (.duplicateTransition t.source t.event)
    d.checkTransitions ((t.source, t.event) :: before) rest

/-- Every deadline is a duration. -/
def checkDeadlines : List (String × String) → Except Defect Unit
  | [] => .ok ()
  | (state, after) :: rest =>
    match Duration.parse after with
    | .ok _ => checkDeadlines rest
    | .error e => .error (.badDeadline state e)

/-- Documents come back to a declared state after a duration. -/
def checkReapproval (d : Definition) : Except Defect Unit :=
  match d.reapproval with
  | none => .ok ()
  | some r => do
    require (!r.target.isEmpty && d.declares r.target) (.unknownReapproval r.target)
    match Duration.parse r.after with
    | .ok _ => .ok ()
    | .error e => .error (.badReapproval e)

/-- The number of initial states. -/
def initialCount (d : Definition) : Nat := d.states.countP (·.initial)

/-- What is checked before the durations. -/
def checkStructure (d : Definition) : Except Defect Unit := do
  require (!d.name.isEmpty && !d.states.isEmpty) .empty
  checkStates [] d.states
  require (d.initialCount == 1) (.initialCount d.initialCount)
  d.checkTransitions [] d.transitions

/-- Finds the first defect of a definition. -/
def check (d : Definition) : Except Defect Unit := do
  d.checkStructure
  checkDeadlines d.deadlines.entries
  d.checkReapproval

/-- The states without a declaration that have a deadline, up to the first deadline that is no
duration, in a definition of sound structure. -/
def strayDeadlines (d : Definition) : List String :=
  match d.checkStructure with
  | .error _ => []
  | .ok () =>
    ((d.deadlines.entries.takeWhile fun x => (Duration.parse x.2).isOk).filter fun x =>
      !d.declares x.1).map (·.1)

/-- The warning about a deadline that never applies. -/
def strayWarning (d : Definition) (state : String) : String :=
  s!"workflow '{d.name}': SLA entry for undeclared state '{state}' will never apply"

/-- Accepts a definition at a time. -/
def accept (d : Definition) (now : Instant) : Except Defect Workflow := do
  d.check
  return ⟨"", d, now⟩

end Signoff.Definition
