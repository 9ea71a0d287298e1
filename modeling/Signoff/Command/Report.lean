import Signoff.Command.Paint
import Signoff.Definition.Basic
import Signoff.Duration.Printer
import Signoff.Json.Printer
import Signoff.Text.Blank
import Signoff.Workflow.Machine
/-!
# What commands report

The texts that commands print about definitions, workflows and documents.

- `describeMachine` sums up a definition, state by state with the transitions from each.
- `describeDocument` shows a document.
-/

namespace Signoff.Command

variable (painted : Bool)

/-- The roles that a transition asks for. -/
def describeRoles (r : RoleSet) : String :=
  if r.isEmpty then Paint.dim.apply painted "anyone" else ", ".intercalate r.toList

/-- A line about a transition. -/
def describeTransition (t : Transition) : String :=
  s!"    {Paint.cyan.apply painted t.event} -> {t.target} ({describeRoles painted t.roles})\n"

/-- The lines about a state and the transitions from it. -/
def describeState (m : Machine) (s : State) : String :=
  let initial := if s.initial then " " ++ Paint.green.apply painted "[initial]" else ""
  let terminal := if s.terminal then " " ++ Paint.yellow.apply painted "[terminal]" else ""
  let deadline := match m.deadline? s.name with
    | some d => " sla=" ++ d.format
    | none => ""
  s!"  {s.name}{initial}{terminal}{deadline}\n" ++
    String.join ((m.transitionsFrom s.name).map (describeTransition painted))

/-- The line about the re-approval policy, if there is one. -/
def describeReapproval (m : Machine) : String :=
  match m.reapproval with
  | some r =>
    let title := Paint.bold.apply painted "Re-approval:"
    s!"{title} after {r.after.format} back to {r.target}\n"
  | none => ""

/-- Sums up a definition and its machine, without white space at the end. -/
def describeMachine (d : Definition) (m : Machine) : String :=
  let verdict := Paint.green.apply painted "Valid"
  let name := Paint.cyan.apply painted d.name
  let head := s!"{verdict} {name} (checksum: {d.checksum})\n"
  let title := Paint.bold.apply painted "States:" ++ "\n"
  let states := String.join (d.states.map (describeState painted m))
  String.ofList (trimEnd (head ++ title ++ states ++ describeReapproval painted m).toList)

/-- The member of an object. -/
def member? (j : Json) (key : String) : Option Json :=
  match j with
  | .object members => members.lookup key
  | _ => none

/-- The text in a member of an object. -/
def text? (j : Json) (key : String) : Option String :=
  match member? j key with
  | some (.string s) => some s
  | _ => none

/-- The text in a member of an object that ought to be there. -/
def textOf (j : Json) (key : String) : String := (text? j key).getD "?"

/-- A line about a member of an object, if it holds text. -/
def describeMember (j : Json) (key title : String) : String :=
  match text? j key with
  | some s => s!"\n  {title}: {s}"
  | none => ""

/-- Shows a document. -/
def describeDocument (j : Json) : String :=
  let data := match member? j "data" with
    | some .null => ""
    | some data => "\n  Data: " ++ data.pretty
    | none => ""
  let id := Paint.cyan.apply painted (textOf j "id")
  let workflow := textOf j "workflowId"
  let state := Paint.yellow.apply painted (textOf j "current")
  let updated := textOf j "updatedAt"
  s!"document {id}\n  Workflow: {workflow}\n  State: {state}\n  Updated: {updated}" ++
    describeMember j "dueAt" "Due" ++ describeMember j "nextReapproval" "Re-approval" ++ data

/-- Tells that a workflow was created. -/
def describeNewWorkflow (j : Json) : String :=
  let verdict := Paint.green.apply painted "Created"
  let id := Paint.cyan.apply painted (textOf j "workflow_id")
  let checksum := textOf j "checksum"
  s!"{verdict} workflow {id} (checksum: {checksum})"

/-- Shows a workflow. -/
def describeWorkflow (id : String) (j : Json) : String :=
  Paint.bold.apply painted ("Workflow " ++ Paint.cyan.apply painted id) ++ "\n" ++
    ((member? j "definition").getD .null).pretty

/-- The texts in an array. -/
def texts (j : Json) : List String :=
  match j with
  | .array items => items.filterMap fun
    | .string s => some s
    | _ => none
  | _ => []

/-- Lists events that may be fired on a document. -/
def describeEvents (id : String) (j : Json) : String :=
  let events := ", ".intercalate (((member? j "events").map texts).getD [])
  let document := Paint.cyan.apply painted id
  let state := Paint.yellow.apply painted (textOf j "current")
  if events.isEmpty then Paint.yellow.apply painted "No events available"
  else s!"{document} in {state}: {events}"

end Signoff.Command
