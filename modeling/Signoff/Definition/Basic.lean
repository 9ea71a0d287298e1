import Signoff.Json.Schema.Fields
import Signoff.RoleSet
import Signoff.Json.Printer
import Signoff.Text.Crc32c
/-!
# Definitions of workflows

A definition names the states that a document goes through, the transitions between them and the
roles that may fire them, how long a document may stay in a state, and when a finished document is
due for approval again.

- `Definition.schema` and `Definition.toJson` read and write a definition.
- `Definition.checksum` depends on the written form only.
-/

namespace Signoff

open Json (Schema Fields memberIf memberOf?)

/-- A state of a workflow. -/
structure State where
  name : String
  initial : Bool
  terminal : Bool
deriving DecidableEq

/-- A step between two states that an event fires. -/
structure Transition where
  source : String
  target : String
  event : String
  roles : RoleSet
deriving DecidableEq

/-- When documents come back for approval, and to which state. -/
structure Reapproval where
  after : String
  target : String
deriving DecidableEq

/-- What a workflow is defined by. -/
structure Definition where
  name : String
  states : List State
  transitions : List Transition
  deadlines : Table String String
  reapproval : Option Reapproval
deriving DecidableEq

namespace State

/-- How a state is written. -/
def schema : Schema State :=
  .record "State"
    (.need "name" .text (.orElse "initial" false .flag (.orElse "terminal" false .flag .nil)))
    fun (name, initial, terminal, ()) => ⟨name, initial, terminal⟩

/-- A state as JSON; flags that are not set are left out. -/
def toJson (s : State) : Json :=
  .object (("name", .string s.name) :: memberIf s.initial "initial" (.bool true) ++
    memberIf s.terminal "terminal" (.bool true))

end State

namespace Transition

/-- How a transition is written. -/
def schema : Schema Transition :=
  .record "Transition"
    (.need "from" .text <| .need "to" .text <| .need "event" .text <|
      .orElse "roles" .empty (RoleSet.schema.orNull .empty) .nil)
    fun (source, target, event, roles, ()) => ⟨source, target, event, roles⟩

/-- A transition as JSON; an empty gate is left out. -/
def toJson (t : Transition) : Json :=
  .object ([("from", .string t.source), ("to", .string t.target), ("event", .string t.event)] ++
    memberIf (!t.roles.isEmpty) "roles" t.roles.toJson)

end Transition

namespace Reapproval

/-- How a re-approval policy is written. -/
def schema : Schema Reapproval :=
  .record "ReapprovalPolicy" (.need "after" .text <| .need "toState" .text .nil)
    fun (after, target, ()) => ⟨after, target⟩

/-- A re-approval policy as JSON. -/
def toJson (r : Reapproval) : Json :=
  .object [("after", .string r.after), ("toState", .string r.target)]

end Reapproval

namespace Definition

/-- The types of the fields of a definition. -/
abbrev FieldTypes : Type :=
  String × List State × List Transition × Table String String × Option Reapproval × Unit

/-- The types of the slots that collect the fields of a definition. -/
abbrev SlotTypes : Type :=
  Option String × Option (List State) × Option (List Transition) × Option (Table String String) ×
    Option (Option Reapproval) × Unit

/-- The fields of a definition; all may be missing. -/
def fields : Fields SlotTypes FieldTypes :=
  .orElse "name" "" .text <|
  .orElse "states" [] (.orNull [] (.list State.schema)) <|
  .orElse "transitions" [] (.orNull [] (.list Transition.schema)) <|
  .orElse "sla" .empty (.orNull .empty (.map Table.ofList (.table .text))) <|
  .orElse "reapproval" none (.optional Reapproval.schema) .nil

/-- A definition with its fields. -/
def ofFields : FieldTypes → Definition
  | (name, states, transitions, deadlines, reapproval, ()) =>
    ⟨name, states, transitions, deadlines, reapproval⟩

/-- How a definition is written. -/
def schema : Schema Definition := .record "WorkflowDefinitionRaw" fields ofFields

/-- The members of a definition. -/
def members (d : Definition) : List (String × Json) :=
  [("name", .string d.name), ("states", .array (d.states.map State.toJson)),
    ("transitions", .array (d.transitions.map Transition.toJson))] ++
    memberIf (!d.deadlines.isEmpty) "sla"
      (.object (d.deadlines.entries.map fun (state, after) => (state, .string after))) ++
    memberOf? "reapproval" Reapproval.toJson d.reapproval

/-- A definition as JSON. -/
def toJson (d : Definition) : Json := .object d.members

/-- The text that stands for a definition in its checksum. -/
def canonical (d : Definition) : String := d.toJson.compact

/-- The checksum of a definition. -/
def checksum (d : Definition) : String := Crc32c.hex (Crc32c.checksum (encode d.canonical))

/-- The first state with a name. -/
def state? (d : Definition) (name : String) : Option State := d.states.find? (·.name == name)

/-- A state has the name. -/
def declares (d : Definition) (name : String) : Bool := (d.state? name).isSome

end Definition

/-- An accepted definition, as it is kept. -/
structure Workflow where
  id : String
  definition : Definition
  createdAt : Instant
deriving DecidableEq

namespace Workflow

/-- How a workflow is written: its id and its time of creation stand beside the members of the
definition. -/
def schema : Schema Workflow :=
  .flattened "WorkflowDefinition"
    (.orElse "id" "" .text <| .need "createdAt" .instant .nil) Definition.fields
    fun (id, createdAt, ()) fields => ⟨id, Definition.ofFields fields, createdAt⟩

/-- A workflow as JSON; an empty id is left out. -/
def toJson (w : Workflow) : Json :=
  .object (memberIf (!w.id.isEmpty) "id" (.string w.id) ++ w.definition.members ++
    [("createdAt", w.createdAt.toJson)])

/-- The checksum of the definition. -/
def checksum (w : Workflow) : String := w.definition.checksum

end Workflow

end Signoff
